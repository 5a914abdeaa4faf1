import DashIndex.Config.Basic
import DashIndex.Files.Path

/-!
# Default places

The configuration lies below the configuration directory and the store below the
data directory of the user. Both can be moved by the environment, but only to an
absolute path.
-/

namespace DashIndex

/-- What the environment says about places. -/
structure Environment where
  home : String
  dataHome : Option String := none
  configHome : Option String := none
  deriving DecidableEq, Repr

namespace Environment

/-- The directory that the environment names if it is an absolute path, else one below the home. -/
def base (e : Environment) (named : Option String) (belowHome : String) : String :=
  match named with
  | some path => if Path.isAbsolute path then path else Path.join e.home belowHome
  | none => Path.join e.home belowHome

/-- The directory of the program below a directory. -/
def ownDirectory (directory : String) : String :=
  Path.join directory "dashboard-search"

/-- The directory of the data. -/
def dataDirectory (e : Environment) : String :=
  ownDirectory (e.base e.dataHome ".local/share")

/-- The default place of the store. -/
def storePath (e : Environment) : String :=
  Path.join e.dataDirectory "dashboards.db"

/-- The default place of the configuration. -/
def configPath (e : Environment) : String :=
  Path.join (ownDirectory (e.base e.configHome ".config")) "config.toml"

end Environment

/-- The place of the store: the one asked for, else the configured one, else the default. -/
def Config.storePath (c : Config) (e : Environment) (asked : Option String) : String :=
  (asked.or c.dbPath).getD e.storePath

end DashIndex
