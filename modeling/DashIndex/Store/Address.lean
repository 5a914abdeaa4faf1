import DashIndex.Json.Reader

/-!
# Addresses of stores

A store is named by a path, or by an address: `file:` and a path, then perhaps a
question mark and options. An option is a name, an equals sign and a value; `&`
stands between two options, and what follows a number sign does not count. In a
path, a name and a value a percent sign with two hexadecimal digits stands for a
byte, and the byte zero ends it. Two slashes before the path may be followed by
`localhost`.

`mode` says what may be done with the store, `cache` and `vfs` how it is kept,
`nolock` and `immutable` that nobody else uses or changes it. Of these only the
effect on a run is held here; options with other names have none.
-/

namespace DashIndex

/-- Why an address is refused. -/
inductive AddressError where
  /-- it names a machine -/
  | machine (name : String)
  | noSuchAccess (name : String)
  /-- a later option asks for more than an earlier one allows -/
  | accessNotAllowed (name : String)
  | noSuchCache (name : String)
  | noSuchKeeper (name : String)
  deriving DecidableEq, Repr

/-- The wording of a refusal and its cause. -/
def AddressError.message : AddressError → String
  | .machine name => "invalid uri authority: " ++ name ++ ": Error code 1: SQL logic error"
  | .noSuchAccess name => "no such access mode: " ++ name ++ ": Error code 1: SQL logic error"
  | .accessNotAllowed name =>
    "access mode not allowed: " ++ name ++ ": Error code 3: access permission denied"
  | .noSuchCache name => "no such cache mode: " ++ name ++ ": Error code 1: SQL logic error"
  | .noSuchKeeper name => "no such vfs: " ++ name ++ ": Error code 1: SQL logic error"

/-- What may be done with the store at an address. -/
inductive Access where
  /-- read it if it is there -/
  | read
  /-- read and change it if it is there -/
  | change
  /-- read and change it, making it first if it is not there -/
  | create
  /-- anything, but it ends with the run -/
  | memory
  deriving DecidableEq, Repr

namespace Access

/-- The access of a name. -/
def ofName? (name : String) : Option Access :=
  if name = "ro" then some .read
  else if name = "rw" then some .change
  else if name = "rwc" then some .create
  else if name = "memory" then some .memory
  else none

/-- How far an access goes. -/
def extent : Access → Nat
  | .read => 1
  | .change => 2
  | .create => 3
  | .memory => 4

/-- Whether an access may be narrowed to another one; a store in memory is always allowed. -/
def allows (held asked : Access) : Bool :=
  asked = .memory || asked.extent ≤ held.extent

end Access

/-- How a store is kept. -/
inductive Keeper where
  /-- in a file, with a log of changes beside it -/
  | logging
  /-- in a file that shares nothing with other runs, so that there is no log -/
  | solitary
  | memory
  deriving DecidableEq, Repr

/-- The keeper of a name. -/
def Keeper.ofName? (name : String) : Option Keeper :=
  if name = "unix" || name = "unix-excl" then some .logging
  else if name = "unix-none" || name = "unix-dotfile" then some .solitary
  else if name = "memdb" then some .memory
  else none

/-- A store by its path, and what its address says about it. -/
structure StoreAddress where
  path : String
  access : Access := .create
  keeper : Keeper := .logging
  /-- whether the file counts as one that never changes -/
  frozen : Bool := false
  deriving DecidableEq, Repr

/-- Whether a name says how the pages of a store are cached, which no answer depends on. -/
def isCacheName (name : String) : Bool := name = "shared" || name = "private"

/-! ## Reading an address -/

/-- The byte that two hexadecimal digits spell. -/
def hexByte? (a b : Char) : Option UInt8 :=
  match Json.hexValue? a, Json.hexValue? b with
  | some a, some b => some (UInt8.ofNat (a * 16 + b))
  | _, _ => none

/-- The bytes of characters with escapes, up to an escaped zero. -/
def unescape : List Char → List UInt8
  | [] => []
  | c :: a :: b :: cs =>
    match if c = '%' then hexByte? a b else none with
    | some byte => if byte = 0 then [] else byte :: unescape cs
    | none => String.utf8EncodeChar c ++ unescape (a :: b :: cs)
  | c :: cs => String.utf8EncodeChar c ++ unescape cs

/-- The text of bytes; bytes that are no text count as the characters of the same numbers. -/
def textOfBytes (bytes : List UInt8) : String :=
  (String.fromUTF8? ⟨bytes.toArray⟩).getD (String.ofList (bytes.map fun b => Char.ofNat b.toNat))

/-- The text that characters with escapes stand for. -/
def unescaped (cs : List Char) : String := textOfBytes (unescape cs)

/-- The pieces between two marks; `piece` is the piece read so far, in reverse. -/
def piecesFrom (mark : Char) (piece : List Char) : List Char → List (List Char)
  | [] => [piece.reverse]
  | c :: cs =>
    if c = mark then piece.reverse :: piecesFrom mark [] cs else piecesFrom mark (c :: piece) cs

/-- What follows the first mark; nothing if there is none. -/
def afterMark (mark : Char) (cs : List Char) : List Char :=
  (cs.dropWhile (· != mark)).drop 1

/-- The options of an address; one without a name does not count. -/
def optionsOf (cs : List Char) : List (String × String) :=
  ((piecesFrom '&' [] cs).map fun piece =>
      (unescaped (piece.takeWhile (· != '=')), unescaped (afterMark '=' piece))).filter
    (·.1 != "")

/-- Whether the value of an option says yes: by a number whose last byte is not zero, or a word. -/
def saysYes (value : String) : Bool :=
  let digits := value.toList.takeWhile Char.isDigit
  if digits.isEmpty then value.toLower = "on" || value.toLower = "yes" || value.toLower = "true"
  else
    let n := digits.foldl (fun n d => n * 10 + (d.toNat - '0'.toNat)) 0
    n < 2147483648 && n % 256 != 0

namespace StoreAddress

/-- The access after the options named `mode`, and a check of those named `cache`. -/
def accessAfter (held : Access) : List (String × String) → Except AddressError Access
  | [] => .ok held
  | (name, value) :: options =>
    if name = "mode" then
      match Access.ofName? value with
      | none => .error (.noSuchAccess value)
      | some asked =>
        if held.allows asked then accessAfter asked options else .error (.accessNotAllowed value)
    else if name = "cache" && !isCacheName value then .error (.noSuchCache value)
    else accessAfter held options

/-- The keeper that the last option named `vfs` asks for. -/
def keeperOf (options : List (String × String)) : Except AddressError Keeper :=
  match options.reverse.lookup "vfs" with
  | none => .ok .logging
  | some name =>
    match Keeper.ofName? name with
    | some keeper => .ok keeper
    | none => .error (.noSuchKeeper name)

/-- Whether the first option of a name says yes. -/
def isSet (options : List (String × String)) (name : String) : Bool :=
  (options.lookup name).any saysYes

/-- The address of a path with options. -/
def withOptions (path : String) (options : List (String × String)) :
    Except AddressError StoreAddress := do
  let access ← accessAfter .create options
  let keeper ← keeperOf options
  let solitary := keeper = .logging && isSet options "nolock"
  return ⟨path, access, if solitary then .solitary else keeper, isSet options "immutable"⟩

/-- What follows two slashes and the name of a machine, which must be the own one or none. -/
def afterMachine (cs : List Char) : Except AddressError (List Char) :=
  if cs.take 2 = ['/', '/'] then
    let name := String.ofList ((cs.drop 2).takeWhile (· != '/'))
    if name = "" || name = "localhost" then .ok ((cs.drop 2).dropWhile (· != '/'))
    else .error (.machine name)
  else .ok cs

/-- The address that a text spells; without `file:` it is a path. -/
def ofText (text : String) : Except AddressError StoreAddress :=
  if text.toList.take 5 = ['f', 'i', 'l', 'e', ':'] then do
    let cs ← afterMachine (text.toList.drop 5)
    let cs := cs.takeWhile (· != '#')
    withOptions (unescaped (cs.takeWhile (· != '?'))) (optionsOf (afterMark '?' cs))
  else .ok { path := text }

/-- Whether the store ends with the run. -/
def isTransient (a : StoreAddress) : Bool :=
  a.path = "" || a.path = ":memory:" || a.access = .memory || a.keeper = .memory

example : (ofText "file:a%20b?mode=rw&x#y").toOption = some ⟨"a b", .change, .logging, false⟩ := by
  decide +kernel
example : (ofText "file://localhost/a?nolock=1").toOption =
    some ⟨"/a", .create, .solitary, false⟩ := by
  decide +kernel
example : (ofText "file:a?mode=ro&mode=rw").toOption = none := by decide +kernel

end StoreAddress

end DashIndex
