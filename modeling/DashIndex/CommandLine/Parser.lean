import DashIndex.CommandLine.Scan

/-!
# Parsing a command line

The arguments before the command are scanned with the options that every command
knows, those after it with the options of the command. What is pending before
the command is checked last. A place that is given on both sides counts as given
after the command.
-/

namespace DashIndex.CommandLine

/-- A number that has been checked. -/
def natural? (s : String) : Option UInt64 :=
  match Text.readUInt64 s with
  | .ok n => some (UInt64.ofNat n.toNat)
  | .error _ => none

/-- An integer that has been checked. -/
def integer? (s : String) : Option Int64 :=
  match Text.readInt64 s with
  | .ok n => some (Int64.ofInt n)
  | .error _ => none

/-- The search that the arguments ask for. -/
def SearchArguments.ofScan (s : Scan) : SearchArguments where
  query := s.positional.getD ""
  sort := s.value? "sort"
  tags := s.values "tag"
  folder := s.value? "folder"
  limit := (s.value? "limit").bind natural?
  page := ((s.value? "page").bind natural?).getD 1
  json := s.has "json"

/-- The addition that the arguments ask for; the uid and the title must be given. -/
def AddArguments.ofScan (s : Scan) : Except UsageError AddArguments :=
  match s.value? "uid", s.value? "title" with
  | some uid, some title =>
    .ok { uid, title, folder := s.value? "folder", tags := s.values "tag",
          views := ((s.value? "views").bind integer?).getD 0 }
  | _, _ => .error .missingArgument

/-- The command that the arguments ask for. -/
def Command.ofScan (sub : Subcommand) (s : Scan) : Except UsageError Command :=
  match sub with
  | .sortOptions => .ok (.sortOptions (s.has "json"))
  | .search => .ok (.search (.ofScan s))
  | .add =>
    match AddArguments.ofScan s with
    | .error e => .error e
    | .ok a => .ok (.add a)
  | .completions =>
    match s.positional.bind Shell.ofName? with
    | some shell => .ok (.completions shell)
    | none => .error .missingArgument
  | .help => .error .displayHelp

/-- What the arguments after `help` come to: the name of a command may follow, and nothing else. -/
def helpFor : List String → UsageError
  | [] => .displayHelp
  | [name] => if (Subcommand.ofName? name).isSome then .displayHelp else .invalidSubcommand
  | _ => .invalidSubcommand

/-- The invocation of a command, given what stands before it and the arguments after it. -/
def Invocation.ofArguments (top : Scan) (sub : Subcommand) (args : List String) :
    Except UsageError Invocation :=
  match sub with
  | .help => .error (helpFor args)
  | sub =>
    match Scan.all sub.grammar {} args with
    | .error e => .error e
    | .ok s =>
      match Command.ofScan sub s with
      | .error e => .error e
      | .ok command =>
        match top.settle with
        | .error e => .error e
        | .ok top =>
          .ok ⟨(s.value? "config").or (top.value? "config"),
            (s.value? "db").or (top.value? "db"), command⟩

/-- What an argument that is no command comes to, where a command is expected. -/
def noCommand (s : Scan) (arg : String) : UsageError :=
  if s.escaped && (Subcommand.ofName? arg).isSome then .unknownArgument else .invalidSubcommand

/-- Whether the next argument is the value of an option. -/
def Scan.awaitsValue (s : Scan) : Bool :=
  match s.pending with
  | some (.option _ none) => true
  | _ => false

/-- Parse the arguments from before the command on. -/
def parseFrom (s : Scan) : List String → Except UsageError Invocation
  | [] =>
    match s.settle with
    | .error e => .error e
    | .ok s => if s.given.isEmpty then .error .nothingGiven else .error .missingSubcommand
  | arg :: args =>
    match Subcommand.ofName? arg, s.escaped || s.awaitsValue with
    | some sub, false => Invocation.ofArguments s sub args
    | _, _ =>
      match s.step topGrammar (fun s a => .error (noCommand s a)) arg with
      | .error e => .error e
      | .ok s => parseFrom s args

/-- Parse a command line without the name of the program. -/
def parse (args : List String) : Except UsageError Invocation :=
  parseFrom {} args

end DashIndex.CommandLine
