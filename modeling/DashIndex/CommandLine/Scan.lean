import DashIndex.CommandLine.Grammar

/-!
# Scanning arguments

Arguments are taken one by one. An option may carry its value after a `=`, which
is checked at once, or take the next argument as its value. In the second case
the value stays pending, and is checked only when the next option or argument
without a name is accepted or the arguments end; an argument that is not known
is therefore reported before a bad value that is still pending.

An argument that starts with a dash is never a value of its own, except a lone
dash. After `--` every argument is one without a name.
-/

namespace DashIndex.CommandLine

/-- What an argument looks like. -/
inductive Shape where
  /-- two dashes and nothing else -/
  | escape
  /-- two dashes and a name, perhaps with `=` and a value -/
  | long (name : String) (value : Option String)
  /-- a single dash with the letter after it -/
  | short (letter : Char)
  /-- anything else -/
  | word
  deriving DecidableEq, Repr

namespace Shape

/-- The look of an argument after two dashes. -/
def ofLong (cs : List Char) : Shape :=
  match cs.dropWhile (· != '=') with
  | [] => .long (String.ofList cs) none
  | _ :: value => .long (String.ofList (cs.takeWhile (· != '='))) (some (String.ofList value))

/-- The look of an argument after its first dash. -/
def ofDashed : List Char → Shape
  | [] => .word
  | c :: cs => if c = '-' then (if cs = [] then .escape else ofLong cs) else .short c

/-- The look of an argument. -/
def of (arg : String) : Shape :=
  match arg.toList with
  | [] => .word
  | c :: cs => if c = '-' then ofDashed cs else .word

end Shape

/-- Something accepted whose value is not settled yet. -/
inductive Pending where
  | option (spec : OptionSpec) (value : Option String)
  | positional (kind : ValueKind) (value : String)
  deriving DecidableEq, Repr

/-- What has been taken so far. -/
structure Scan where
  /-- the options with their values, in the order in which they stand; a flag has the empty value -/
  given : List (String × String) := []
  /-- the argument without a name -/
  positional : Option String := none
  pending : Option Pending := none
  /-- whether `--` has been passed -/
  escaped : Bool := false
  deriving DecidableEq, Repr

namespace Scan

/-- Whether an option has been given. -/
def has (s : Scan) (name : String) : Bool :=
  s.given.any (·.1 == name)

/-- The value of an option. -/
def value? (s : Scan) (name : String) : Option String :=
  (s.given.find? (·.1 == name)).map (·.2)

/-- All values of an option, in their order. -/
def values (s : Scan) (name : String) : List String :=
  (s.given.filter (·.1 == name)).map (·.2)

/-- Take an option with its value. -/
def accept (s : Scan) (spec : OptionSpec) (value : String) : Except UsageError Scan :=
  let taken := { s with given := s.given ++ [(spec.name, value)] }
  match spec.takes with
  | .nothing => if s.has spec.name then .error .argumentConflict else .ok taken
  | .one kind =>
    if s.has spec.name then .error .argumentConflict
    else
      match kind.check value with
      | .error e => .error e
      | .ok () => .ok taken
  | .many kind =>
    match kind.check value with
    | .error e => .error e
    | .ok () => .ok taken

/-- Check and take what is pending. -/
def settle (s : Scan) : Except UsageError Scan :=
  let free := { s with pending := none }
  match s.pending with
  | none => .ok free
  | some (.option _ none) => .error .invalidValue
  | some (.option spec (some value)) => free.accept spec value
  | some (.positional kind value) =>
    match kind.check value with
    | .error e => .error e
    | .ok () => .ok { free with positional := some value }

/-- Settle, and then report: what is pending is checked before help or version is shown. -/
def showing (s : Scan) (e : UsageError) : Except UsageError Scan :=
  match s.settle with
  | .error pending => .error pending
  | .ok _ => .error e

/-- Settle, and then take an option with its value. -/
def settleAccept (s : Scan) (spec : OptionSpec) (value : String) : Except UsageError Scan :=
  match s.settle with
  | .error e => .error e
  | .ok s => s.accept spec value

/-- Take an option by its name, with the value after its `=`. -/
def long (g : Grammar) (s : Scan) (name : String) (value : Option String) :
    Except UsageError Scan :=
  match g.find? name, value with
  | some ⟨n, .nothing⟩, none => s.settleAccept ⟨n, .nothing⟩ ""
  | some ⟨_, .nothing⟩, some _ => .error .tooManyValues
  | some spec, some value => s.settleAccept spec value
  | some spec, none =>
    match s.settle with
    | .error e => .error e
    | .ok s => .ok { s with pending := some (.option spec none) }
  | none, value =>
    if name = "help" ∨ (g.hasVersion ∧ name = "version") then
      if value.isSome then .error .tooManyValues
      else s.showing (if name = "help" then .displayHelp else .displayVersion)
    else .error .unknownArgument

/-- Take an option by its letter. -/
def short (g : Grammar) (s : Scan) (letter : Char) : Except UsageError Scan :=
  if letter = 'h' then s.showing .displayHelp
  else if g.hasVersion ∧ letter = 'V' then s.showing .displayVersion
  else .error .unknownArgument

/-- Whether the argument without a name has been given. -/
def positionalTaken (s : Scan) : Bool :=
  match s.pending with
  | some (.positional _ _) => true
  | _ => s.positional.isSome

/-- Take an argument without a name. -/
def unnamed (g : Grammar) (s : Scan) (arg : String) : Except UsageError Scan :=
  match g.positional with
  | none => .error .unknownArgument
  | some kind =>
    if s.positionalTaken then .error .unknownArgument
    else
      match s.settle with
      | .error e => .error e
      | .ok s => .ok { s with pending := some (.positional kind arg) }

/-- Take one argument; `word` takes one that is neither an option nor a value. -/
def step (g : Grammar) (word : Scan → String → Except UsageError Scan) (s : Scan) (arg : String) :
    Except UsageError Scan :=
  if s.escaped then word s arg
  else
    match Shape.of arg with
    | .escape => .ok { s with escaped := true }
    | .long name value => s.long g name value
    | .short letter => s.short g letter
    | .word =>
      match s.pending with
      | some (.option spec none) => .ok { s with pending := some (.option spec (some arg)) }
      | _ => word s arg

/-- Take the arguments of a command. -/
def all (g : Grammar) (s : Scan) : List String → Except UsageError Scan
  | [] => s.settle
  | arg :: args =>
    match s.step g (unnamed g) arg with
    | .error e => .error e
    | .ok s => all g s args

end Scan

end DashIndex.CommandLine
