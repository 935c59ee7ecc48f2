import ParenTokens.Command.Usage

namespace ParenTokens.Command

/-!
# Reading arguments

An argument that starts with a hyphen is an option, unless it is a hyphen alone, a negative number, or has a space in
it; the first argument of two hyphens ends the options. A long option may be cut short as long as it is the only one
that starts so, and may have its argument after an equals sign.

* `Invocation`, `Request`: what arguments ask for.
* `Occurrence.ofArgument?`: the option that an argument is.
* `Reading`, `Reading.run`: the arguments of a subcommand.
* `Request.ofArguments`: all arguments.
-/

/-! ### What arguments ask for -/

/-- Which settings are asked for: those near the working directory, or those in a file. An option whose argument is two
hyphens stays without one. -/
inductive SettingsChoice
  | near
  | file (path : Text)
  | unnamed
deriving DecidableEq, Repr

/-- A subcommand with its arguments. -/
inductive Invocation
  | init (directory : Text)
  | tokenize (file : Text) (format : Option OutputFormat) (plain : Bool) (settings : SettingsChoice)
  | check (files : List Text) (plain : Bool) (settings : SettingsChoice)
deriving DecidableEq, Repr

/-- What arguments ask for. -/
inductive Request
  | help (page : Page)
  | misuse (page : Page) (error : UsageError)
  | invoke (invocation : Invocation)
deriving DecidableEq, Repr

/-- What ends the reading of arguments early. -/
inductive Stop
  | help
  | misuse (error : UsageError)
deriving DecidableEq, Repr

/-! ### Options -/

/-- An option as it stands among the arguments: which one, if it is known, whether by its one-letter name, and the
argument that is written together with it. -/
structure Occurrence where
  flag : Option Flag
  short : Bool
  value : Option Text
deriving DecidableEq, Repr

def hyphen : CodePoint := CodePoint.ofChar '-'

/-- The argument that ends the options. -/
def endOfOptions : Text := [hyphen, hyphen]

/-- Whether an argument is a negative number: digits, perhaps a point before the last of them. -/
def isNegativeNumber (t : Text) : Bool :=
  match t with
  | [] => false
  | c :: rest =>
    let number := if rest.getLast? == some Text.newline then rest.dropLast else rest
    let fraction := number.dropWhile CodePoint.isDecimalDigit
    c == hyphen && !number.isEmpty &&
      (fraction.isEmpty || (fraction.head? == some (CodePoint.ofChar '.') && fraction.length != 1 &&
        (fraction.drop 1).all CodePoint.isDecimalDigit))

/-- An argument before and after its first equals sign. -/
def splitValue (t : Text) : Text × Option Text :=
  let before := t.takeWhile (· != CodePoint.ofChar '=')
  match t.drop before.length with
  | [] => (t, none)
  | _ :: value => (before, some value)

namespace Occurrence

/-- The options that an argument may mean, with their names: a long one by the start of its name, a short one with its
argument at once. -/
def candidates (names : List (Text × Flag)) (t : Text) : List (Text × Occurrence) :=
  if t.take 2 == endOfOptions then
    let (start, value) := splitValue t
    (names.filter fun entry => start.isPrefixOf entry.1).map fun entry => (entry.1, ⟨some entry.2, false, value⟩)
  else
    (names.filter fun entry => entry.1 == t.take 2).map fun entry => (entry.1, ⟨some entry.2, true, some (t.drop 2)⟩)

/-- The option that an argument of some length is, if it starts with a hyphen. -/
def ofOption? (names : List (Text × Flag)) (t : Text) : Except Stop (Option Occurrence) :=
  match names.lookup t, splitValue t with
  | some flag, _ => .ok (some ⟨some flag, t.length == 2, none⟩)
  | none, (name, some value) =>
    match names.lookup name with
    | some flag => .ok (some ⟨some flag, name.length == 2, some value⟩)
    | none => guess
  | none, (_, none) => guess
where
  /-- The only option that fits, or an unknown one. -/
  guess : Except Stop (Option Occurrence) :=
    match candidates names t with
    | [(_, o)] => .ok (some o)
    | [] => .ok (if isNegativeNumber t || t.contains (CodePoint.ofChar ' ') then none else some ⟨none, false, none⟩)
    | several => .error (.misuse (.ambiguous t (several.map Prod.fst)))

/-- The option that an argument is. -/
def ofArgument? (names : List (Text × Flag)) (t : Text) : Except Stop (Option Occurrence) :=
  match t with
  | c :: _ :: _ => if c == hyphen then ofOption? names t else .ok none
  | _ => .ok none

end Occurrence

/-- What an argument is: an option, the end of the options, or an operand. -/
inductive Role
  | option (o : Occurrence)
  | separator
  | operand
deriving DecidableEq, Repr

/-- The roles of arguments. -/
def roles (names : List (Text × Flag)) : List Text → Except Stop (List (Text × Role))
  | [] => .ok []
  | t :: ts =>
    if t = endOfOptions then .ok ((t, .separator) :: ts.map fun t => (t, .operand))
    else do
      let role := match ← Occurrence.ofArgument? names t with
        | some o => Role.option o
        | none => .operand
      return (t, role) :: (← roles names ts)

/-! ### The arguments of a subcommand -/

/-- How many operands a subcommand takes: at most one, or at least one. -/
inductive Arity
  | optional
  | several
deriving DecidableEq, Repr

/-- What was read so far, with the arguments that found no use. -/
structure Reading where
  operands : Option (List Text)
  format : Option OutputFormat
  plain : Bool
  settings : SettingsChoice
  extras : List Text
deriving DecidableEq, Repr

namespace Reading

def start : Reading := { operands := none, format := none, plain := false, settings := .near, extras := [] }

def addExtra (t : Text) (s : Reading) : Reading := { s with extras := s.extras ++ [t] }

/-- An option without argument takes effect. -/
def setFlag (s : Reading) : Flag → Except Stop Reading
  | .help => .error .help
  | .plain => .ok { s with plain := true }
  | .format | .config => .ok s

/-- An option with its argument takes effect. -/
def setValue (s : Reading) (flag : Flag) (value : Text) : Except Stop Reading :=
  match flag with
  | .format =>
    if value = endOfOptions then .ok { s with format := none }
    else match OutputFormat.ofName? value with
      | some format => .ok { s with format := some format }
      | none => .error (.misuse (.unknownFormat value))
  | .config => .ok { s with settings := if value = endOfOptions then .unnamed else .file value }
  | .help | .plain => .ok s

/-- An option that takes no argument is written with one. After a one-letter name it may be more such letters. -/
def setCluster (s : Reading) (flag : Flag) (short : Bool) (value : Text) : Except Stop Reading :=
  if short && !value.isEmpty then
    match value.dropWhile (· == CodePoint.ofChar 'h') with
    | [] => s.setFlag flag
    | rest => .error (.misuse (.ignoredArgument flag rest))
  else .error (.misuse (.ignoredArgument flag value))

/-- How many of the arguments with these roles an arity takes at once; none if it takes none of them. -/
def take? (arity : Arity) (rs : List Role) : Option Nat :=
  let before := (rs.takeWhile (· == .separator)).length
  match arity, rs.drop before with
  | .optional, .operand :: after => some (before + 1 + (after.takeWhile (· == .separator)).length)
  | .optional, _ => if before = 0 then none else some before
  | .several, .operand :: after =>
    some (before + 1 + (after.takeWhile fun r => r == .operand || r == .separator).length)
  | .several, _ => none

/-- Reads arguments with their roles, at most `steps` of them. The operands are the first that stand together; the
first end of options among them is dropped. -/
def run (arity : Arity) : (steps : Nat) → List (Text × Role) → Reading → Except Stop Reading
  | 0, _, s => .ok s
  | _ + 1, [], s => .ok s
  | steps + 1, (t, .option o) :: rest, s =>
    match o.flag, o.value with
    | none, _ => run arity steps rest (s.addExtra t)
    | some flag, some value => do
      let s ← if flag.takesArgument then s.setValue flag value else s.setCluster flag o.short value
      run arity steps rest s
    | some flag, none =>
      if flag.takesArgument then
        match rest with
        | (value, .operand) :: rest => do run arity steps rest (← s.setValue flag value)
        | _ => .error (.misuse (.missingArgument flag))
      else do run arity steps rest (← s.setFlag flag)
  | steps + 1, (t, role) :: rest, s =>
    let items := (t, role) :: rest
    match s.operands, take? arity (items.map Prod.snd) with
    | none, some count =>
      run arity steps (items.drop count)
        { s with operands := some (((items.take count).map Prod.fst).erase endOfOptions) }
    | _, _ => run arity steps rest (s.addExtra t)

/-- The arguments of a subcommand. -/
def ofArguments (arity : Arity) (c : Subcommand) (ts : List Text) : Except Stop Reading := do
  let items ← roles (Page.options (some c)) ts
  run arity items.length items start

/-- The operand of a subcommand that takes at most one. -/
def operand (standard : Text) (s : Reading) : Text := ((s.operands.getD []).head?).getD standard

end Reading

/-- The name for standard input. -/
def standardInput : Text := [hyphen]

/-- The invocation of a subcommand, and the arguments that found no use. -/
def invocation (c : Subcommand) (ts : List Text) : Except Stop (Invocation × List Text) :=
  match c with
  | .init => do
    let s ← Reading.ofArguments .optional c ts
    return (.init (s.operand Path.here), s.extras)
  | .tokenize => do
    let s ← Reading.ofArguments .optional c ts
    return (.tokenize (s.operand standardInput) s.format s.plain s.settings, s.extras)
  | .check => do
    let s ← Reading.ofArguments .several c ts
    match s.operands with
    | none => throw (.misuse .missingFiles)
    | some files => return (.check files s.plain s.settings, s.extras)

/-! ### All arguments -/

namespace Request

/-- What a stop at a page means. -/
def ofStop (page : Page) : Stop → Request
  | .help => .help page
  | .misuse e => .misuse page e

/-- What a subcommand of some name and its arguments ask for, after arguments that found no use. -/
def ofSubcommand (extras : List Text) (name : Text) (ts : List Text) : Request :=
  match Subcommand.ofName? name with
  | none => .misuse none (.unknownSubcommand name)
  | some c =>
    match invocation c ts with
    | .error stop => .ofStop (some c) stop
    | .ok (i, []) => if extras.isEmpty then .invoke i else .misuse none (.unrecognized extras)
    | .ok (_, more) => .misuse none (.unrecognized (extras ++ more))

/-- What arguments ask for after others that found no use. Options before the subcommand are the program's own; the end
of options is taken for the name of a subcommand. -/
def ofRoles (extras : List Text) : List (Text × Role) → Request
  | [] => if extras.isEmpty then .help none else .misuse none (.unrecognized extras)
  | (t, .option o) :: rest =>
    match o.flag, o.value with
    | none, _ => ofRoles (extras ++ [t]) rest
    | some flag, some value =>
      match Reading.start.setCluster flag o.short value with
      | .error stop => .ofStop none stop
      | .ok _ => ofRoles extras rest
    | some _, none => .help none
  | (t, .operand) :: rest => ofSubcommand extras t (rest.map Prod.fst)
  | (t, .separator) :: rest =>
    match rest with
    | [] => .misuse none (.unrecognized (extras ++ [t]))
    | _ :: _ => ofSubcommand extras t (rest.map Prod.fst)

/-- What arguments ask for. -/
def ofArguments (ts : List Text) : Request :=
  match roles (Page.options none) ts with
  | .error stop => .ofStop none stop
  | .ok items => ofRoles [] items

end Request

end ParenTokens.Command
