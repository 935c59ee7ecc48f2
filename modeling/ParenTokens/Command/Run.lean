import ParenTokens.Command.Arguments
import ParenTokens.Transcript.Dump
import ParenTokens.Transcript.Listing

namespace ParenTokens.Command

/-!
# Running subcommands

* `Verdict`, `Outcome`: how a run ends, what it prints, and the files after it.
* `runInit`: writes a settings file with the defaults.
* `runTokenize`: prints the tokens of an input.
* `runCheck`: reports the first fault of each file.
* `run`: all from the arguments on.
-/

/-- How a run ends. -/
inductive Verdict
  | exit (code : Nat)
  | interrupted (i : Interruption)
deriving DecidableEq, Repr

/-- What a run leaves: its end, what it printed to each stream, and the files. -/
structure Outcome where
  verdict : Verdict
  out : Text
  err : Text
  world : World
deriving Repr

/-- A line with its end. -/
def line (t : Text) : Text := t ++ [Text.newline]

/-- A line that says what went wrong. -/
def errorLine (message : Text) : Text := line (("Error: " : Text) ++ message)

/-- An end with an error that is told. -/
def failWith (w : World) (message : Text) : Outcome := { verdict := .exit 1, out := [], err := errorLine message, world := w }

def interruptedBy (w : World) (i : Interruption) : Outcome := { verdict := .interrupted i, out := [], err := [], world := w }

/-! ### Settings -/

/-- The settings that are asked for. -/
def SettingsChoice.load (w : World) : SettingsChoice → Except LoadFailure Settings
  | near => Settings.near w (.absolute w.home)
  | file path => Settings.load w (.ofText path)
  | unnamed => .error (.interrupted .noPath)

/-- Goes on with the settings that are asked for, or ends because there are none. -/
def withSettings (w : World) (choice : SettingsChoice) (next : Settings → Outcome) : Outcome :=
  match choice.load w with
  | .ok settings => next settings
  | .error (.told fault) => failWith w fault.message
  | .error (.interrupted i) => interruptedBy w i

/-! ### Subcommands -/

/-- Writes a settings file into a directory that has none. -/
def runInit (w : World) (directory : Text) : Outcome :=
  let p := Path.ofText directory
  let location := p.canonical w.home
  let target := (Path.absolute location).within Settings.fileName
  if p.hasNul then interruptedBy w .nulInPath
  else match w.exists? (.absolute location) with
    | .error fault => interruptedBy w (.file fault)
    | .ok false =>
      failWith w (("directory '" : Text) ++ (Path.absolute location).display ++ ("' does not exist." : Text))
    | .ok true =>
      match w.exists? target with
      | .error fault => interruptedBy w (.file fault)
      | .ok true => failWith w (("configuration already exists at '" : Text) ++ target.display ++ ("'." : Text))
      | .ok false =>
        match w.write location Settings.fileName Settings.defaultText.utf8 with
        | .error fault => interruptedBy w (.file fault)
        | .ok after =>
          { verdict := .exit 0,
            out := line (("Wrote parenlex configuration to '" : Text) ++ target.display ++ ("'." : Text)),
            err := [], world := after }

/-- Why a file could not be read: with a line that is told, or with an interruption. -/
inductive ReadFailure
  | told (message : Text)
  | interrupted (i : Interruption)
deriving DecidableEq, Repr

/-- The bytes of the file of a name. -/
def readInput (w : World) (name : Text) : Except ReadFailure (List UInt8) :=
  let p := Path.ofText name
  if p.hasNul then .error (.interrupted .nulInPath)
  else match w.read p with
    | .ok bytes => .ok bytes
    | .error fault => .error (.told (("cannot read '" : Text) ++ name ++ ("': " : Text) ++ fault.message))

/-- The line for the fault in some bytes, if there is one. -/
def faultLine? (color : Bool) (label : Text) (bytes : List UInt8) : Option Text :=
  (Transcript.record bytes.toArray label).faultLine? color (some (Utf8.decodeReplacing bytes))

/-- The code for a run that found a fault or not. -/
def exitCode (faulty : Bool) : Verdict := .exit (if faulty then 1 else 0)

/-- The label of standard input. -/
def inputLabel : Text := "<stdin>"

/-- Prints the tokens of some bytes. -/
def printTokens (w : World) (format : OutputFormat) (color : Bool) (label : Text) (bytes : List UInt8) : Outcome :=
  let s := Transcript.record bytes.toArray label
  match format with
  | .json => { verdict := exitCode s.fault.isSome, out := line s.dump, err := [], world := w }
  | .text =>
    { verdict := exitCode s.fault.isSome, out := (s.entryLines color).flatMap line,
      err := (faultLine? color label bytes).toList.flatMap line, world := w }

/-- Prints the tokens of a file or of standard input. -/
def runTokenize (w : World) (input : List UInt8) (file : Text) (format : Option OutputFormat) (plain : Bool)
    (choice : SettingsChoice) : Outcome :=
  withSettings w choice fun settings =>
    let format := format.getD settings.format
    let color := settings.color && !plain
    if file = standardInput then printTokens w format color inputLabel input
    else match readInput w file with
      | .ok bytes => printTokens w format color file bytes
      | .error (.told message) => failWith w message
      | .error (.interrupted i) => interruptedBy w i

/-- Reports the first fault of each of some files, after a report on others that were or were not faulty. -/
def checkFiles (w : World) (color : Bool) (count : Nat) (faulty : Bool) (report : Text) : List Text → Outcome
  | [] =>
    let summary := line (("Checked " : Text) ++ Decimal.ofNat count ++ (" file(s), no issues found." : Text))
    { verdict := exitCode faulty, out := if faulty then [] else summary, err := report, world := w }
  | file :: files =>
    match readInput w file with
    | .error (.interrupted i) => { verdict := .interrupted i, out := [], err := report, world := w }
    | .error (.told message) => checkFiles w color count true (report ++ errorLine message) files
    | .ok bytes =>
      match faultLine? color file bytes with
      | none => checkFiles w color count faulty report files
      | some fault => checkFiles w color count true (report ++ line fault) files

/-- Reports the first fault of each file. -/
def runCheck (w : World) (files : List Text) (plain : Bool) (choice : SettingsChoice) : Outcome :=
  withSettings w choice fun settings => checkFiles w (settings.color && !plain) files.length false [] files

/-! ### The program -/

/-- Runs a subcommand. -/
def Invocation.run (w : World) (input : List UInt8) : Invocation → Outcome
  | init directory => runInit w directory
  | tokenize file format plain settings => runTokenize w input file format plain settings
  | check files plain settings => runCheck w files plain settings

/-- Runs the program with some arguments and some bytes on standard input. -/
def run (w : World) (input : List UInt8) (arguments : List Text) : Outcome :=
  match Request.ofArguments arguments with
  | .help page => { verdict := .exit 0, out := page.help, err := [], world := w }
  | .misuse page e => { verdict := .exit 2, out := [], err := page.complain e, world := w }
  | .invoke i => i.run w input

end ParenTokens.Command
