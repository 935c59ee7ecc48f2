import ParenTokens.Files.World
import ParenTokens.Yaml.Document

namespace ParenTokens

/-!
# Settings

Settings are read from a small YAML file. Every field may be missing.

* `OutputFormat`, `Settings`: what can be set.
* `Settings.Complaint`, `SettingsFault`: why a file gives no settings, in the words for its author.
* `Interruption`: what stops a run without such words.
* `Settings.ofDocument`: the settings that a document denotes.
* `Settings.load`, `Settings.near`: the settings in a file, and those in the file of the usual name in a directory.
-/

/-- How tokens are printed. -/
inductive OutputFormat
  | text
  | json
deriving DecidableEq, Repr

namespace OutputFormat

def all : List OutputFormat := [text, json]

def name : OutputFormat → Text
  | text => "text"
  | json => "json"

def ofName? (t : Text) : Option OutputFormat := all.find? fun format => format.name == t

end OutputFormat

/-- What can be set; the defaults stand for fields that are missing. -/
structure Settings where
  format : OutputFormat := .text
  color : Bool := true
deriving DecidableEq, Repr

/-- What is wrong with a document as settings. -/
inductive Settings.Complaint
  | notMapping
  | unknownFields (names : List Text)
  | format
  | color
deriving DecidableEq, Repr

def Settings.Complaint.message : Settings.Complaint → Text
  | notMapping => "configuration must be a YAML mapping"
  | unknownFields names => ("unknown field(s): " : Text) ++ Text.join ", " names
  | format => ("'output-format' must be one of " : Text) ++ Text.join ", " (OutputFormat.all.map OutputFormat.name)
  | color => "'color' must be a boolean"

/-- Why a file gives no settings. The label is the path as it was given. -/
inductive SettingsFault
  | missing (label : Text)
  | unreadable (fault : FileFault)
  | invalidYaml (label : Text)
  | complaint (label : Text) (complaint : Settings.Complaint)
deriving DecidableEq, Repr

def SettingsFault.message : SettingsFault → Text
  | missing label => ("Config file not found: " : Text) ++ label
  | unreadable fault => ("Cannot read config file: " : Text) ++ fault.message
  | invalidYaml label => ("Invalid YAML in " : Text) ++ label
  | complaint label c => label ++ (": " : Text) ++ c.message

/-- What stops a run before it ends by itself. -/
inductive Interruption
  /-- A settings file is not in UTF-8. -/
  | undecodable (e : Utf8.DecodeError)
  /-- A value in a settings file cannot be had. -/
  | refused (r : Yaml.Refusal)
  /-- An unknown field is an integer of too many digits to be shown. -/
  | longField
  /-- A path holds the code point zero. -/
  | nulInPath
  /-- The path of the settings file is missing where one has to be. -/
  | noPath
  /-- The system refuses a path. -/
  | file (fault : FileFault)
deriving DecidableEq, Repr

def Interruption.message : Interruption → Text
  | undecodable e => e.message
  | refused r => r.message
  | longField => Decimal.tooLongMessage
  | nulInPath => "embedded null byte"
  | noPath => "expected str, bytes or os.PathLike object, not list"
  | file fault => fault.message

/-- Why loading settings fails: with a fault that is told, or with an interruption. -/
inductive LoadFailure
  | told (fault : SettingsFault)
  | interrupted (i : Interruption)
deriving DecidableEq, Repr

/-- Why a document gives no settings. -/
inductive Objection
  | complaint (c : Settings.Complaint)
  | longField
deriving DecidableEq, Repr

namespace Settings

open Yaml (Scalar Value Document)

/-- The name of settings files. -/
def fileName : Text := ".parenlex.yaml"

/-- A settings file with the defaults. -/
def defaultText : Text := "# parenlex configuration\noutput-format: text\ncolor: true\n"

def formatField : Text := "output-format"

def colorField : Text := "color"

/-- Whether a key is the name of a field. -/
def isField (key : Scalar) : Bool := key == .text formatField || key == .text colorField

/-- The value under the name of a field. -/
def field? (name : Text) (entries : List (Scalar × Value)) : Option Value := entries.lookup (.text name)

/-- The texts of the keys that name no field, in order of their code points, or none if one cannot be shown. -/
def unknownFields? (entries : List (Scalar × Value)) : Option (List Text) :=
  (((entries.map Prod.fst).filter (!isField ·)).mapM Scalar.display?).map
    (·.mergeSort fun a b => !Text.lt b a)

def readFormat : Option Value → Except Complaint OutputFormat
  | none => .ok .text
  | some (.scalar (.text t)) =>
    match OutputFormat.ofName? t with
    | some format => .ok format
    | none => .error .format
  | some _ => .error .format

def readColor : Option Value → Except Complaint Bool
  | none => .ok true
  | some (.scalar (.truthValue b)) => .ok b
  | some _ => .error .color

/-- The settings in a mapping that has only known fields. -/
def ofFields (entries : List (Scalar × Value)) : Except Complaint Settings := do
  let format ← readFormat (field? formatField entries)
  let color ← readColor (field? colorField entries)
  return { format, color }

/-- The settings that a document denotes. Nothing at all denotes the defaults; unknown fields are told before values. -/
def ofDocument (d : Document) : Except Objection Settings :=
  if d.root = .scalar .null then .ok {}
  else match d.entries? with
    | none => .error (.complaint .notMapping)
    | some entries =>
      match unknownFields? entries with
      | none => .error .longField
      | some [] => (ofFields entries).mapError .complaint
      | some names => .error (.complaint (.unknownFields names))

/-- A text that stands behind a carriage return or not, with each end of a line as one line feed. -/
def unifyLinesFrom (afterReturn : Bool) : Text → Text
  | [] => []
  | c :: t =>
    if c == '\r' then Text.newline :: unifyLinesFrom true t
    else if afterReturn && c == '\n' then unifyLinesFrom false t
    else c :: unifyLinesFrom false t

/-- A text where every line ends in a line feed: a carriage return, alone or before a line feed, counts as one. -/
def unifyLines (t : Text) : Text := unifyLinesFrom false t

/-- The settings in the bytes of a file, which is named by a label in what is told. -/
def ofBytes (label : Text) (bytes : List UInt8) : Except LoadFailure Settings :=
  match Utf8.decode bytes with
  | .error e => .error (.interrupted (.undecodable e))
  | .ok t =>
    match Document.ofText (unifyLines t) with
    | .error .invalid => .error (.told (.invalidYaml label))
    | .error (.refused r) => .error (.interrupted (.refused r))
    | .ok d =>
      match ofDocument d with
      | .ok settings => .ok settings
      | .error (.complaint c) => .error (.told (.complaint label c))
      | .error .longField => .error (.interrupted .longField)

/-- The settings in the file that a path leads to. -/
def load (w : World) (p : Path) : Except LoadFailure Settings :=
  if p.hasNul then .error (.interrupted .nulInPath)
  else match w.read p with
    | .ok bytes => ofBytes p.display bytes
    | .error fault =>
      if fault.trouble = .missing then .error (.told (.missing p.display)) else .error (.told (.unreadable fault))

/-- The settings in the file of the usual name in a directory; the defaults if there is none. -/
def near (w : World) (directory : Path) : Except LoadFailure Settings :=
  let p := directory.within fileName
  match w.exists? p with
  | .error fault => .error (.interrupted (.file fault))
  | .ok false => .ok {}
  | .ok true => load w p

end Settings

end ParenTokens
