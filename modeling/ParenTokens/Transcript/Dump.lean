import ParenTokens.Transcript.Position
import ParenTokens.Json.Write

namespace ParenTokens

/-!
# Dumps: transcripts as JSON text

* `Transcript.toJson`, `Transcript.dump`: a transcript as a value, and as text on one line.
* `Transcript.LoadError`: why a text is no dump.
* `Transcript.ofJson`, `Transcript.load`: the transcript of a value, and of a text.
-/

/-! ### Writing -/

/-- The version that a dump states. -/
def Transcript.version : Text := "1"

def Entry.toJson (e : Entry) : Json :=
  .object (("type", .string e.kind.name) :: ("pos", .int e.position) ::
    match e.text with
    | some t => [("text", .string t)]
    | none => [])

def FaultRecord.toJson (f : FaultRecord) : Json :=
  .object [("kind", .string f.kind.name), ("pos", .int f.position), ("message", .string f.message)]

namespace Transcript

/-- Version, label, entries, and the fault if there is one. -/
def toJson (s : Transcript) : Json :=
  .object (("v", .string version) :: ("source", .string s.label) ::
    ("tokens", .array (s.entries.map Entry.toJson)) ::
    match s.fault with
    | some f => [("error", f.toJson)]
    | none => [])

/-- A transcript as text on one line. -/
def dump (s : Transcript) : Text := s.toJson.write

end Transcript

/-! ### Reading -/

namespace Transcript

/-- Why a value that states the right version is no dump. -/
inductive Malformed
  /-- An object lacks a key. -/
  | missing (key : Text)
  /-- A value that should be an object is something else. -/
  | noObject (found : Json)
  /-- The entries are neither an array nor something else with items. -/
  | noItems (found : Json)
  /-- The name of a kind is an array or an object. -/
  | noName (found : Json)
  /-- Fields have wrong values. -/
  | violations (vs : List Violation)

/-- Why a text is no dump. -/
inductive LoadError
  | json (e : Json.ReadError)
  | notAnObject
  | unsupportedVersion (found : Json)
  | unknownKind (found : Json)
  | unknownFaultKind (found : Json)
  | malformed (m : Malformed)

/-- What is said of a value that has no keys. -/
def noObjectMessage : Json → Text
  | .string _ => "string indices must be integers, not 'str'"
  | .array _ => "list indices must be integers or slices, not str"
  | found => Quoted.quote found.typeName ++ (" object is not subscriptable" : Text)

/-- What is said of a malformed dump; violations are listed apart. -/
def Malformed.message : Malformed → Text
  | missing key => ("Malformed token dump: " : Text) ++ Quoted.quote key
  | noObject found => ("Malformed token dump: " : Text) ++ noObjectMessage found
  | noItems found =>
    ("Malformed token dump: " : Text) ++ Quoted.quote found.typeName ++ (" object is not iterable" : Text)
  | noName found => ("Malformed token dump: unhashable type: " : Text) ++ Quoted.quote found.typeName
  | violations _ => "Malformed token dump"

def LoadError.message : LoadError → Text
  | json e => e.message
  | notAnObject => "Token dump must be a JSON object"
  | unsupportedVersion found => ("Unsupported token dump format version: " : Text) ++ found.display
  | unknownKind found => ("Unknown token type: " : Text) ++ found.display
  | unknownFaultKind found => found.display ++ (" is not a valid ErrorKind" : Text)
  | malformed m => m.message

/-- The violated fields, if that is what is wrong. -/
def LoadError.violations : LoadError → List Violation
  | malformed (.violations vs) => vs
  | _ => []

/-- The fields of a value that should be an object. -/
def fieldsOf : Json → Except LoadError (List (Text × Json))
  | .object fields => .ok fields
  | found => .error (.malformed (.noObject found))

/-- The value of a key that has to be there. -/
def required (key : Text) (fields : List (Text × Json)) : Except LoadError Json :=
  match Json.Fields.get? key fields with
  | some value => .ok value
  | none => .error (.malformed (.missing key))

/-- The violation of a field, if its value is refused. -/
def violation {α : Type} (field : Field) : Except Complaint α → List Violation
  | .ok _ => []
  | .error complaint => [⟨field, complaint⟩]

/-- A field that has to be a text. -/
def textOf : Json → Except Complaint Text
  | .string t => .ok t
  | _ => .error .notText

/-- A field that has to be a text, or may be absent or null. -/
def optionalTextOf : Option Json → Except Complaint (Option Text)
  | none | some .null => .ok none
  | some (.string t) => .ok (some t)
  | some _ => .error .notText

/-- The kind that a value names. -/
def tokenKindOf (name : Json) : Except LoadError TokenKind :=
  match name with
  | .array _ | .object _ => .error (.malformed (.noName name))
  | .string t =>
    match TokenKind.ofName? t with
    | some kind => .ok kind
    | none => .error (.unknownKind name)
  | _ => .error (.unknownKind name)

/-- The kind of fault that a value names. -/
def faultKindOf (name : Json) : Except LoadError FaultKind :=
  match name with
  | .string t =>
    match FaultKind.ofName? t with
    | some kind => .ok kind
    | none => .error (.unknownFaultKind name)
  | _ => .error (.unknownFaultKind name)

/-- The entry that a value gives. -/
def entryOf (x : Json) : Except LoadError Entry := do
  let fields ← fieldsOf x
  let kind ← tokenKindOf (← required "type" fields)
  let position ← required "pos" fields
  match position.toPosition, optionalTextOf (Json.Fields.get? "text" fields) with
  | .ok position, .ok text => return { kind, position, text }
  | position, text => throw (.malformed (.violations (violation .position position ++ violation .text text)))

/-- The fault that a value gives. -/
def faultRecordOf (x : Json) : Except LoadError FaultRecord := do
  let fields ← fieldsOf x
  let kind ← faultKindOf (← required "kind" fields)
  let position ← required "pos" fields
  let message ← required "message" fields
  match position.toPosition, textOf message with
  | .ok position, .ok message => return { kind, position, message }
  | position, message => throw (.malformed (.violations (violation .position position ++ violation .message message)))

/-- The items of a value: those of an array, the code points of a string, or the keys of an object. -/
def itemsOf : Json → Except LoadError (List Json)
  | .array items => .ok items
  | .string t => .ok (t.map fun c => .string [c])
  | .object fields => .ok (fields.map fun (key, _) => .string key)
  | found => .error (.malformed (.noItems found))

/-- The transcript that a value gives. The label is there before the entries are looked at, and the entries before
the fault; that the label is a text comes last. -/
def ofJson (x : Json) : Except LoadError Transcript := do
  let .object fields := x | throw .notAnObject
  let stated := (Json.Fields.get? "v" fields).getD .null
  let .string v := stated | throw (.unsupportedVersion stated)
  if v ≠ version then throw (.unsupportedVersion stated)
  let label ← required "source" fields
  let items ← itemsOf ((Json.Fields.get? "tokens" fields).getD (.array []))
  let entries ← items.mapM entryOf
  let fault ← match Json.Fields.get? "error" fields with
    | none | some .null => pure none
    | some x => some <$> faultRecordOf x
  match textOf label with
  | .ok label => return { label, entries, fault }
  | .error complaint => throw (.malformed (.violations [⟨.label, complaint⟩]))

/-- The transcript of a text. -/
def load (t : Text) : Except LoadError Transcript :=
  match Json.read t with
  | .ok x => ofJson x
  | .error e => .error (.json e)

end Transcript

end ParenTokens
