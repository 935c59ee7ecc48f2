import ParenTokens.Lexing.Scanner

namespace ParenTokens

/-!
# Transcripts: recorded runs of the lexer

* `Entry`, `FaultRecord`: a token and a fault as they are recorded, with positions from zero on.
* `Violation`: what keeps a value from being a field of a record.
* `Transcript`: the label of an input, its entries, and the fault that stopped the lexer.
* `Transcript.record`: the transcript of some bytes.
-/

/-! ### Violations -/

/-- What is wrong with a value for a field. -/
inductive Complaint
  | notInteger
  | unparsableInteger
  | integerTooLarge
  | fractional
  | notFinite
  | negative
  | notText
  | notUnicode
deriving DecidableEq, Repr

namespace Complaint

/-- The short name of a complaint. -/
def code : Complaint → Text
  | notInteger => "int_type"
  | unparsableInteger => "int_parsing"
  | integerTooLarge => "int_parsing_size"
  | fractional => "int_from_float"
  | notFinite => "finite_number"
  | negative => "greater_than_equal"
  | notText => "string_type"
  | notUnicode => "string_unicode"

def message : Complaint → Text
  | notInteger => "Input should be a valid integer"
  | unparsableInteger => "Input should be a valid integer, unable to parse string as an integer"
  | integerTooLarge => "Unable to parse input string as an integer, exceeded maximum size"
  | fractional => "Input should be a valid integer, got a number with a fractional part"
  | notFinite => "Input should be a finite number"
  | negative => "Input should be greater than or equal to 0"
  | notText => "Input should be a valid string"
  | notUnicode => "Input should be a valid string, unable to parse raw data as a unicode string"

end Complaint

/-- The fields that can be violated. -/
inductive Field
  | label
  | position
  | text
  | message
deriving DecidableEq, Repr

def Field.name : Field → Text
  | label => "source"
  | position => "position"
  | text => "text"
  | message => "message"

/-- A field and what is wrong with its value. -/
structure Violation where
  field : Field
  complaint : Complaint
deriving DecidableEq, Repr

/-! ### Records -/

/-- A recorded token. The scanner gives a text to strings and identifiers only. -/
structure Entry where
  kind : TokenKind
  position : Nat
  text : Option Text
deriving DecidableEq, Repr

namespace Entry

/-- The record of a token whose position is not negative, as all positions of a scanner. -/
def ofScanned (t : Token) : Entry :=
  { kind := t.kind, position := t.position.toNat, text := if t.kind.hasText then some t.text else none }

/-- The record of any token, unless its position is negative. -/
def ofToken (t : Token) : Except (List Violation) Entry :=
  if t.position < 0 then .error [⟨.position, .negative⟩] else .ok (ofScanned t)

/-- The token of a record; no text becomes an empty one. -/
def toToken (e : Entry) : Token := ⟨e.kind, e.position, e.text.getD []⟩

end Entry

/-- A recorded fault. -/
structure FaultRecord where
  kind : FaultKind
  position : Nat
  message : Text
deriving DecidableEq, Repr

namespace FaultRecord

/-- The record of a fault whose position is not negative, as all positions of a scanner. -/
def ofScanned (f : Fault) : FaultRecord := ⟨f.kind, f.position.toNat, f.message⟩

/-- The record of any fault, unless its position is negative. -/
def ofFault (f : Fault) : Except (List Violation) FaultRecord :=
  if f.position < 0 then .error [⟨.position, .negative⟩] else .ok (ofScanned f)

end FaultRecord

/-- A recorded run: the label of the input, the tokens in order, and the fault that stopped the lexer. -/
structure Transcript where
  label : Text
  entries : List Entry
  fault : Option FaultRecord
deriving DecidableEq, Repr

namespace Transcript

/-- Whether the lexer reached the end of the input. -/
def complete (s : Transcript) : Bool :=
  s.fault.isNone && s.entries.getLast?.any fun e => e.kind == .endOfInput

/-- The fault among the refusals. -/
def faultOf : Refusal → Option FaultRecord
  | .fault f => some (.ofScanned f)
  | .undecodable _ | .terminated | .finished => none

/-- Lexes some bytes and keeps the tokens before a fault together with the fault. -/
def record (data : Array UInt8) (label : Text) : Transcript :=
  let (tokens, refusal, _) := (Scanner.ofBytes data).drain
  { label, entries := tokens.map Entry.ofScanned, fault := refusal.bind faultOf }

end Transcript

end ParenTokens
