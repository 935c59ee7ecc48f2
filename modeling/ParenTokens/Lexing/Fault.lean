import ParenTokens.Text.Quoted

namespace ParenTokens

/-!
# Faults: what stops the lexer

* `Fault`: the three causes, each with the position at which it was found.
* `Fault.message`: what is wrong; `Fault.located`: the same with the position in front.
-/

inductive FaultKind
  | invalidEncoding
  | unterminatedString
  | unexpectedCharacter
deriving DecidableEq, Repr

namespace FaultKind

def name : FaultKind → Text
  | invalidEncoding => "invalid-encoding"
  | unterminatedString => "unterminated-string"
  | unexpectedCharacter => "unexpected-character"

def all : List FaultKind := [invalidEncoding, unterminatedString, unexpectedCharacter]

/-- The kind of a given name. -/
def ofName? (name : Text) : Option FaultKind := all.find? fun kind => kind.name == name

end FaultKind

/-- Why a text has no further tokens. A scanner gives only positions and offsets from zero on, and a single code point
as what was expected or met. -/
inductive Fault
  /-- At byte `offset` no code point begins. -/
  | invalidEncoding (position offset : Int)
  /-- The input ends inside the string whose opening mark stands at `openedAt`. -/
  | unterminatedString (position : Int) (expected : Text) (openedAt : Int)
  /-- No token starts with this. -/
  | unexpectedCharacter (position : Int) (character : Text)
deriving DecidableEq, Repr

namespace Fault

def kind : Fault → FaultKind
  | invalidEncoding .. => .invalidEncoding
  | unterminatedString .. => .unterminatedString
  | unexpectedCharacter .. => .unexpectedCharacter

def position : Fault → Int
  | invalidEncoding position _ => position
  | unterminatedString position _ _ => position
  | unexpectedCharacter position _ => position

/-- What is wrong, without the position. -/
def message : Fault → Text
  | invalidEncoding _ offset => ("Invalid UTF-8 sequence at byte offset " : Text) ++ Decimal.ofInt offset
  | unterminatedString _ expected openedAt =>
    ("Unterminated string literal opened at position " : Text) ++ Decimal.ofInt openedAt ++
      (", expected " : Text) ++ Quoted.quote expected
  | unexpectedCharacter _ character => ("Unexpected character: " : Text) ++ Quoted.quote character

/-- The message after the position. -/
def located (f : Fault) : Text :=
  ("Position " : Text) ++ Decimal.ofInt f.position ++ (": " : Text) ++ f.message

end Fault

end ParenTokens
