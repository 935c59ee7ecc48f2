import ParenTokens.Json.Value

namespace ParenTokens

/-!
# Writing JSON

* `Json.writeString`: a text between double quotes, with escapes for these, the backslash and the controls.
* `Json.write`: a value without any blanks.
-/

namespace Json

/-- One code point of a string. Two marks and five controls have short escapes, the other controls four hexadecimal
digits; all else stands for itself. -/
def writeCodePoint (c : CodePoint) : Text :=
  if c = Quoted.doubleQuote ∨ c = Quoted.backslash then [Quoted.backslash, c]
  else if c = '\n' then [Quoted.backslash, 'n']
  else if c = '\r' then [Quoted.backslash, 'r']
  else if c = '\t' then [Quoted.backslash, 't']
  else if c.val = 0x08 then [Quoted.backslash, 'b']
  else if c.val = 0x0C then [Quoted.backslash, 'f']
  else if c.val < 0x20 then Quoted.backslash :: CodePoint.ofChar 'u' :: Decimal.hex 4 c.val
  else [c]

/-- A text as a JSON string. -/
def writeString (t : Text) : Text := Quoted.doubleQuote :: t.flatMap writeCodePoint ++ [Quoted.doubleQuote]

mutual

/-- A value as JSON text on one line, without blanks. -/
def write : Json → Text
  | null => "null"
  | bool b => if b then "true" else "false"
  | int i => Decimal.ofInt i
  | float .nan => "NaN"
  | float (.infinite negative) => if negative then "-Infinity" else "Infinity"
  | float (.finite negative m q) => (Binary64.finite negative m q).display
  | string t => writeString t
  | array items => ("[" : Text) ++ Text.join "," (writeItems items) ++ ("]" : Text)
  | object fields => ("\x7b" : Text) ++ Text.join "," (writeFields fields) ++ ("\x7d" : Text)

def writeItems : List Json → List Text
  | [] => []
  | item :: items => item.write :: writeItems items

def writeFields : List (Text × Json) → List Text
  | [] => []
  | (key, value) :: fields => (writeString key ++ (":" : Text) ++ value.write) :: writeFields fields

end

end Json

end ParenTokens
