import ParenTokens.Yaml.Node
import ParenTokens.Yaml.Timestamp

namespace ParenTokens.Yaml

/-!
# Tags that need not be written

The text of a plain scalar tells its tag: some words and patterns denote truth values, numbers, timestamps and the
like, and every other text denotes itself.

* `Implicit.isInteger`, `Implicit.isFloat`: the patterns of numbers.
* `Implicit.words`: the words.
* `Implicit.tag`: the tag of a text.
-/

namespace Implicit

def isDigitOrLine (c : CodePoint) : Bool := c.isAsciiDigit || c == '_'

/-- A text without a sign at its front. -/
def unsigned : Text → Text
  | [] => []
  | c :: t => if c == '+' || c == '-' then t else c :: t

/-- Whether a text is a digit and then digits and underscores. -/
def isDigits : Text → Bool
  | [] => false
  | c :: t => c.isAsciiDigit && t.all isDigitOrLine

/-- Whether a text is a number below sixty, in one or two digits. -/
def isSixtieth (t : Text) : Bool :=
  match t with
  | [c] => c.isAsciiDigit
  | [b, c] => 0x30 ≤ b.val && b.val ≤ 0x35 && c.isAsciiDigit
  | _ => false

/-- Whether a text is digits, and then at least one number below sixty after a colon each. -/
def isSexagesimal (t : Text) : Bool :=
  match t.splitOn ':' with
  | head :: part :: parts => isDigits head && (part :: parts).all isSixtieth
  | _ => false

def startsWithZero (t : Text) : Bool := t.head? == some (CodePoint.ofChar '0')

/-- Whether a text without sign is a zero, a letter, and digits of some kind or underscores. -/
def isPrefixed (letter : CodePoint) (digit : CodePoint → Bool) : Text → Bool
  | zero :: c :: d :: t => zero == '0' && c == letter && (d :: t).all fun c => digit c || c == '_'
  | _ => false

/-- Whether a text without sign is a number in base eight. -/
def isOctal : Text → Bool
  | zero :: d :: t => zero == '0' && (d :: t).all fun c => (0x30 ≤ c.val && c.val ≤ 0x37) || c == '_'
  | _ => false

/-- Integers: in base two, eight, ten or sixteen, or in places of sixty. -/
def isInteger (t : Text) : Bool :=
  let u := unsigned t
  isPrefixed 'b' (fun c => c == '0' || c == '1') u || isOctal u || u == [CodePoint.ofChar '0'] ||
    (!startsWithZero u && (isDigits u || isSexagesimal u)) || isPrefixed 'x' (·.hexValue?.isSome) u

/-- Whether a text is nothing, or the letter E, a sign, and digits. -/
def isExponent : Text → Bool
  | [] => true
  | e :: sign :: d :: t =>
    (e == 'e' || e == 'E') && (sign == '+' || sign == '-') && (d :: t).all CodePoint.isAsciiDigit
  | _ => false

/-- The parts of a text before and after its first point. -/
def splitPoint? (t : Text) : Option (Text × Text) :=
  match t.dropWhile (· != CodePoint.ofChar '.') with
  | [] => none
  | _ :: after => some (t.takeWhile (· != CodePoint.ofChar '.'), after)

/-- Floating-point numbers: with a point and perhaps an exponent, or in places of sixty with a point. -/
def isFloat (t : Text) : Bool :=
  match splitPoint? t with
  | none => false
  | some (before, after) =>
    let exponent := after.dropWhile isDigitOrLine
    (isDigits (unsigned before) && isExponent exponent) ||
      (before.isEmpty && isDigits (after.takeWhile isDigitOrLine) && isExponent exponent) ||
      (isSexagesimal (unsigned before) && exponent.isEmpty)

/-- A word in lower case, with one capital, and in capitals. -/
def casings (lower title upper : String) : List Text := [Text.ofString lower, Text.ofString title, Text.ofString upper]

/-- Words with the tags that they have. -/
def words : List (List Text × Tag) :=
  [(casings "yes" "Yes" "YES" ++ casings "no" "No" "NO" ++ casings "true" "True" "TRUE" ++
      casings "false" "False" "FALSE" ++ casings "on" "On" "ON" ++ casings "off" "Off" "OFF", .truthValue),
    ((casings ".inf" ".Inf" ".INF").flatMap (fun t => [t, CodePoint.ofChar '+' :: t, CodePoint.ofChar '-' :: t]) ++
      casings ".nan" ".NaN" ".NAN", .float),
    ([Text.ofString "~"] ++ casings "null" "Null" "NULL", .null),
    ([Text.ofString "<<"], .merge),
    ([Text.ofString "="], .default),
    ([Text.ofString "!", Text.ofString "&", Text.ofString "*"], .unknown)]

/-- The tag of a text that does not end in a line feed. -/
def tagOfLine (t : Text) : Tag :=
  match words.find? fun entry => entry.1.contains t with
  | some (_, tag) => tag
  | none =>
    if isFloat t then .float
    else if isInteger t then .integer
    else if (Stamp.parse? t).any Stamp.isImplicit then .timestamp
    else .text

/-- The tag of a text. A single line feed at the end makes no difference. -/
def tag (t : Text) : Tag :=
  if t.isEmpty then .null
  else if t.getLast? == some (CodePoint.ofChar '\n') then
    if t.length == 1 then .text else tagOfLine t.dropLast
  else tagOfLine t

end Implicit

end ParenTokens.Yaml
