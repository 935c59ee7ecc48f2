import ParenTokens.Transcript.Record
import ParenTokens.Json.Read
import ParenTokens.Text.Blank

namespace ParenTokens

/-!
# Positions from JSON values

A position may be given as an integer, as a truth value for one or zero, as a float without a fraction, or as a numeral
in a string.

* `Json.integerOfText`: the integer of a numeral.
* `Json.toInteger`: the integer that a value gives.
* `Json.toPosition`: the same, unless it is negative.
-/

namespace Json

/-- The numeral without the zeros in front of its first other digit. Underscores among those zeros go with them; of
zeros alone, or before a point, the last code point stays. Nothing if something else is met before that. -/
def dropLeadingZeros? : Text → Option Text
  | [] => none
  | c :: t =>
    if c = '0' then go c t
    else if c.isAsciiDigit then some (c :: t)
    else none
where
  /-- After at least one code point, the last of which was `before`. -/
  go (before : CodePoint) : Text → Option Text
    | [] => some [before]
    | c :: t =>
      if c = '0' ∨ c = '_' then go c t
      else if c.isAsciiDigit then some (c :: t)
      else if c = '.' then some (before :: c :: t)
      else none

/-- Without a point that only zeros follow. -/
def dropZeroFraction (t : Text) : Text :=
  match t.dropWhile (· != CodePoint.ofChar '.') with
  | [] => t
  | _ :: fraction => if fraction.all (· == CodePoint.ofChar '0') then t.takeWhile (· != CodePoint.ofChar '.') else t

/-- Whether two underscores stand side by side. -/
def hasDoubleUnderscore : Text → Bool
  | a :: b :: t => (a == '_' && b == '_') || hasDoubleUnderscore (b :: t)
  | _ => false

/-- Without underscores, if they only stand singly between other code points. -/
def dropUnderscores (t : Text) : Text :=
  let underscore := CodePoint.ofChar '_'
  if t.head? == some underscore || t.getLast? == some underscore || hasDoubleUnderscore t then t
  else t.filter (· != underscore)

/-- The digits of a numeral without a sign, which starts with no zero unless it is a single one. -/
def plainDigits? (t : Text) : Option (List Nat) :=
  match readWhole? t with
  | some (ds, []) => some ds
  | _ => none

/-- The integer of a numeral: blanks around it, a sign, leading zeros, single underscores between digits and a fraction
of zeros are allowed. -/
def integerOfText (t : Text) : Except Complaint Int :=
  if t.any CodePoint.isSurrogate then .error .notUnicode
  else
    let t := t.trim
    let (negative, unsigned) := match t with
      | [] => (false, [])
      | c :: rest => if c = '-' then (true, rest) else if c = '+' then (false, rest) else (false, t)
    match (dropLeadingZeros? unsigned).bind fun t => plainDigits? (dropUnderscores (dropZeroFraction t)) with
    | none => .error .unparsableInteger
    | some ds =>
      if Decimal.digitLimit < ds.length then .error .integerTooLarge
      else .ok (Binary64.signed negative (Decimal.ofDigits ds))

/-- The integer that a value gives. Floats count up to the limits of 64 bits. -/
def toInteger : Json → Except Complaint Int
  | int i => .ok i
  | bool b => .ok (if b then 1 else 0)
  | float .nan => .error .notFinite
  | float (.infinite _) => .error .notFinite
  | float (.finite negative m q) =>
    match (Binary64.finite negative m q).toInt? with
    | none => .error .fractional
    | some i => if -0x8000000000000000 < i ∧ i < 0x8000000000000000 then .ok i else .error .integerTooLarge
  | string t => integerOfText t
  | null | array _ | object _ => .error .notInteger

/-- The position that a value gives. -/
def toPosition (x : Json) : Except Complaint Nat :=
  match x.toInteger with
  | .error complaint => .error complaint
  | .ok i => if i < 0 then .error .negative else .ok i.toNat

end Json

end ParenTokens
