import ParenTokens.Number.Binary64
import ParenTokens.Text.Blank
import ParenTokens.Text.DecimalDigit
import ParenTokens.Text.Lower
import ParenTokens.Yaml.Fault

namespace ParenTokens.Yaml

/-!
# Numerals

Both kinds of numbers may be written with underscores anywhere, a sign, and in places of sixty parted by colons.
Decimal digits of any script count.

* `Numeral.readInteger`: a text as an integer in some base.
* `Numeral.integer`: an integer in base two, eight, ten, sixteen or sixty.
* `Numeral.readFloat`: a text as a floating-point number.
* `Numeral.float`: a floating-point number, also in places of sixty.
-/

namespace Numeral

def isAscii (c : CodePoint) : Bool := c.val < 0x80

/-- The blanks that may surround a number. The four separators U+001C to U+001F count only in a text that is not all
ASCII. -/
def isPadding (ascii : Bool) (c : CodePoint) : Bool := c.isBlank || (!ascii && 0x1C ≤ c.val && c.val ≤ 0x1F)

/-- A text without the blanks around it. -/
def trim (t : Text) : Text :=
  let padding := isPadding (t.all isAscii)
  ((t.dropWhile padding).reverse.dropWhile padding).reverse

/-- A sign at the front of a text, and what follows it. -/
def splitSign : Text → Bool × Text
  | [] => (false, [])
  | c :: t => if c == '-' then (true, t) else if c == '+' then (false, t) else (false, c :: t)

/-- The value of a digit or a letter. -/
def digit? (c : CodePoint) : Option Nat :=
  if c.isAsciiLetter then some (if c.val < 0x60 then c.val - 0x37 else c.val - 0x57) else c.digitValue?

/-- The letter after a zero that may announce a base. -/
def baseLetter? (base : Nat) : Option CodePoint :=
  if base = 2 then some 'b' else if base = 8 then some 'o' else if base = 16 then some 'x' else none

/-- A text without the zero and the letter that announce a base. -/
def dropBase (base : Nat) : Text → Text
  | zero :: letter :: t =>
    if zero == '0' && (baseLetter? base).any (fun c => letter == c || letter.val + 0x20 == c.val) then t
    else zero :: letter :: t
  | t => t

/-- Whether a base has a limit on digits: only ten, the one here that is no power of two. -/
def isLimited (base : Nat) : Bool := base == 10

/-- The value of a character as a digit of a base. -/
def digitIn? (base : Nat) (c : CodePoint) : Option Nat := (digit? c).filter (· < base)

/-- The integer that a text denotes in a base: blanks, a sign, perhaps the base, digits, and blanks. -/
def readInteger (base : Nat) (t : Text) : Except Refusal Int :=
  let (negative, u) := splitSign (trim t)
  let u := dropBase base u
  let run := u.takeWhile fun c => (digitIn? base c).isSome
  let ds := run.filterMap (digitIn? base)
  if isLimited base && Decimal.digitLimit < ds.length then .error (.tooManyDigits ds.length)
  else if ds.isEmpty || run.length != u.length then .error (.integer base t)
  else .ok (Binary64.signed negative (Decimal.ofDigitsIn base ds))

/-- A text without its underscores. -/
def withoutLines (t : Text) : Text := t.filter (· != CodePoint.ofChar '_')

/-- The value of places of sixty, the highest first. -/
def ofSixties (ns : List Int) : Int := ns.foldl (fun total n => total * 60 + n) 0

/-- A text without sign as an integer. -/
def unsignedInteger (t : Text) : Except Refusal Int :=
  match t with
  | [] => .error .noDigits
  | c :: rest =>
    if c == '0' then
      match rest with
      | [] => .ok 0
      | letter :: digits =>
        if letter == 'b' then readInteger 2 digits
        else if letter == 'x' then readInteger 16 digits
        else readInteger 8 t
    else if t.contains (CodePoint.ofChar ':') then do
      return ofSixties (← (t.splitOn ':').mapM (readInteger 10))
    else readInteger 10 t

/-- The integer that a scalar denotes. -/
def integer (t : Text) : Except Refusal Int := do
  let (negative, u) := splitSign (withoutLines t)
  let n ← unsignedInteger u
  return if negative then -n else n

/-! ### Floating-point numbers -/

/-- The decimal digits of any script at the front of a text, and what follows them. -/
def spanDecimal (t : Text) : List Nat × Text :=
  let run := t.takeWhile fun c => (digitIn? 10 c).isSome
  (run.filterMap (digitIn? 10), t.drop run.length)

/-- The number after the letter E at the end of a text; zero for a text that is empty. -/
def exponent? : Text → Option Int
  | [] => some 0
  | e :: t =>
    if e == 'e' || e == 'E' then
      let (negative, u) := splitSign t
      match spanDecimal u with
      | ([], _) => none
      | (ds, []) => some (Binary64.signed negative (Decimal.ofDigits ds))
      | _ => none
    else none

/-- The words for infinity and for no number, in lower case. -/
def word? (negative : Bool) (t : Text) : Option Binary64 :=
  if t == Text.ofString "inf" || t == Text.ofString "infinity" then some (.infinite negative)
  else if t == Text.ofString "nan" then some .nan
  else none

/-- Digits, perhaps a point among or around them, and perhaps an exponent. -/
def decimal? (negative : Bool) (t : Text) : Option Binary64 :=
  let (whole, rest) := spanDecimal t
  let (fraction, rest) := match rest with
    | [] => ([], [])
    | c :: after => if c == '.' then spanDecimal after else ([], rest)
  if whole.isEmpty && fraction.isEmpty then none
  else (exponent? rest).map fun e =>
    .ofDecimal negative (Decimal.ofDigits (whole ++ fraction)) (e - fraction.length)

/-- The floating-point number that a text denotes. -/
def readFloat (t : Text) : Except Refusal Binary64 :=
  let (negative, u) := splitSign (trim t)
  match word? negative u, decimal? negative u with
  | some x, _ | none, some x => .ok x
  | none, none => .error (.float t)

/-- The sum of places of sixty, the lowest first, and at the powers of sixty from `power` on. -/
def sumSixties (power : Nat) (sum : Binary64) : List Binary64 → Except Refusal Binary64
  | [] => .ok sum
  | x :: xs =>
    match Binary64.ofNat? power with
    | none => .error .placeValue
    | some place => sumSixties (power * 60) (sum.add (x.mul place)) xs

/-- A text without sign, in lower case, as a floating-point number. -/
def unsignedFloat (t : Text) : Except Refusal Binary64 :=
  if t.isEmpty then .error .noDigits
  else if t == Text.ofString ".inf" then .ok (.infinite false)
  else if t == Text.ofString ".nan" then .ok .nan
  else if t.contains (CodePoint.ofChar ':') then do
    sumSixties 1 (.zero false) (← (t.splitOn ':').mapM readFloat).reverse
  else readFloat t

/-- The floating-point number that a scalar denotes. -/
def float (t : Text) : Except Refusal Binary64 := do
  let (negative, u) := splitSign (withoutLines t).lower
  let x ← unsignedFloat u
  return if negative then x.neg else x

end Numeral

end ParenTokens.Yaml
