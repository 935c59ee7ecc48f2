import ParenTokens.Number.Decimal

namespace ParenTokens

/-!
# Binary floating-point numbers of 64 bits

A number is kept exactly, as a natural number times a power of two; every operation is exact arithmetic followed by
one rounding to the nearest, where a tie goes to the even significand.

* `Binary64`: a finite number, an infinity, or no number.
* `Binary64.ofRatio`: the nearest number to a quotient of naturals.
* `Binary64.ofDecimal`, `Binary64.ofNat?`: the nearest number to a decimal, and to a natural in range.
* `Binary64.add`, `Binary64.mul`, `Binary64.neg`: arithmetic.
* `Binary64.toInt?`: the integer that a number without a fraction is.
-/

/-- A number of the format. In `finite negative m q` the magnitude is `m * 2 ^ q`, with `m < 2 ^ 53`, `-1074 ≤ q`, and
`2 ^ 52 ≤ m` unless `q = -1074`. -/
inductive Binary64
  | nan
  | infinite (negative : Bool)
  | finite (negative : Bool) (m : Nat) (q : Int)
deriving DecidableEq, Repr

namespace Binary64

def zero (negative : Bool) : Binary64 := finite negative 0 (-1074)

def leastExponent : Int := -1074

def greatestExponent : Int := 971

/-- `n * 2 ^ e` as a fraction. -/
def scale (n : Nat) (e : Int) : Nat × Nat := (n * Nat.pow 2 e.toNat, Nat.pow 2 (-e).toNat)

/-- The exponent at which the significand of `num / den` has 53 bits, or the least exponent if that is larger. -/
def exponentFor (num den : Nat) : Int :=
  let guess : Int := (num.log2 : Int) - den.log2 - 53
  let fits (e : Int) : Bool :=
    let (n, d) := scale 1 (e + 53)
    num * d < den * n
  max (if fits guess then guess else if fits (guess + 1) then guess + 1 else guess + 2) leastExponent

/-- The nearest natural to `num / den`; of two equally near ones the even one. -/
def roundHalfEven (num den : Nat) : Nat :=
  let quotient := num / den
  let rest := num % den
  if 2 * rest < den then quotient
  else if den < 2 * rest then quotient + 1
  else quotient + quotient % 2

/-- The number nearest to `num / den` in magnitude, for a positive `den`. -/
def ofRatio (negative : Bool) (num den : Nat) : Binary64 :=
  if num = 0 then zero negative
  else
    let e := exponentFor num den
    let (n, d) := scale 1 e
    let m := roundHalfEven (num * d) (den * n)
    let (m, e) := if m = Nat.pow 2 53 then (Nat.pow 2 52, e + 1) else (m, e)
    if greatestExponent < e then infinite negative else finite negative m e

/-- The number nearest to `digits * 10 ^ exponent`. Numbers far out of range are told by their count of digits. -/
def ofDecimal (negative : Bool) (digits : Nat) (exponent : Int) : Binary64 :=
  if digits = 0 then zero negative
  else
    let size := exponent + (Decimal.digits digits).length
    if 310 < size then infinite negative
    else if size < -330 then zero negative
    else ofRatio negative (digits * Nat.pow 10 exponent.toNat) (Nat.pow 10 (-exponent).toNat)

/-- The number nearest to a natural, unless that is out of range. -/
def ofNat? (n : Nat) : Option Binary64 :=
  match ofRatio false n 1 with
  | finite negative m q => some (finite negative m q)
  | _ => none

def neg : Binary64 → Binary64
  | nan => nan
  | infinite negative => infinite !negative
  | finite negative m q => finite (!negative) m q

/-- The significand as an integer with the sign. -/
def signed (negative : Bool) (m : Nat) : Int := if negative then -(m : Int) else m

/-- The sum. Of an exact zero the sign is negative only if both signs are. -/
def add : Binary64 → Binary64 → Binary64
  | nan, _ | _, nan => nan
  | infinite a, infinite b => if a = b then infinite a else nan
  | infinite a, finite .. => infinite a
  | finite .., infinite b => infinite b
  | finite a m q, finite b n r =>
    let e := min q r
    let sum := signed a m * Nat.pow 2 (q - e).toNat + signed b n * Nat.pow 2 (r - e).toNat
    if sum = 0 then zero (a && b)
    else
      let (num, den) := scale sum.natAbs e
      ofRatio (sum < 0) num den

/-- The product. -/
def mul : Binary64 → Binary64 → Binary64
  | nan, _ | _, nan => nan
  | infinite a, infinite b => infinite (a != b)
  | infinite a, finite b n _ => if n = 0 then nan else infinite (a != b)
  | finite a m _, infinite b => if m = 0 then nan else infinite (a != b)
  | finite a m q, finite b n r =>
    let (num, den) := scale (m * n) (q + r)
    ofRatio (a != b) num den

/-- Whether a finite magnitude `m * 2 ^ q` is a natural number. -/
def isWhole (m : Nat) (q : Int) : Bool := m % Nat.pow 2 (-q).toNat == 0

/-- The integer that a finite number without a fraction is. -/
def toInt? : Binary64 → Option Int
  | finite negative m q =>
    if isWhole m q then some (signed negative (m * Nat.pow 2 q.toNat / Nat.pow 2 (-q).toNat)) else none
  | _ => none

end Binary64

end ParenTokens
