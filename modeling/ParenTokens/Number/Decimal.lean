import ParenTokens.Text.CodePoint

namespace ParenTokens

/-!
# Decimal and hexadecimal numerals

* `Decimal.digits`, `Decimal.ofDigits`: the decimal digits of a natural number, highest first, and back.
* `Decimal.ofNat`, `Decimal.ofInt`: the numerals; `Decimal.padded` puts zeros before one.
* `Decimal.digitLimit`: numerals with more digits than this are refused where numbers are read;
  `Decimal.tooManyDigitsMessage` says so.
* `Decimal.hex`: a numeral of fixed width in base 16.
* `ofDigits_digits`: reading the digits of a number gives the number.
-/

namespace Decimal

/-- The decimal digits of a number, highest first. -/
def digits (n : Nat) : List Nat := if n < 10 then [n] else digits (n / 10) ++ [n % 10]
termination_by n
decreasing_by omega

/-- The number that digits denote in a base. -/
def ofDigitsIn (base : Nat) (ds : List Nat) : Nat := ds.foldl (fun n d => base * n + d) 0

/-- The number that decimal digits denote. -/
def ofDigits (ds : List Nat) : Nat := ofDigitsIn 10 ds

theorem ofDigits_digits (n : Nat) : ofDigits (digits n) = n := by
  induction n using digits.induct with
  | case1 n h => rw [digits]; simp [h, ofDigits, ofDigitsIn]
  | case2 n h ih =>
    simp only [ofDigits, ofDigitsIn] at ih
    rw [digits]
    simp only [h, if_false, ofDigits, ofDigitsIn, List.foldl_append, ih, List.foldl_cons, List.foldl_nil]
    omega

/-- The numeral of a natural number. -/
def ofNat (n : Nat) : Text := (digits n).map CodePoint.ofDigit

/-- The numeral of an integer, with a minus sign below zero. -/
def ofInt : Int → Text
  | .ofNat n => ofNat n
  | .negSucc n => CodePoint.ofChar '-' :: ofNat (n + 1)

/-- The numeral of a natural number with zeros before it, up to a width. -/
def padded (width n : Nat) : Text :=
  List.replicate (width - (ofNat n).length) (CodePoint.ofChar '0') ++ ofNat n

/-- The most digits a numeral may have to be read as an integer. -/
def digitLimit : Nat := 4300

/-- What is said about an integer that has too many digits to be read. -/
def tooManyDigitsMessage (count : Nat) : Text :=
  ("Exceeds the limit (" : Text) ++ ofNat digitLimit ++ (" digits) for integer string conversion: value has " : Text) ++
    ofNat count ++ (" digits; use sys.set_int_max_str_digits() to increase the limit" : Text)

/-- What is said about an integer that has too many digits to be written. -/
def tooLongMessage : Text :=
  ("Exceeds the limit (" : Text) ++ ofNat digitLimit ++
    (" digits) for integer string conversion; use sys.set_int_max_str_digits() to increase the limit" : Text)

/-- The lower-case hexadecimal digit of a number below sixteen. -/
def hexDigit (d : Nat) : CodePoint := CodePoint.ofNat (if d < 10 then 0x30 + d else 0x57 + d)

/-- The lowest `width` hexadecimal digits of a number, highest first. -/
def hex : (width n : Nat) → Text
  | 0, _ => []
  | width + 1, n => hex width (n / 16) ++ [hexDigit (n % 16)]

end Decimal

end ParenTokens
