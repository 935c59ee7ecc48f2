import ParenTokens.Number.Decimal
import ParenTokens.Text.Quoted

namespace ParenTokens.Yaml

/-!
# Why a YAML text gives no document

* `Refusal`: the text follows the grammar, but something it denotes cannot be had.
* `Fault`: the text does not follow the grammar or uses tags wrongly, or a refusal.
* `Refusal.message`: the wording of each refusal.
-/

/-- A field of a date or a time. -/
inductive DateField
  | year
  | month
  | day
  | hour
  | minute
  | second
deriving DecidableEq, Repr

/-- A denoted thing that cannot be had. -/
inductive Refusal
  /-- An escape with a number beyond the last code point. -/
  | codePoint (n : Nat)
  /-- An integer of too many digits. -/
  | tooManyDigits (count : Nat)
  /-- A text that is no integer in its base. -/
  | integer (base : Nat) (t : Text)
  /-- A text that is no floating-point number. -/
  | float (t : Text)
  /-- A number with nothing after its sign. -/
  | noDigits
  /-- A place value beyond the floating-point numbers. -/
  | placeValue
  /-- A text, in lower case, that is no truth value. -/
  | truthValue (t : Text)
  /-- A text that is no timestamp. -/
  | timestamp
  /-- A timestamp that is a mapping. -/
  | timestampMapping
  /-- A date or time with a field out of range. -/
  | dateField (field : DateField)
  /-- A time zone a day or more away, by days and seconds. -/
  | offset (days : Int) (seconds : Nat)
deriving DecidableEq, Repr

/-- Why there is no document. -/
inductive Fault
  | invalid
  | refused (refusal : Refusal)
deriving DecidableEq, Repr

def DateField.message : DateField → Text
  | .year => "year 0 is out of range"
  | .month => "month must be in 1..12"
  | .day => "day is out of range for month"
  | .hour => "hour must be in 0..23"
  | .minute => "minute must be in 0..59"
  | .second => "second must be in 0..59"

/-- The largest number of an escape that is still told from the ones that are no code point by its size. -/
def Refusal.greatestEscape : Nat := 0x7FFFFFFF

/-- The fields of a time span that are not zero. -/
def Refusal.spanFields (days : Int) (seconds : Nat) : Text :=
  Text.join ", " ((if days = 0 then [] else [("days=" : Text) ++ Decimal.ofInt days]) ++
    (if seconds = 0 then [] else [("seconds=" : Text) ++ Decimal.ofNat seconds]))

def Refusal.message : Refusal → Text
  | codePoint n =>
    if n ≤ greatestEscape then "chr() arg not in range(0x110000)" else "Python int too large to convert to C int"
  | tooManyDigits count => Decimal.tooManyDigitsMessage count
  | integer base t =>
    ("invalid literal for int() with base " : Text) ++ Decimal.ofNat base ++ (": " : Text) ++ (Quoted.quote t).take 200
  | float t => ("could not convert string to float: " : Text) ++ Quoted.quote t
  | noDigits => "string index out of range"
  | placeValue => "int too large to convert to float"
  | truthValue t => Quoted.quote t
  | timestamp => "'NoneType' object has no attribute 'groupdict'"
  | timestampMapping => "expected string or bytes-like object, got 'list'"
  | dateField field => field.message
  | offset days seconds =>
    ("offset must be a timedelta strictly between -timedelta(hours=24) and timedelta(hours=24), not " : Text) ++
      ("datetime.timedelta(" : Text) ++ spanFields days seconds ++ (")." : Text)

end ParenTokens.Yaml
