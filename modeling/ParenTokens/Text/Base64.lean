import ParenTokens.Text.CodePoint

namespace ParenTokens

/-!
# Base 64

Four characters carry three bytes. What is no character of the alphabet is passed over; an equals sign that completes
a group of four ends the data.

* `Base64.value?`: the number that a character stands for.
* `Base64.decode`: the bytes of a text.
-/

namespace Base64

/-- The number that a character of the alphabet stands for. -/
def value? (c : CodePoint) : Option Nat :=
  if 0x41 ≤ c.val && c.val ≤ 0x5A then some (c.val - 0x41)
  else if 0x61 ≤ c.val && c.val ≤ 0x7A then some (c.val - 0x61 + 26)
  else if c.isAsciiDigit then some (c.val - 0x30 + 52)
  else if c == '+' then some 62
  else if c == '/' then some 63
  else none

/-- The bytes of a text after `filled` characters of a group, which left over the bits `left`; `pads` counts the equals
signs just before. A group that is left incomplete is refused. -/
def decodeFrom (filled left pads : Nat) : Text → Option (List UInt8)
  | [] => if filled = 0 then some [] else none
  | c :: t =>
    if c == '=' then
      if 2 ≤ filled && 4 ≤ filled + pads + 1 then some []
      else decodeFrom filled left (if 2 ≤ filled then pads + 1 else pads) t
    else
      match value? c with
      | none => decodeFrom filled left pads t
      | some v =>
        match filled with
        | 0 => decodeFrom 1 v 0 t
        | 1 => (decodeFrom 2 (v % 16) 0 t).map ((left * 4 + v / 16).toUInt8 :: ·)
        | 2 => (decodeFrom 3 (v % 4) 0 t).map ((left * 16 + v / 4).toUInt8 :: ·)
        | _ => (decodeFrom 0 0 0 t).map ((left * 64 + v).toUInt8 :: ·)

/-- The bytes of a text. -/
def decode (t : Text) : Option (List UInt8) := decodeFrom 0 0 0 t

end Base64

end ParenTokens
