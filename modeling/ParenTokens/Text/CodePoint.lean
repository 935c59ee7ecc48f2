namespace ParenTokens

/-!
# Code points and texts

A text here is a list of code points, and a code point may be a surrogate: texts arrive as code point lists and
from JSON escapes, where nothing forbids a lone surrogate, and the lexer has to say where it stands.

* `CodePoint`: a number below `0x110000`; `CodePoint.ofChar` embeds the characters of the core library.
* `Text`: a list of code points; `Text.ofString` embeds string literals.
* `CodePoint.isSurrogate`, `CodePoint.isScalar`: a scalar is a code point that is no surrogate.
-/

/-- A Unicode code point, surrogates included. -/
structure CodePoint where
  val : Nat
  isLt : val < 0x110000
deriving DecidableEq

namespace CodePoint

instance : Inhabited CodePoint := ⟨⟨0, by decide⟩⟩

instance : Repr CodePoint := ⟨fun c _ => repr c.val⟩

theorem ext_val {c d : CodePoint} (h : c.val = d.val) : c = d := by
  cases c; cases d; cases h; rfl

/-- Every character is a code point. -/
def ofChar (c : Char) : CodePoint :=
  ⟨c.toNat, by
    have h := c.valid
    simp only [UInt32.isValidChar, Nat.isValidChar] at h
    show c.val.toNat < 0x110000
    omega⟩

instance : Coe Char CodePoint := ⟨ofChar⟩

/-- U+FFFD, which stands for what could not be decoded. -/
def replacement : CodePoint := ⟨0xFFFD, by decide⟩

/-- The code point with a given number, or U+FFFD for a number that is too large. -/
def ofNat (n : Nat) : CodePoint := if h : n < 0x110000 then ⟨n, h⟩ else replacement

theorem val_ofNat {n : Nat} (h : n < 0x110000) : (ofNat n).val = n := by simp [ofNat, h]

@[simp] theorem ofNat_val (c : CodePoint) : ofNat c.val = c := by simp [ofNat, c.isLt]

def isHighSurrogate (c : CodePoint) : Bool := 0xD800 ≤ c.val && c.val < 0xDC00

def isLowSurrogate (c : CodePoint) : Bool := 0xDC00 ≤ c.val && c.val < 0xE000

def isSurrogate (c : CodePoint) : Bool := 0xD800 ≤ c.val && c.val < 0xE000

/-- A scalar value is a code point that is no surrogate. -/
def isScalar (c : CodePoint) : Bool := !c.isSurrogate

/-- The character with this number; a surrogate has none and gives U+FFFD. -/
def toChar (c : CodePoint) : Char :=
  if c.isSurrogate then Char.ofNat 0xFFFD else Char.ofNat c.val

/-- The ASCII digit of a number below ten. -/
def ofDigit (d : Nat) : CodePoint := ofNat (0x30 + d)

def isAsciiDigit (c : CodePoint) : Bool := 0x30 ≤ c.val && c.val ≤ 0x39

def isAsciiLetter (c : CodePoint) : Bool :=
  (0x41 ≤ c.val && c.val ≤ 0x5A) || (0x61 ≤ c.val && c.val ≤ 0x7A)

/-- The value of a hexadecimal digit, in either case. -/
def hexValue? (c : CodePoint) : Option Nat :=
  if c.isAsciiDigit then some (c.val - 0x30)
  else if 0x41 ≤ c.val && c.val ≤ 0x46 then some (c.val - 0x37)
  else if 0x61 ≤ c.val && c.val ≤ 0x66 then some (c.val - 0x57)
  else none

end CodePoint

/-- A text: code points in order. -/
abbrev Text := List CodePoint

namespace Text

/-- The text of a string. -/
def ofString (s : String) : Text := s.toList.map CodePoint.ofChar

instance : Coe String Text := ⟨ofString⟩

/-- The string of a text; surrogates become U+FFFD. -/
def toString (t : Text) : String := String.ofList (t.map CodePoint.toChar)

/-- Texts in order of their code points. -/
def lt : Text → Text → Bool
  | [], [] => false
  | [], _ :: _ => true
  | _ :: _, [] => false
  | a :: s, b :: t => a.val < b.val || (a.val == b.val && lt s t)

/-- The parts of a text between the occurrences of one code point. -/
def splitOn (sep : CodePoint) : Text → List Text
  | [] => [[]]
  | c :: t =>
    if c = sep then [] :: splitOn sep t
    else match splitOn sep t with
      | [] => [[c]]
      | part :: parts => (c :: part) :: parts

/-- Parts joined by a text between each two. -/
def join (sep : Text) : List Text → Text
  | [] => []
  | [t] => t
  | t :: ts => t ++ sep ++ join sep ts

/-- Padded with spaces on the left up to a width. -/
def padLeft (width : Nat) (t : Text) : Text := List.replicate (width - t.length) (CodePoint.ofChar ' ') ++ t

/-- Padded with spaces on the right up to a width. -/
def padRight (width : Nat) (t : Text) : Text := t ++ List.replicate (width - t.length) (CodePoint.ofChar ' ')

/-- Without the spaces at its end. -/
def dropTrailingSpaces (t : Text) : Text := (t.reverse.dropWhile (· == CodePoint.ofChar ' ')).reverse

end Text

end ParenTokens
