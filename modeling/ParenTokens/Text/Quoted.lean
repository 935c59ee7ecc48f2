import ParenTokens.Number.Decimal
import ParenTokens.Text.Printable

namespace ParenTokens

/-!
# Quoted texts

A quoted text shows any text on one line in printable code points only.

* `Quoted.mark`: the quotation mark, the apostrophe unless the text holds apostrophes and no double quote.
* `Quoted.escape`: how one code point is shown between such marks.
* `Quoted.quote`: the quoted text.
-/

namespace Quoted

def apostrophe : CodePoint := CodePoint.ofChar '\x27'

def doubleQuote : CodePoint := CodePoint.ofChar '\x22'

def backslash : CodePoint := CodePoint.ofChar '\x5c'

/-- The mark that encloses a text. -/
def mark (t : Text) : CodePoint :=
  if t.contains apostrophe && !t.contains doubleQuote then doubleQuote else apostrophe

/-- One code point between marks: the mark, the backslash and three controls by a letter, what is not printable by
its number in two, four or eight hexadecimal digits, all else as it is. -/
def escape (mark c : CodePoint) : Text :=
  if c = mark ∨ c = backslash then [backslash, c]
  else if c = '\n' then [backslash, 'n']
  else if c = '\r' then [backslash, 'r']
  else if c = '\t' then [backslash, 't']
  else if c.isPrintable then [c]
  else if c.val < 0x100 then backslash :: CodePoint.ofChar 'x' :: Decimal.hex 2 c.val
  else if c.val < 0x10000 then backslash :: CodePoint.ofChar 'u' :: Decimal.hex 4 c.val
  else backslash :: CodePoint.ofChar 'U' :: Decimal.hex 8 c.val

/-- A text between marks. -/
def quote (t : Text) : Text := mark t :: t.flatMap (escape (mark t)) ++ [mark t]

/-- Bytes between marks, after a `b`: bytes outside ASCII and controls by two hexadecimal digits. -/
def quoteBytes (bytes : List UInt8) : Text :=
  let points := bytes.map fun b => CodePoint.ofNat b.toNat
  let shown (c : CodePoint) : Text :=
    if c.val < 0x7F then escape (mark points) c else backslash :: CodePoint.ofChar 'x' :: Decimal.hex 2 c.val
  CodePoint.ofChar 'b' :: mark points :: points.flatMap shown ++ [mark points]

end Quoted

end ParenTokens
