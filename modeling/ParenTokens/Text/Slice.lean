import ParenTokens.Text.CodePoint

namespace ParenTokens

/-!
# Slices by signed bounds, lines and columns

* `Slice.bound`: a signed bound within a sequence of known length; a negative one counts from the end.
* `Text.takeTo`: the part of a text before such a bound.
* `Text.lineColumn`: the line and the column of a position, both counted from one.
-/

/-- The place that a signed bound means in a sequence of `length` items: from the end if negative, and clipped. -/
def Slice.bound (length : Nat) (i : Int) : Nat :=
  if i < 0 then (length + i).toNat else min i.toNat length

namespace Text

/-- The text before a signed bound. -/
def takeTo (t : Text) (i : Int) : Text := t.take (Slice.bound t.length i)

def newline : CodePoint := CodePoint.ofChar '\n'

/-- How many code points stand before and with the last newline; zero if there is none. -/
def throughLastNewline (t : Text) : Nat := t.length - (t.reverse.takeWhile (· != newline)).length

/-- Line and column of a position, which may lie outside the text: one more than the newlines before it, and one more
than its distance from the start of its line. -/
def lineColumn (t : Text) (position : Int) : Nat × Int :=
  let before := t.takeTo position
  (before.count newline + 1, position - before.throughLastNewline + 1)

end Text

end ParenTokens
