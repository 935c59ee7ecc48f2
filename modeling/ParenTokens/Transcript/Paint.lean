import ParenTokens.Text.Slice

namespace ParenTokens

/-!
# Painted texts

* `Text.replaceAll`: every occurrence of a text replaced.
* `Paint`: a colour, with the code that turns it on.
* `Paint.apply`: a text in a colour.
-/

namespace Text

/-- Whether a text starts with another one. -/
def startsWith (start t : Text) : Bool := start.isPrefixOf t

/-- The text with `new` in the place of each occurrence of `old`, from the left; `skip` code points belong to the last
occurrence found. -/
def replaceAllFrom (old new : Text) : (skip : Nat) → Text → Text
  | _, [] => []
  | skip + 1, _ :: t => replaceAllFrom old new skip t
  | 0, c :: t =>
    if startsWith old (c :: t) then new ++ replaceAllFrom old new (old.length - 1) t
    else c :: replaceAllFrom old new 0 t

/-- The text with `new` in the place of each occurrence of `old`, which is not empty. -/
def replaceAll (old new t : Text) : Text := replaceAllFrom old new 0 t

end Text

/-- The colours in use. -/
inductive Paint
  | blue
  | green
  | red
deriving DecidableEq, Repr

namespace Paint

/-- The code that turns a colour on. -/
def on : Paint → Text
  | blue => "\x1b[34m"
  | green => "\x1b[32m"
  | red => "\x1b[31m"

/-- The code that turns any colour off. -/
def off : Text := "\x1b[39m"

/-- The code that turns all styles off. -/
def reset : Text := "\x1b[0m"

/-- How far the next reset is, if it stands on the same line. -/
def resetDistance? : Text → Option Nat
  | [] => none
  | c :: t =>
    if Text.startsWith reset (c :: t) then some 0
    else if c = Text.newline then none
    else (resetDistance? t).map (· + 1)

/-- Interrupts a colour around each span that starts with a reset and ends with the next one on the same line; `skip`
code points belong to the last span found. -/
def aroundResets (on : Text) : (skip : Nat) → Text → Text
  | _, [] => []
  | skip + 1, c :: t =>
    c :: if skip = 0 then on ++ aroundResets on 0 t else aroundResets on skip t
  | 0, c :: t =>
    let plain := c :: aroundResets on 0 t
    if Text.startsWith reset (c :: t) then
      match resetDistance? ((c :: t).drop reset.length) with
      | some distance => off ++ c :: aroundResets on (2 * reset.length + distance - 1) t
      | none => plain
    else plain

/-- Interrupts a colour around each end of a line, which a carriage return may precede. -/
def aroundNewlines (on : Text) : Text → Text
  | [] => []
  | c :: t =>
    if c = Text.newline then off ++ c :: on ++ aroundNewlines on t
    else if c = '\r' ∧ t.head? = some Text.newline then
      match t with
      | n :: t => off ++ c :: n :: on ++ aroundNewlines on t
      | [] => [c]
    else c :: aroundNewlines on t

/-- A text in a colour: the colour is turned on before it and off after it, on again where the text turns colours off,
and off around resets and ends of lines. -/
def apply (paint : Paint) (t : Text) : Text :=
  let on := paint.on
  on ++ aroundNewlines on (aroundResets on 0 (Text.replaceAll off (off ++ on) t)) ++ off

/-- A text in a colour if colours are wanted. -/
def applyIf (color : Bool) (paint : Paint) (t : Text) : Text := if color then paint.apply t else t

end Paint

end ParenTokens
