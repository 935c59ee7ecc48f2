import ParenTokens.Yaml.Place

namespace ParenTokens.Yaml

/-!
# Plain scalars

A plain scalar is written without marks. Its lines are folded: one line break between two of its lines reads as a
space, and of more line breaks all but the first are kept.

* `PlainScalar.mayStart`: whether a plain scalar starts at a place.
* `PlainScalar.run`: the part of a plain scalar up to the next space.
* `PlainScalar.gap`: the spaces and line breaks between two parts.
* `PlainScalar.read`: a whole plain scalar.
-/

namespace PlainScalar

/-- The signs that a plain scalar cannot start with, unless the next code point makes it one. -/
def indicators : List CodePoint :=
  Text.ofString "-?:,[]\x7b\x7d#&*!|>'\"%@\x60"

/-- The signs that end a flow item. -/
def flowSigns : List CodePoint := Text.ofString ",[]\x7b\x7d"

/-- Whether a plain scalar starts with this text. -/
def mayStart (flow : Bool) : Text → Bool
  | [] => false
  | c :: rest =>
    !(endsWord (some c) || indicators.contains c) ||
      (!endsWord rest.head? && (c == '-' || (!flow && (c == '?' || c == ':'))))

/-- Whether a plain scalar ends before this code point, which others follow. -/
def endsBefore (flow : Bool) (c : CodePoint) (rest : Text) : Bool :=
  endsWord (some c) ||
    (c == ':' && (endsWord rest.head? || (flow && rest.head?.any flowSigns.contains))) ||
    (flow && (c == '?' || flowSigns.contains c))

/-- The longest part of a plain scalar that a text starts with. -/
def run (flow : Bool) : Text → Text
  | [] => []
  | c :: rest => if endsBefore flow c rest then [] else c :: run flow rest

/-- The line breaks at a place, each of them perhaps after spaces; nothing if a document mark follows one of them. -/
def breaks : (steps : Nat) → Place → Option Text × Place
  | 0, p => (some [], p)
  | steps + 1, p =>
    if p.sees ' ' then breaks steps p.step
    else match p.lineBreak with
      | ([], _) => (some [], p)
      | (b, q) =>
        if q.atMark then (none, q)
        else match breaks steps q with
          | (some bs, last) => (some (b ++ bs), last)
          | (none, last) => (none, last)

/-- The spaces or line breaks at a place as they read inside a plain scalar, the place behind them, and whether a line
break is among them. Before a document mark they read as nothing. -/
def gap (p : Place) : Text × Place × Bool :=
  let (spaces, p) := p.span isSpace
  match p.lineBreak with
  | ([], _) => (spaces, p, false)
  | (b, q) =>
    if q.atMark then ([], q, true)
    else match breaks q.rest.length q with
      | (none, last) => ([], last, true)
      | (some bs, last) =>
        ((if b != [Text.newline] then b else if bs.isEmpty then [CodePoint.ofChar ' '] else []) ++ bs, last, true)

/-- The parts of a plain scalar from a place on, after the gap before it: the text with that gap, the place behind it,
and whether a line break was passed since the last part. In block context a line must be indented by `indent`. -/
def readParts (flow : Bool) (indent : Int) : (steps : Nat) → (spaces : Text) → (crossed : Bool) → Place →
    Text × Place × Bool
  | 0, _, crossed, p => ([], p, crossed)
  | steps + 1, spaces, crossed, p =>
    if p.sees '#' then ([], p, crossed)
    else match run flow p.rest with
      | [] => ([], p, crossed)
      | part =>
        match gap (p.forward part.length) with
        | (next, q, crossed) =>
          if next.isEmpty || q.sees '#' || (!flow && (q.column : Int) < indent) then (spaces ++ part, q, crossed)
          else
            let (more, last, crossed) := readParts flow indent steps next crossed q
            (spaces ++ part ++ more, last, crossed)

/-- The plain scalar at a place, the place behind it and the gap after it, and whether that gap has a line break. -/
def read (flow : Bool) (indent : Int) (p : Place) : Text × Place × Bool :=
  readParts flow indent (p.rest.length + 1) [] false p

end PlainScalar

end ParenTokens.Yaml
