import ParenTokens.Yaml.Place
import ParenTokens.Yaml.Fault

namespace ParenTokens.Yaml

/-!
# Block scalars

A block scalar is the indented lines after a header. A literal one keeps its line breaks, a folded one reads a single
line break between two lines that start with no blank as a space. The header may fix the indentation and say which
line breaks are kept at the end.

* `BlockScalar.Chomping`, `BlockScalar.Header`: what a header says.
* `BlockScalar.readHeader`: the header.
* `BlockScalar.readLines`: the lines.
* `BlockScalar.read`: a whole block scalar.
-/

namespace BlockScalar

/-- Which line breaks at the end are kept: none, the first, or all. -/
inductive Chomping
  | strip
  | clip
  | keep
deriving DecidableEq, Repr

/-- What stands after the sign that starts a block scalar. -/
structure Header where
  chomping : Chomping
  increment : Option Nat
deriving DecidableEq, Repr

/-- The sign that says which line breaks at the end are kept. -/
def chomping? (c : Option CodePoint) : Option Chomping :=
  c.bind fun c => if c == '+' then some .keep else if c == '-' then some .strip else none

/-- The digit that fixes the indentation. -/
def increment? (c : Option CodePoint) : Option Nat :=
  c.bind fun c => if c.isAsciiDigit then some (c.val - 0x30) else none

/-- The line at a place after a header or a directive: nothing but spaces and a comment. -/
def ignoreLine (p : Place) : Except Fault Place :=
  let p := p.skipSpaces
  let p := if p.sees '#' then p.skipLine else p
  if endsLine p.peek then .ok p.lineBreak.2 else .error .invalid

/-- The header at a place, with its two parts in either order, and the place behind its line. -/
def readHeader (p : Place) : Except Fault (Header × Place) := do
  let (header, p) : Header × Place :=
    match chomping? p.peek with
    | some chomping =>
      match increment? p.step.peek with
      | some n => (⟨chomping, some n⟩, p.forward 2)
      | none => (⟨chomping, none⟩, p.step)
    | none =>
      match increment? p.peek with
      | none => (⟨.clip, none⟩, p)
      | some n =>
        match chomping? p.step.peek with
        | some chomping => (⟨chomping, some n⟩, p.forward 2)
        | none => (⟨.clip, some n⟩, p.step)
  if header.increment = some 0 || !endsField p.peek then throw .invalid
  return (header, ← ignoreLine p)

/-- The line breaks at a place with spaces around them, the widest indentation among them, and the place behind. -/
def leadingBreaks : (steps : Nat) → (widest : Nat) → Place → Text × Nat × Place
  | 0, widest, p => ([], widest, p)
  | steps + 1, widest, p =>
    if p.sees ' ' then leadingBreaks steps (max widest p.step.column) p.step
    else match p.lineBreak with
      | ([], _) => ([], widest, p)
      | (b, q) =>
        let (bs, widest, last) := leadingBreaks steps widest q
        (b ++ bs, widest, last)

/-- The place behind the spaces before a column. -/
def skipIndent (indent : Nat) (p : Place) : Place :=
  p.forward (p.span isSpace |>.1.take (indent - p.column)).length

/-- The line breaks at a place, each followed by at most the indentation, and the place behind them. -/
def breaks (indent : Nat) : (steps : Nat) → Place → Text × Place
  | 0, p => ([], p)
  | steps + 1, p =>
    let p := skipIndent indent p
    match p.lineBreak with
    | ([], _) => ([], p)
    | (b, q) =>
      let (bs, last) := breaks indent steps q
      (b ++ bs, last)

/-- Whether another line of the scalar starts at a place. -/
def continues (indent : Nat) (p : Place) : Bool := p.column == indent && !p.rest.isEmpty

/-- The lines of a scalar from a place on, which is where one may start: the text, the line break of the last line, the
line breaks after it, and the place behind them. -/
def readLines (folded : Bool) (indent : Nat) : (steps : Nat) → Place → Text × Text × Text × Place
  | 0, p => ([], [], [], p)
  | steps + 1, p =>
    let flush (p : Place) : Bool := !p.peek.any isSpaceOrTab
    let (line, atEnd) := p.span (!isBreak ·)
    let (b, q) := atEnd.lineBreak
    let (bs, next) := breaks indent (q.rest.length + 1) q
    if continues indent next then
      let joint : Text :=
        if folded && b == [Text.newline] && flush p && flush next then
          if bs.isEmpty then [CodePoint.ofChar ' '] else []
        else b
      let (more, final, trailing, last) := readLines folded indent steps next
      (line ++ joint ++ bs ++ more, final, trailing, last)
    else (line, b, bs, next)

/-- The block scalar whose sign stands at a place, inside a block that is indented by `indent`; and the place behind. -/
def read (folded : Bool) (indent : Int) (p : Place) : Except Fault (Text × Place) := do
  let (header, p) ← readHeader p.step
  let least := (max (indent + 1) 1).toNat
  let (width, leading, p) : Nat × Text × Place :=
    match header.increment with
    | none =>
      let (bs, widest, p) := leadingBreaks p.rest.length 0 p
      (max least widest, bs, p)
    | some n =>
      let width := least + n - 1
      let (bs, p) := breaks width (p.rest.length + 1) p
      (width, bs, p)
  if continues width p then
    let (text, final, trailing, last) := readLines folded width (p.rest.length + 1) p
    return (leading ++ text ++ (match header.chomping with
      | .strip => []
      | .clip => final
      | .keep => final ++ trailing), last)
  else
    return ((match header.chomping with
      | .keep => leading
      | _ => []), p)

end BlockScalar

end ParenTokens.Yaml
