import ParenTokens.Yaml.Place
import ParenTokens.Yaml.Fault

namespace ParenTokens.Yaml

/-!
# Scalars between quotation marks

Between apostrophes a doubled apostrophe stands for one; between double quotes there are escapes. Lines are folded as
in plain scalars, and no line may be a document mark.

* `QuotedScalar.escape?`, `QuotedScalar.escapeDigits?`: the escapes of one letter and those with a number.
* `QuotedScalar.breaks`: line breaks with the blanks around them.
* `QuotedScalar.read`: a whole scalar.
-/

namespace QuotedScalar

/-- What a letter after a backslash stands for. -/
def escape? (c : CodePoint) : Option CodePoint :=
  if c == '0' then some (CodePoint.ofNat 0)
  else if c == 'a' then some (CodePoint.ofNat 0x07)
  else if c == 'b' then some (CodePoint.ofNat 0x08)
  else if c == 't' || c == '\t' then some (CodePoint.ofNat 0x09)
  else if c == 'n' then some (CodePoint.ofNat 0x0A)
  else if c == 'v' then some (CodePoint.ofNat 0x0B)
  else if c == 'f' then some (CodePoint.ofNat 0x0C)
  else if c == 'r' then some (CodePoint.ofNat 0x0D)
  else if c == 'e' then some (CodePoint.ofNat 0x1B)
  else if c == ' ' || c == Quoted.doubleQuote || c == Quoted.backslash || c == '/' then some c
  else if c == 'N' then some (CodePoint.ofNat 0x85)
  else if c == '_' then some (CodePoint.ofNat 0xA0)
  else if c == 'L' then some (CodePoint.ofNat 0x2028)
  else if c == 'P' then some (CodePoint.ofNat 0x2029)
  else none

/-- How many hexadecimal digits follow a letter after a backslash. -/
def escapeDigits? (c : CodePoint) : Option Nat :=
  if c == 'x' then some 2 else if c == 'u' then some 4 else if c == 'U' then some 8 else none

/-- The number that so many hexadecimal digits at the front of a text denote. -/
def hexNumber? (count : Nat) (t : Text) : Option Nat := do
  let ds ← (t.take count).mapM CodePoint.hexValue?
  if ds.length = count then some (Decimal.ofDigitsIn 16 ds) else none

/-- The line breaks at a place, with blanks before and after each, and the place behind them. -/
def breaks : (steps : Nat) → Place → Except Fault (Text × Place)
  | 0, _ => .error .invalid
  | steps + 1, p =>
    if p.atMark then .error .invalid
    else
      let p := p.skipWhile isSpaceOrTab
      match p.lineBreak with
      | ([], _) => .ok ([], p)
      | (b, q) => do
        let (bs, last) ← breaks steps q
        return (b ++ bs, last)

/-- The blanks at a place as they read inside the scalar: as they are within a line, folded around line breaks. -/
def gap (p : Place) : Except Fault (Text × Place) :=
  let (blanks, p) := p.span isSpaceOrTab
  if p.rest.isEmpty then .error .invalid
  else match p.lineBreak with
    | ([], _) => .ok (blanks, p)
    | (b, q) => do
      let (bs, last) ← breaks (q.rest.length + 1) q
      return ((if b != [Text.newline] then b else if bs.isEmpty then [CodePoint.ofChar ' '] else []) ++ bs, last)

/-- What a backslash before a place stands for, and the place behind it. -/
def escaped (p : Place) : Except Fault (Text × Place) :=
  match p.rest with
  | [] => .error .invalid
  | c :: rest =>
    match escape? c, escapeDigits? c with
    | some d, _ => .ok ([d], p.step)
    | none, some count =>
      match hexNumber? count rest with
      | none => .error .invalid
      | some n => if h : n < 0x110000 then .ok ([⟨n, h⟩], p.forward (count + 1)) else .error (.refused (.codePoint n))
    | none, none =>
      match p.lineBreak with
      | ([], _) => .error .invalid
      | (_, q) => breaks (q.rest.length + 1) q

/-- The rest of a scalar, up to its closing mark, and the place behind that. -/
def readRest (double : Bool) : (steps : Nat) → Place → Except Fault (Text × Place)
  | 0, _ => .error .invalid
  | steps + 1, p =>
    let closing := if double then Quoted.doubleQuote else Quoted.apostrophe
    match p.rest with
    | [] => .error .invalid
    | c :: rest =>
      if endsWord (some c) then do
        let (spaces, q) ← gap p
        let (more, last) ← readRest double steps q
        return (spaces ++ more, last)
      else if c = closing then
        if !double && rest.head? == some closing then do
          let (more, last) ← readRest double steps (p.forward 2)
          return (c :: more, last)
        else .ok ([], p.step)
      else if double && c == Quoted.backslash then do
        let (t, q) ← escaped p.step
        let (more, last) ← readRest double steps q
        return (t ++ more, last)
      else do
        let (more, last) ← readRest double steps p.step
        return (c :: more, last)

/-- The scalar that starts with the mark at a place, and the place behind its closing mark. -/
def read (double : Bool) (p : Place) : Except Fault (Text × Place) :=
  readRest double (p.rest.length + 1) p.step

end QuotedScalar

end ParenTokens.Yaml
