import ParenTokens.Text.Utf8
import ParenTokens.Yaml.BlockScalar
import ParenTokens.Yaml.Token

namespace ParenTokens.Yaml

/-!
# Directives, names and tags

* `Property.readName`: the name after the sign of an anchor or a reference.
* `Property.readUri`: the characters of a tag, with escapes of bytes.
* `Property.readHandle`: a tag handle, between exclamation marks.
* `Property.readTag`: a tag.
* `Property.readDirective`: a line that starts with a percent sign.
-/

namespace Property

/-- The signs that may follow a name at once. -/
def nameEnds : List CodePoint := Text.ofString "?:,]\x7d%@\x60"

/-- The name at a place, and the place behind it. -/
def readName (p : Place) : Except Fault (Text × Place) :=
  match p.span isNamePart with
  | ([], _) => .error .invalid
  | (name, q) => if endsWord q.peek || q.peek.any nameEnds.contains then .ok (name, q) else .error .invalid

/-- The signs that a tag may have beside letters and digits. -/
def uriSigns : List CodePoint := Text.ofString "-;/?:@&=+$,_.!~*'()[]"

def isUriPart (c : CodePoint) : Bool := c.isAsciiLetter || c.isAsciiDigit || uriSigns.contains c

/-- The bytes at a place that are written as a percent sign and two hexadecimal digits, and the place behind them. -/
def escapedBytes : (steps : Nat) → Place → Except Fault (List UInt8 × Place)
  | 0, p => .ok ([], p)
  | steps + 1, p =>
    if p.sees '%' then
      match (p.rest.drop 1).take 2 |>.mapM CodePoint.hexValue? with
      | some [high, low] => do
        let (bytes, last) ← escapedBytes steps (p.forward 3)
        return ((16 * high + low).toUInt8 :: bytes, last)
      | _ => .error .invalid
    else .ok ([], p)

/-- The parts of a tag from a place on, and the place behind them. -/
def readUriParts : (steps : Nat) → Place → Except Fault (Text × Place)
  | 0, p => .ok ([], p)
  | steps + 1, p =>
    if p.sees '%' then do
      let (bytes, q) ← escapedBytes p.rest.length p
      match Utf8.decode bytes with
      | .error _ => throw .invalid
      | .ok t =>
        let (more, last) ← readUriParts steps q
        return (t ++ more, last)
    else match p.span isUriPart with
      | ([], _) => .ok ([], p)
      | (part, q) => do
        let (more, last) ← readUriParts steps q
        return (part ++ more, last)

/-- The tag text at a place, which is not empty, and the place behind it. -/
def readUri (p : Place) : Except Fault (Text × Place) :=
  if p.sees '%' || p.peek.any isUriPart then readUriParts (p.rest.length + 1) p else .error .invalid

/-- The handle at a place: an exclamation mark, or a name between two of them. -/
def readHandle (p : Place) : Except Fault (Text × Place) :=
  if !p.sees '!' then .error .invalid
  else
    let (name, q) := p.step.span isNamePart
    let mark := CodePoint.ofChar '!'
    if q.sees '!' then .ok (mark :: name ++ [mark], q.step)
    else if name.isEmpty && q.sees ' ' then .ok ([mark], q)
    else .error .invalid

/-- Whether an exclamation mark follows in the same field. -/
def hasHandle (t : Text) : Bool := (t.takeWhile fun c => !endsField (some c)).contains (CodePoint.ofChar '!')

/-- The tag at a place, which starts with an exclamation mark, and the place behind it. -/
def readTag (p : Place) : Except Fault (Token × Place) := do
  let (token, q) ←
    if p.step.sees '<' then do
      let (uri, q) ← readUri (p.forward 2)
      if q.sees '>' then pure (Token.tag none uri, q.step) else throw .invalid
    else if endsWord p.step.peek then
      pure (Token.tag none [CodePoint.ofChar '!'], p.step)
    else if hasHandle (p.rest.drop 1) then do
      let (handle, q) ← readHandle p
      let (uri, q) ← readUri q
      pure (Token.tag (some handle) uri, q)
    else do
      let (uri, q) ← readUri p.step
      pure (Token.tag (some [CodePoint.ofChar '!']) uri, q)
  if endsField q.peek then return (token, q) else throw .invalid

/-- The decimal number at a place, and the place behind it. -/
def readNumber (p : Place) : Except Fault (Nat × Place) :=
  match p.span CodePoint.isAsciiDigit with
  | ([], _) => .error .invalid
  | (ds, q) =>
    if Decimal.digitLimit < ds.length then .error (.refused (.tooManyDigits ds.length))
    else .ok (Decimal.ofDigits (ds.map fun c => c.val - 0x30), q)

/-- The two numbers of a version, with a point between them. -/
def readVersion (p : Place) : Except Fault (Directive × Place) := do
  let (major, q) ← readNumber p.skipSpaces
  if !q.sees '.' then throw .invalid
  let (minor, q) ← readNumber q.step
  if endsField q.peek then return (.version major minor, q) else throw .invalid

/-- A handle and what it stands for. -/
def readHandleMeaning (p : Place) : Except Fault (Directive × Place) := do
  let (name, q) ← readHandle p.skipSpaces
  if !q.sees ' ' then throw .invalid
  let (uri, q) ← readUri q.skipSpaces
  if endsField q.peek then return (.handle name uri, q) else throw .invalid

/-- The directive at a place, which starts with a percent sign, and the place behind its line. A directive of an
unknown name may say anything. -/
def readDirective (p : Place) : Except Fault (Directive × Place) := do
  let (name, q) := p.step.span isNamePart
  if name.isEmpty || !endsField q.peek then throw .invalid
  let (directive, q) ←
    if name == Text.ofString "YAML" then readVersion q
    else if name == Text.ofString "TAG" then readHandleMeaning q
    else pure (.other, q.skipLine)
  return (directive, ← BlockScalar.ignoreLine q)

end Property

end ParenTokens.Yaml
