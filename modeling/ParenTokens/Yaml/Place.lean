import ParenTokens.Text.Slice

namespace ParenTokens.Yaml

/-!
# Places in a YAML text

* `isBreak`, `endsLine`, `endsField`, `endsWord`: line breaks, and what ends a line, a field of a header and a word.
* `isAllowed`: the code points that may stand in a YAML text at all.
* `Place`: the text that is left, with the number of code points, lines and columns passed.
* `Place.forward`, `Place.skipWhile`, `Place.lineBreak`: moving on.
* `Place.atMark`: whether a line of three hyphens or three points starts here.
* `rest_forward`: moving on drops code points from the text that is left.
-/

/-- Line breaks: line feed, carriage return, U+0085, U+2028 and U+2029. -/
def isBreak (c : CodePoint) : Bool :=
  c == '\n' || c == '\r' || c.val == 0x85 || c.val == 0x2028 || c.val == 0x2029

def isSpace (c : CodePoint) : Bool := c == ' '

def isSpaceOrTab (c : CodePoint) : Bool := c == ' ' || c == '\t'

/-- Whether a line ends before this code point, or at the end of the text. -/
def endsLine (c : Option CodePoint) : Bool := c.all isBreak

/-- Whether a field ends before this: at a space or the end of the line. -/
def endsField (c : Option CodePoint) : Bool := c.all fun c => isSpace c || isBreak c

/-- Whether a word ends before this: at a space, a tab or the end of the line. -/
def endsWord (c : Option CodePoint) : Bool := c.all fun c => isSpaceOrTab c || isBreak c

/-- The byte order mark. -/
def isByteOrderMark (c : CodePoint) : Bool := c.val == 0xFEFF

/-- Letters and digits of ASCII, the hyphen and the underscore: what names are made of. -/
def isNamePart (c : CodePoint) : Bool := c.isAsciiLetter || c.isAsciiDigit || c == '-' || c == '_'

/-- The code points that may stand in a text: no controls but the tab and the line breaks, no surrogates, and neither
U+FFFE nor U+FFFF. -/
def isAllowed (c : CodePoint) : Bool :=
  c == '\t' || c == '\n' || c == '\r' || (0x20 ≤ c.val && c.val ≤ 0x7E) || c.val == 0x85 ||
    (0xA0 ≤ c.val && c.val ≤ 0xD7FF) || (0xE000 ≤ c.val && c.val ≤ 0xFFFD) || 0x10000 ≤ c.val

/-- Whether a text starts with three times this code point, as a word. -/
def startsWithMark (c : CodePoint) (t : Text) : Bool := t.take 3 == [c, c, c] && endsWord t[3]?

/-- A place in a text. -/
structure Place where
  rest : Text
  index : Nat
  line : Nat
  column : Nat
deriving DecidableEq, Repr

namespace Place

/-- The start of a text. -/
def start (t : Text) : Place := { rest := t, index := 0, line := 0, column := 0 }

/-- The code point at the place, or none at the end. -/
def peek (p : Place) : Option CodePoint := p.rest.head?

/-- Whether the code point at the place is this one. -/
def sees (p : Place) (c : CodePoint) : Bool := p.peek == some c

/-- The place behind one code point. A line is counted where it ends, a byte order mark takes no column. -/
def step (p : Place) : Place :=
  match p.rest with
  | [] => p
  | c :: rest =>
    let newLine := if c == '\r' then rest.head? != some (CodePoint.ofChar '\n') else isBreak c
    { rest, index := p.index + 1,
      line := if newLine then p.line + 1 else p.line,
      column := if newLine then 0 else if isByteOrderMark c then p.column else p.column + 1 }

/-- The place behind so many code points. -/
def forward : Nat → Place → Place
  | 0, p => p
  | n + 1, p => forward n p.step

theorem rest_step (p : Place) : p.step.rest = p.rest.drop 1 := by
  unfold step
  split <;> simp_all

/-- Moving on drops code points from the text that is left. -/
theorem rest_forward (n : Nat) (p : Place) : (p.forward n).rest = p.rest.drop n := by
  induction n generalizing p with
  | zero => simp [forward]
  | succ n ih => simp [forward, ih, rest_step]

/-- The code points at the place that have a property, and the place behind them. -/
def span (q : CodePoint → Bool) (p : Place) : Text × Place :=
  let run := p.rest.takeWhile q
  (run, p.forward run.length)

/-- The place behind the code points that have a property. -/
def skipWhile (q : CodePoint → Bool) (p : Place) : Place := (p.span q).2

def skipSpaces (p : Place) : Place := p.skipWhile isSpace

/-- The place at the end of the line. -/
def skipLine (p : Place) : Place := p.skipWhile (!isBreak ·)

/-- The line break at the place, if there is one, and the place behind it. A carriage return, U+0085 and both together
with a line feed count as a line feed. -/
def lineBreak (p : Place) : Text × Place :=
  match p.rest with
  | [] => ([], p)
  | c :: rest =>
    if c == '\n' || c.val == 0x85 then ([CodePoint.ofChar '\n'], p.step)
    else if c == '\r' then
      ([CodePoint.ofChar '\n'], p.forward (if rest.head? == some (CodePoint.ofChar '\n') then 2 else 1))
    else if isBreak c then ([c], p.step)
    else ([], p)

/-- Whether a document mark starts here: three hyphens or three points. -/
def atMark (p : Place) : Bool := startsWithMark '-' p.rest || startsWithMark '.' p.rest

end Place

end ParenTokens.Yaml
