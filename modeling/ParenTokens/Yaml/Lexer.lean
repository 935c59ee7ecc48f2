import ParenTokens.Yaml.PlainScalar
import ParenTokens.Yaml.Property
import ParenTokens.Yaml.QuotedScalar

namespace ParenTokens.Yaml

/-!
# Tokens of a YAML text

Block collections are found by their indentation. A key without a question mark is known as one only by the colon
after it: what may be such a key is remembered, and its token is given out only when the colon was met or can no
longer come. A key stands on one line and is at most 1024 code points long.

* `PossibleKey`: a token that may turn out to be a key.
* `Lexer`: a place with the tokens waiting there and the open collections.
* `Lexer.fetch`: reads the next sign or scalar.
* `Lexer.run`: gives out tokens.
* `TokenStream`, `TokenStream.ofText`: the tokens of a text, and what is wrong where they end.
-/

/-- A token that may turn out to be a key: its number among all tokens and its place. A required one starts its line at
the indentation of an open block, where only a key may stand. -/
structure PossibleKey where
  number : Nat
  required : Bool
  index : Nat
  line : Nat
  column : Nat
deriving DecidableEq, Repr

/-- A place with the tokens that wait to be given out there. `keys` has one slot for the block context and one for each
open flow collection, the innermost first; `indents` holds the indentations of the blocks around the current one. -/
structure Lexer where
  place : Place
  ended : Bool
  given : Nat
  waiting : List Token
  keys : List (Option PossibleKey)
  indent : Int
  indents : List Int
  keyAllowed : Bool
deriving DecidableEq, Repr

namespace Lexer

/-- The lexer at the start of a text. -/
def ofText (t : Text) : Lexer :=
  { place := .start t, ended := false, given := 0, waiting := [], keys := [none], indent := -1, indents := [],
    keyAllowed := true }

/-- Whether a flow collection is open. -/
def inFlow (s : Lexer) : Bool := 1 < s.keys.length

def push (t : Token) (s : Lexer) : Lexer := { s with waiting := s.waiting ++ [t] }

/-- Puts a token before the waiting one of a given number. -/
def insertAt (number : Nat) (t : Token) (s : Lexer) : Lexer :=
  let i := number - s.given
  { s with waiting := s.waiting.take i ++ t :: s.waiting.drop i }

/-! ### Possible keys -/

/-- The farthest that a colon may be from the start of its key. -/
def keyLimit : Nat := 1024

/-- Whether a colon at this place is too late for a key. -/
def isStale (p : Place) (k : PossibleKey) : Bool := k.line != p.line || keyLimit < p.index - k.index

/-- Forgets the possible keys whose colon can no longer come. -/
def dropStaleKeys (s : Lexer) : Except Fault Lexer :=
  if s.keys.any fun slot => slot.any fun k => isStale s.place k && k.required then .error .invalid
  else .ok { s with keys := s.keys.map fun slot => slot.filter fun k => !isStale s.place k }

/-- Forgets the possible key of the innermost collection. -/
def dropKey (s : Lexer) : Except Fault Lexer :=
  match s.keys with
  | some k :: outer => if k.required then .error .invalid else .ok { s with keys := none :: outer }
  | _ => .ok s

/-- Remembers that the next token may turn out to be a key, if one may stand here. -/
def saveKey (s : Lexer) : Except Fault Lexer :=
  if s.keyAllowed then do
    let s ← s.dropKey
    let k : PossibleKey :=
      { number := s.given + s.waiting.length, required := !s.inFlow && s.indent == (s.place.column : Int),
        index := s.place.index, line := s.place.line, column := s.place.column }
    return { s with keys := some k :: s.keys.drop 1 }
  else .ok s

/-- Whether the next token to give out may yet turn out to be a key. -/
def awaitsKey (s : Lexer) : Bool := s.keys.any fun slot => slot.any fun k => k.number == s.given

/-! ### Indentation -/

/-- Closes the blocks that are indented deeper than a column. -/
def closeBlocksFrom (column indent : Int) : List Int → Nat × Int × List Int
  | [] => (0, indent, [])
  | outer :: indents =>
    if column < indent then
      let (closed, indent, indents) := closeBlocksFrom column outer indents
      (closed + 1, indent, indents)
    else (0, indent, outer :: indents)

/-- Closes the blocks that are indented deeper than a column, unless a flow collection is open. -/
def closeBlocks (column : Int) (s : Lexer) : Lexer :=
  if s.inFlow then s
  else
    let (closed, indent, indents) := closeBlocksFrom column s.indent s.indents
    { s with waiting := s.waiting ++ List.replicate closed .blockEnd, indent, indents }

/-- Opens a block at a column, if it is indented deeper than the current one. -/
def openBlock? (column : Nat) (s : Lexer) : Option Lexer :=
  if s.indent < column then some { s with indents := s.indent :: s.indents, indent := column } else none

/-- Opens a block at the place, if it is indented deeper; its token comes next. Only where a key is allowed. -/
def openBlockHere (t : Token) (s : Lexer) : Except Fault Lexer :=
  if s.inFlow then .ok s
  else if s.keyAllowed then .ok (((s.openBlock? s.place.column).map (push t)).getD s)
  else .error .invalid

/-! ### Signs -/

/-- The place of the next token: spaces, comments and line breaks are passed, and a byte order mark at the very start.
In block context a key may stand after each line break. -/
def skipBlanks : (steps : Nat) → Lexer → Lexer
  | 0, s => s
  | steps + 1, s =>
    let p := s.place.skipSpaces
    let p := if p.sees '#' then p.skipLine else p
    match p.lineBreak with
    | ([], _) => { s with place := p }
    | (_, q) => skipBlanks steps { s with place := q, keyAllowed := s.keyAllowed || !s.inFlow }

/-- Skips what stands before the next token. -/
def toNextToken (s : Lexer) : Lexer :=
  let p := s.place
  let s := if p.index == 0 && p.peek.any isByteOrderMark then { s with place := p.step } else s
  skipBlanks (s.place.rest.length + 1) s

/-- Passes over a sign of so many code points, which is the token `t`. -/
def sign (width : Nat) (t : Token) (s : Lexer) : Lexer := { s with place := s.place.forward width }.push t

/-- The end of the text. -/
def fetchEnd (s : Lexer) : Except Fault Lexer := do
  let s ← (s.closeBlocks (-1)).dropKey
  return { s with keyAllowed := false, keys := [none], ended := true }.push .streamEnd

/-- A sign that stands between documents closes all blocks. -/
def betweenDocuments (s : Lexer) : Except Fault Lexer := do
  let s ← (s.closeBlocks (-1)).dropKey
  return { s with keyAllowed := false }

def fetchDirective (s : Lexer) : Except Fault Lexer := do
  let s ← s.betweenDocuments
  let (d, q) ← Property.readDirective s.place
  return { s with place := q }.push (.directive d)

/-- An opening bracket, which may itself start a key. -/
def fetchFlowStart (t : Token) (s : Lexer) : Except Fault Lexer := do
  let s ← s.saveKey
  return { s with keys := none :: s.keys, keyAllowed := true }.sign 1 t

/-- A closing bracket. There must be an open one, of whatever kind. -/
def fetchFlowEnd (t : Token) (s : Lexer) : Except Fault Lexer := do
  let s ← s.dropKey
  if s.inFlow then return { s with keys := s.keys.drop 1, keyAllowed := false }.sign 1 t
  else throw .invalid

def fetchFlowEntry (s : Lexer) : Except Fault Lexer := do
  return (← { s with keyAllowed := true }.dropKey).sign 1 .flowEntry

def fetchBlockEntry (s : Lexer) : Except Fault Lexer := do
  let s ← s.openBlockHere .blockSequenceStart
  return (← { s with keyAllowed := true }.dropKey).sign 1 .blockEntry

def fetchKey (s : Lexer) : Except Fault Lexer := do
  let s ← s.openBlockHere .blockMappingStart
  return (← { s with keyAllowed := !s.inFlow }.dropKey).sign 1 .key

/-- A colon. If there is a possible key it becomes one, and starts a mapping if it is indented deeper; otherwise the
key is missing, or was marked by a question mark. -/
def fetchValue (s : Lexer) : Except Fault Lexer :=
  match s.keys with
  | some k :: outer =>
    let s := { s with keys := none :: outer, keyAllowed := false }.insertAt k.number .key
    let s :=
      if s.inFlow then s
      else ((s.openBlock? k.column).map (insertAt k.number .blockMappingStart)).getD s
    .ok (s.sign 1 .value)
  | _ => do
    let s ← s.openBlockHere .blockMappingStart
    return (← { s with keyAllowed := !s.inFlow }.dropKey).sign 1 .value

/-- A token that may be a key or the start of one, read from the place. -/
def fetchProperty (read : Place → Except Fault (Token × Place)) (s : Lexer) : Except Fault Lexer := do
  let s ← s.saveKey
  let (t, q) ← read s.place
  return { s with keyAllowed := false, place := q }.push t

def fetchQuoted (double : Bool) (s : Lexer) : Except Fault Lexer :=
  s.fetchProperty fun p => do
    let (t, q) ← QuotedScalar.read double p
    return (.scalar t false, q)

def fetchBlockScalar (folded : Bool) (s : Lexer) : Except Fault Lexer := do
  let s ← { s with keyAllowed := true }.dropKey
  let (t, q) ← BlockScalar.read folded s.indent s.place
  return { s with place := q }.push (.scalar t false)

/-- A plain scalar. A key may stand after it if a line break follows it. -/
def fetchPlain (s : Lexer) : Except Fault Lexer := do
  let s ← s.saveKey
  let (t, q, crossed) := PlainScalar.read s.inFlow (s.indent + 1) s.place
  return { s with keyAllowed := crossed, place := q }.push (.scalar t true)

/-- The token that starts at the place with a code point that `next` follows. -/
def fetchAt (c : CodePoint) (next : Option CodePoint) (s : Lexer) : Except Fault Lexer :=
  let flow := s.inFlow
  let lineStart := s.place.column == 0
  let rest := s.place.rest
  if lineStart && c == '%' then s.fetchDirective
  else if lineStart && startsWithMark '-' rest then return (← s.betweenDocuments).sign 3 .documentStart
  else if lineStart && startsWithMark '.' rest then return (← s.betweenDocuments).sign 3 .documentEnd
  else if c == '[' then s.fetchFlowStart .flowSequenceStart
  else if c == '\x7b' then s.fetchFlowStart .flowMappingStart
  else if c == ']' then s.fetchFlowEnd .flowSequenceEnd
  else if c == '\x7d' then s.fetchFlowEnd .flowMappingEnd
  else if c == ',' then s.fetchFlowEntry
  else if c == '-' && endsWord next then s.fetchBlockEntry
  else if c == '?' && (flow || endsWord next) then s.fetchKey
  else if c == ':' && (flow || endsWord next) then s.fetchValue
  else if c == '*' then
    s.fetchProperty fun p => do
      let (name, q) ← Property.readName p.step
      return (.reference name, q)
  else if c == '&' then
    s.fetchProperty fun p => do
      let (name, q) ← Property.readName p.step
      return (.anchor name, q)
  else if c == '!' then s.fetchProperty Property.readTag
  else if c == '|' && !flow then s.fetchBlockScalar false
  else if c == '>' && !flow then s.fetchBlockScalar true
  else if c == Quoted.apostrophe then s.fetchQuoted false
  else if c == Quoted.doubleQuote then s.fetchQuoted true
  else if PlainScalar.mayStart flow rest then s.fetchPlain
  else .error .invalid

/-- Reads the next sign or scalar, with the block ends before it. -/
def fetch (s : Lexer) : Except Fault Lexer := do
  let s ← s.toNextToken.dropStaleKeys
  let s := s.closeBlocks s.place.column
  match s.place.rest with
  | [] => s.fetchEnd
  | c :: rest => s.fetchAt c rest.head?

/-! ### Giving out tokens -/

/-- Whether more has to be read before the next token can be given out. -/
def needsMore (s : Lexer) : Except Fault (Bool × Lexer) :=
  if s.ended then .ok (false, s)
  else if s.waiting.isEmpty then .ok (true, s)
  else do
    let s ← s.dropStaleKeys
    return (s.awaitsKey, s)

/-- Gives out the tokens that can be given out, in reverse order after `before`, and what stops that. -/
def run : (steps : Nat) → (before : List Token) → Lexer → List Token × Fault
  | 0, before, _ => (before, .invalid)
  | steps + 1, before, s =>
    match s.needsMore with
    | .error e => (before, e)
    | .ok (true, s) =>
      match s.fetch with
      | .error e => (before, e)
      | .ok s => run steps before s
    | .ok (false, s) =>
      match s.waiting with
      | [] => (before, .invalid)
      | t :: waiting => run steps (t :: before) { s with waiting, given := s.given + 1 }

end Lexer

/-- The tokens of a text as far as they can be had, and the fault that is met behind them. -/
structure TokenStream where
  tokens : List Token
  ending : Fault
deriving DecidableEq, Repr

/-- The tokens of a text. Each code point gives at most a few of them, so the count of steps is no restriction. A text
with a code point that may not stand in it gives none. -/
def TokenStream.ofText (t : Text) : TokenStream :=
  if t.all isAllowed then
    let (tokens, ending) := Lexer.run (8 * t.length + 8) [] (.ofText t)
    { tokens := tokens.reverse, ending }
  else { tokens := [], ending := .invalid }

end ParenTokens.Yaml
