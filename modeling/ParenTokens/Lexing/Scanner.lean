import ParenTokens.Token
import ParenTokens.Text.Blank
import ParenTokens.Text.DecimalDigit
import ParenTokens.Lexing.Cursor

namespace ParenTokens

/-!
# The scanner

A scanner cuts the code points under a cursor into tokens, one at a time, until it has given the end token or met a
fault.

* `Refusal`: why a call gets no answer.
* `Cursor.skipBlanks`, `Cursor.readIdentifier`, `Cursor.readString`: the parts of a token's scan, which may also be
  called where no such token starts.
* `Cursor.scanToken`: the next token.
* `Scanner`, `Scanner.next`: the scanner, which refuses to go on after its end.
* `Scanner.drain`: all tokens up to the end.
* `tokenize`, `tokenizeText`: the tokens of some bytes or of a text, or the fault that stops them.
-/

/-- Why a call on a scanner gets no answer. -/
inductive Refusal
  /-- The text has no further token. -/
  | fault (f : Fault)
  /-- Bytes between two places of the cursor are no text. -/
  | undecodable (e : Utf8.DecodeError)
  /-- The scanner has given its end token or met a fault before. -/
  | terminated
  /-- The consumer has been given the end token or been refused before. -/
  | finished
deriving DecidableEq, Repr

/-- What is said about a refusal. -/
def Refusal.message : Refusal → Text
  | fault f => f.located
  | undecodable e => e.message
  | terminated => "next_token() called after the token stream terminated"
  | finished => []

namespace Cursor

/-! ### Parts of a scan -/

/-- Reads blanks; gives the code point after them, which is not read, or none at the end. -/
def skipBlanks (r : Cursor) : Except Fault (Option CodePoint) × Cursor := r.advanceWhile CodePoint.isBlank

/-- The text between an offset and the place of the cursor. -/
def textSince (r : Cursor) (start stop : Nat) : Except Refusal Text :=
  match r.textBetween start stop with
  | .ok t => .ok t
  | .error e => .error (.undecodable e)

/-- Reads letters, digits and underscores. -/
def readIdentifier (r : Cursor) : Except Refusal Text × Cursor :=
  match r.advanceWhile CodePoint.continuesIdentifier with
  | (.ok _, r') => (r'.textSince r.offset r'.offset, r')
  | (.error f, r') => (.error (.fault f), r')

def stringMark : CodePoint := Quoted.doubleQuote

/-- Reads one code point, whatever it is, and then up to and with the next string mark; gives what stands between. -/
def readString (r : Cursor) : Except Refusal Text × Cursor :=
  match r.read with
  | (.error f, inside) => (.error (.fault f), inside)
  | (.ok _, inside) =>
    match inside.advanceWhile (· != stringMark) with
    | (.error f, stop) => (.error (.fault f), stop)
    | (.ok none, stop) =>
      (.error (.fault (.unterminatedString stop.position [stringMark] r.position)), stop)
    | (.ok (some _), stop) => (stop.textSince inside.offset stop.offset, stop.read.2)

/-- The next token after blanks. A parenthesis, a string mark and a letter start one, and the end of the input gives
the end token; at anything else the cursor stays. -/
def scanToken (r : Cursor) : Except Refusal Token × Cursor :=
  match r.skipBlanks with
  | (.error f, start) => (.error (.fault f), start)
  | (.ok none, start) => (.ok ⟨.endOfInput, start.position, []⟩, start)
  | (.ok (some c), start) =>
    if c = '(' then (.ok ⟨.leftParen, start.position, []⟩, start.read.2)
    else if c = ')' then (.ok ⟨.rightParen, start.position, []⟩, start.read.2)
    else if c = stringMark then
      match start.readString with
      | (.ok t, stop) => (.ok ⟨.string, start.position, t⟩, stop)
      | (.error e, stop) => (.error e, stop)
    else if c.isLetter then
      match start.readIdentifier with
      | (.ok t, stop) => (.ok ⟨.identifier, start.position, t⟩, stop)
      | (.error e, stop) => (.error e, stop)
    else (.error (.fault (.unexpectedCharacter start.position [c])), start)

/-! ### Progress -/

theorem remaining_readIdentifier_lt {r : Cursor} {c : CodePoint} (h : r.peek.1 = .ok (some c))
    (hc : c.isLetter = true) : r.readIdentifier.2.remaining < r.remaining := by
  have hp : CodePoint.continuesIdentifier c = true := by simp [CodePoint.continuesIdentifier, hc]
  have := remaining_advanceWhile_lt h hp
  unfold readIdentifier
  split
  · next hs => rw [hs] at this; exact this
  · next hs => rw [hs] at this; exact this

theorem remaining_readString_lt {r : Cursor} {c : CodePoint} (h : r.peek.1 = .ok (some c)) :
    r.readString.2.remaining < r.remaining := by
  have hread := remaining_read_of_peek h
  unfold readString
  split
  · next hs => rw [hs] at hread; exact hread
  · next inside hs =>
    rw [hs] at hread
    have hrun := remaining_advanceWhile_le (· != stringMark) inside
    split
    · next ha => rw [ha] at hrun; exact Nat.lt_of_le_of_lt hrun hread
    · next ha => rw [ha] at hrun; exact Nat.lt_of_le_of_lt hrun hread
    · next stop ha =>
      rw [ha] at hrun
      exact Nat.lt_of_le_of_lt (Nat.le_trans (remaining_read_le stop) hrun) hread

/-- Every token but the last takes at least one byte. -/
theorem remaining_scanToken_lt {r stop : Cursor} {t : Token} (h : r.scanToken = (.ok t, stop))
    (ht : t.kind ≠ .endOfInput) : stop.remaining < r.remaining := by
  unfold scanToken at h
  have hrun := remaining_advanceWhile_le CodePoint.isBlank r
  split at h
  · cases h
  · cases h; exact absurd rfl ht
  · next c start hskip =>
    have hpeek : start.peek.1 = .ok (some c) := by rw [(peek_of_advanceWhile hskip).1]
    rw [show r.advanceWhile CodePoint.isBlank = _ from hskip] at hrun
    split at h
    · cases h; exact Nat.lt_of_lt_of_le (remaining_read_of_peek hpeek) hrun
    · split at h
      · cases h; exact Nat.lt_of_lt_of_le (remaining_read_of_peek hpeek) hrun
      · split at h
        · have hs := remaining_readString_lt hpeek
          split at h
          · next hr => cases h; rw [hr] at hs; exact Nat.lt_of_lt_of_le hs hrun
          · cases h
        · split at h
          · next hl =>
            have hs := remaining_readIdentifier_lt hpeek hl
            split at h
            · next hr => cases h; rw [hr] at hs; exact Nat.lt_of_lt_of_le hs hrun
            · cases h
          · cases h

end Cursor

/-! ### Scanners -/

/-- A cursor that gives tokens until it is exhausted. -/
structure Scanner where
  cursor : Cursor
  exhausted : Bool

namespace Scanner

/-- A scanner of some bytes. -/
def ofBytes (data : Array UInt8) : Scanner := ⟨.ofBytes data, false⟩

/-- A scanner of the bytes of a text. -/
def ofText (t : Text) : Scanner := ⟨.ofText t, false⟩

/-- The number of code points read so far. -/
def position (s : Scanner) : Nat := s.cursor.position

/-- The next token. The end token and a fault exhaust the scanner, and an exhausted scanner refuses. -/
def next (s : Scanner) : Except Refusal Token × Scanner :=
  if s.exhausted then (.error .terminated, s)
  else
    match s.cursor.scanToken with
    | (.ok t, r) => (.ok t, ⟨r, t.kind == .endOfInput⟩)
    | (.error (.fault f), r) => (.error (.fault f), ⟨r, true⟩)
    | (.error e, r) => (.error e, ⟨r, false⟩)

theorem remaining_next_lt {s s' : Scanner} {t : Token} (h : s.next = (.ok t, s')) (ht : t.kind ≠ .endOfInput) :
    s'.cursor.remaining < s.cursor.remaining := by
  unfold next at h
  split at h
  · cases h
  · split at h
    · next hscan => cases h; exact Cursor.remaining_scanToken_lt hscan ht
    · cases h
    · cases h

/-- The tokens up to and with the end token, the refusal that cuts them short if there is one, and the scanner left
behind. -/
def drain (s : Scanner) : List Token × Option Refusal × Scanner :=
  match _h : s.next with
  | (.error e, s') => ([], some e, s')
  | (.ok t, s') =>
    if _ht : t.kind = .endOfInput then ([t], none, s')
    else
      let (ts, e, s'') := drain s'
      (t :: ts, e, s'')
termination_by s.cursor.remaining
decreasing_by exact remaining_next_lt _h _ht

/-- All tokens of a scanner, or what stops it. -/
def tokens (s : Scanner) : Except Refusal (List Token) :=
  match s.drain with
  | (ts, none, _) => .ok ts
  | (_, some e, _) => .error e

end Scanner

/-- The tokens of some bytes, or why there are none. -/
def tokenize (data : Array UInt8) : Except Refusal (List Token) := (Scanner.ofBytes data).tokens

/-- The tokens of a text, or why there are none. -/
def tokenizeText (t : Text) : Except Refusal (List Token) := (Scanner.ofText t).tokens

end ParenTokens
