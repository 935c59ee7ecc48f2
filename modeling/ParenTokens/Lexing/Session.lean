import ParenTokens.Lexing.Scanner

namespace ParenTokens

/-!
# Sessions: several consumers on one scanner

* `Session`: a scanner and the consumers that take tokens from it, each by its number.
* `Session.Call`, `Session.perform`, `Session.trace`: what can be asked, the answer, and the answers to calls made one
  after another.
-/

/-- A scanner and its consumers. `finished` says for each consumer whether it has been given the end token or been
refused; such a consumer asks the scanner no more. -/
structure Session where
  scanner : Scanner
  finished : Array Bool

namespace Session

/-- A session on some bytes, without consumers. -/
def ofBytes (data : Array UInt8) : Session := ⟨.ofBytes data, #[]⟩

/-- What can be asked of a session. -/
inductive Call
  /-- The next token, asked of the scanner itself. -/
  | next
  /-- All further tokens. -/
  | drain
  /-- A new consumer. -/
  | consumer
  /-- The next token for a consumer. -/
  | advance (consumer : Nat)
  | skipBlanks
  | readIdentifier
  | readString
deriving DecidableEq, Repr

/-- What a session answers. -/
inductive Answer
  | token (t : Token)
  | tokens (ts : List Token)
  | consumer (number : Nat)
  | codePoint (c : Option CodePoint)
  | text (t : Text)
  | refusal (e : Refusal)
deriving DecidableEq, Repr

/-- The session with its cursor moved; the parts of a scan never exhaust the scanner. -/
def withCursor (s : Session) (r : Cursor) : Session := { s with scanner := { s.scanner with cursor := r } }

/-- The next token for a consumer. The scanner is asked unless the consumer is finished, and the consumer is finished
after the end token or any refusal. -/
def advance (s : Session) (consumer : Nat) : Except Refusal Token × Session :=
  if s.finished.getD consumer true then (.error .finished, s)
  else
    match s.scanner.next with
    | (.ok t, scanner) => (.ok t, ⟨scanner, s.finished.setIfInBounds consumer (t.kind == .endOfInput)⟩)
    | (.error e, scanner) => (.error e, ⟨scanner, s.finished.setIfInBounds consumer true⟩)

/-- The answer to a call, and the session after it. -/
def perform (s : Session) : Call → Answer × Session
  | .next => match s.scanner.next with
    | (.ok t, scanner) => (.token t, { s with scanner })
    | (.error e, scanner) => (.refusal e, { s with scanner })
  | .drain => match s.scanner.drain with
    | (ts, none, scanner) => (.tokens ts, { s with scanner })
    | (_, some e, scanner) => (.refusal e, { s with scanner })
  | .consumer => (.consumer s.finished.size, { s with finished := s.finished.push false })
  | .advance consumer => match s.advance consumer with
    | (.ok t, s) => (.token t, s)
    | (.error e, s) => (.refusal e, s)
  | .skipBlanks => match s.scanner.cursor.skipBlanks with
    | (.ok c, r) => (.codePoint c, s.withCursor r)
    | (.error f, r) => (.refusal (.fault f), s.withCursor r)
  | .readIdentifier => match s.scanner.cursor.readIdentifier with
    | (.ok t, r) => (.text t, s.withCursor r)
    | (.error e, r) => (.refusal e, s.withCursor r)
  | .readString => match s.scanner.cursor.readString with
    | (.ok t, r) => (.text t, s.withCursor r)
    | (.error e, r) => (.refusal e, s.withCursor r)

/-- The answers to calls made one after another, each with the session after it. -/
def trace (s : Session) : List Call → List (Answer × Session)
  | [] => []
  | call :: calls => s.perform call :: trace (s.perform call).2 calls

end Session

end ParenTokens
