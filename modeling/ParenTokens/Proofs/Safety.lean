import ParenTokens.Proofs.Interleaving
import ParenTokens.Proofs.Resuming
import Mathlib.Data.List.TakeWhile

namespace ParenTokens

/-!
# Any calls in any order

The parts of a scan may be called where no such token starts, and every call may follow a refusal or the end.  A cursor
that has met a byte that starts no code point may even go on in the middle of what was written as one.  Whatever the
calls are, the text between two places is decoded only where code points were read all along.

* `Cursor.Reaches` — what moving on from one place to another keeps.
* `Cursor.exists_passes_advanceWhile` — a run from any place passes a text.
* `Cursor.Answers` — an answer and the cursor after it: only faults refuse, and they are found at that cursor.
* `Scanner.Follows`, `Scanner.Refuses` — what a scanner keeps, and why it refuses; `Scanner.next_safe`,
  `Scanner.drain_safe`.
* `Session.Safe`, `Session.perform_safe` — one call; `Session.follows_after` — any calls.
* `Session.perform_after_safe` — one more call after any calls on fresh bytes.
-/

/-! ### Moving on -/

namespace Cursor

/-- A cursor goes on from `r` to `r'`: in the same bytes, never back, and by no more code points than bytes. -/
structure Reaches (r r' : Cursor) : Prop where
  data_eq : r'.data = r.data
  position_le : r.position ≤ r'.position
  counted : r'.position + r.offset ≤ r.position + r'.offset

theorem Reaches.refl (r : Cursor) : r.Reaches r := ⟨rfl, Nat.le_refl _, Nat.le_refl _⟩

theorem Reaches.trans {r r' r'' : Cursor} (h : r.Reaches r') (h' : r'.Reaches r'') : r.Reaches r'' := by
  obtain ⟨hdata, hposition, hcounted⟩ := h
  obtain ⟨hdata', hposition', hcounted'⟩ := h'
  exact ⟨hdata'.trans hdata, by omega, by omega⟩

theorem Reaches.offset_le {r r' : Cursor} (h : r.Reaches r') : r.offset ≤ r'.offset := by
  obtain ⟨-, hposition, hcounted⟩ := h
  omega

/-- Each scalar that is passed takes a byte at least. -/
theorem Passes.reaches {r r' : Cursor} {u : Text} (h : r.Passes u r') (hu : u.IsScalar) : r.Reaches r' := by
  have hlength := Text.length_le_length_utf8 hu
  refine ⟨h.data_eq, ?_, ?_⟩
  · rw [h.position_eq]
    exact Nat.le_add_right _ _
  · rw [h.position_eq, h.offset_eq]
    omega

theorem reaches_read (r : Cursor) : r.Reaches r.read.2 := by
  rcases r.read_cases with ⟨-, hread⟩ | ⟨c, t, rest, r', hbefore, hread, hpass⟩ |
    ⟨b, rest, r', -, hread, hdata, hoffset, hposition⟩
  · rw [hread]
    exact .refl r
  · rw [hread]
    have hc := (Text.isScalar_cons.1 hbefore.scalar).1
    exact hpass.reaches (Text.isScalar_cons.2 ⟨hc, Text.isScalar_nil⟩)
  · rw [hread]
    show r.Reaches r'
    exact ⟨hdata, by omega, by omega⟩

/-! ### Runs and the parts of a scan -/

/-- **A run from any place.** It passes a text, whatever the bytes are, and sees what stands behind it. -/
theorem exists_passes_advanceWhile (p : CodePoint → Bool) (r : Cursor) :
    ∃ u v rest r', r.Before (u ++ v) rest ∧ r.advanceWhile p = (r'.seen v rest, r') ∧ r.Passes u r' := by
  obtain ⟨t, rest, h⟩ := r.exists_before
  rw [← List.takeWhile_append_dropWhile (p := p) (l := t)] at h
  have hstop : ∀ c ∈ (t.dropWhile p).head?, p c = false := head_dropWhile_eq_false p t
  obtain ⟨r', hrun, hpass⟩ := advanceWhile_of_before h (fun c hc => List.mem_takeWhile_imp hc) hstop
  exact ⟨_, _, rest, r', h, hrun, hpass⟩

/-- What cannot be read is refused where the cursor stands. -/
theorem fault_eq_of_seen {r : Cursor} {t : Text} {rest : List UInt8} {f : Fault} (h : r.seen t rest = .error f) :
    f = .invalidEncoding r.position r.offset := by
  unfold seen at h
  split at h
  · cases h
  · cases h
  · cases h
    rfl

/-- An answer and the cursor after it: the cursor has moved on, and only a fault found there refuses. -/
structure Answers {α : Type} (r : Cursor) (x : Except Refusal α × Cursor) : Prop where
  reaches : r.Reaches x.2
  faulty : ∀ e, x.1 = .error e → ∃ f, e = .fault f ∧ f.position = x.2.position

section

variable {α : Type} {r r' : Cursor}

theorem answers_ok {a : α} (h : r.Reaches r') : r.Answers (.ok a, r') := ⟨h, nofun⟩

theorem answers_fault {f : Fault} (h : r.Reaches r') (hf : f.position = r'.position) :
    r.Answers ((.error (.fault f), r') : Except Refusal α × Cursor) := by
  refine ⟨h, ?_⟩
  intro e he
  cases he
  exact ⟨f, rfl, hf⟩

/-- A refusal says nothing about what was asked for. -/
theorem Answers.refused {β : Type} {e : Refusal} (h : r.Answers ((.error e, r') : Except Refusal α × Cursor)) :
    r.Answers ((.error e, r') : Except Refusal β × Cursor) := by
  refine ⟨h.reaches, ?_⟩
  intro e' he'
  cases he'
  exact h.faulty e rfl

theorem Answers.of_reaches {x : Except Refusal α × Cursor} (h : r.Reaches r') (hx : r'.Answers x) : r.Answers x :=
  ⟨h.trans hx.reaches, hx.faulty⟩

end

/-- Skipping blanks moves on, and a fault is found where it stops. -/
theorem skipBlanks_safe (r : Cursor) :
    r.Reaches r.skipBlanks.2 ∧ ∀ f, r.skipBlanks.1 = .error f → f.position = r.skipBlanks.2.position := by
  obtain ⟨u, v, rest, r', h, hrun, hpass⟩ := exists_passes_advanceWhile CodePoint.isBlank r
  have hskip : r.skipBlanks = (r'.seen v rest, r') := hrun
  rw [hskip]
  refine ⟨hpass.reaches (Text.isScalar_append.1 h.scalar).1, ?_⟩
  intro f hf
  rw [fault_eq_of_seen hf]
  rfl

theorem readIdentifier_safe (r : Cursor) : r.Answers r.readIdentifier := by
  obtain ⟨u, v, rest, r', h, hrun, hpass⟩ := exists_passes_advanceWhile CodePoint.continuesIdentifier r
  have hreach := hpass.reaches (Text.isScalar_append.1 h.scalar).1
  rw [readIdentifier, hrun]
  cases hseen : r'.seen v rest with
  | ok c =>
    -- All that was passed is text.
    have htext : r'.textSince r.offset r'.offset = .ok u := textSince_of_passes h hpass r' hpass.data_eq
    show r.Answers (r'.textSince r.offset r'.offset, r')
    rw [htext]
    exact answers_ok hreach
  | error f =>
    refine answers_fault hreach ?_
    rw [fault_eq_of_seen hseen]
    rfl

theorem readString_safe (r : Cursor) : r.Answers r.readString := by
  have hread := r.reaches_read
  rw [readString]
  cases hfirst : r.read with
  | mk a inside =>
    rw [hfirst] at hread
    cases a with
    | error f =>
      refine answers_fault hread ?_
      rcases r.read_cases with ⟨-, h⟩ | ⟨c, t, rest, r', -, h, -⟩ | ⟨b, rest, r', -, h, -, -, hposition⟩
      · rw [hfirst] at h
        cases h
      · rw [hfirst] at h
        cases h
      · rw [hfirst] at h
        cases h
        exact congrArg Nat.cast hposition.symm
    | ok first =>
      -- The run starts behind the first code point, whatever that was.
      obtain ⟨u, v, rest, stop, h, hrun, hpass⟩ := exists_passes_advanceWhile (· != stringMark) inside
      have hreach := hread.trans (hpass.reaches (Text.isScalar_append.1 h.scalar).1)
      simp only [hrun]
      cases hseen : stop.seen v rest with
      | error f =>
        refine answers_fault hreach ?_
        rw [fault_eq_of_seen hseen]
        rfl
      | ok c =>
        cases c with
        | none => exact answers_fault hreach rfl
        | some c =>
          have htext : stop.textSince inside.offset stop.offset = .ok u :=
            textSince_of_passes h hpass stop hpass.data_eq
          show r.Answers (stop.textSince inside.offset stop.offset, stop.read.2)
          rw [htext]
          exact answers_ok (hreach.trans stop.reaches_read)

theorem scanToken_safe (r : Cursor) : r.Answers r.scanToken := by
  obtain ⟨hreach, hfault⟩ := r.skipBlanks_safe
  rw [scanToken]
  cases hskip : r.skipBlanks with
  | mk a start =>
    rw [hskip] at hreach hfault
    cases a with
    | error f => exact answers_fault hreach (hfault f rfl)
    | ok c =>
      cases c with
      | none => exact answers_ok hreach
      | some c =>
        have hmark := hreach.trans start.reaches_read
        have hstring := Answers.of_reaches hreach start.readString_safe
        have hidentifier := Answers.of_reaches hreach start.readIdentifier_safe
        simp only
        split
        · exact answers_ok hmark
        split
        · exact answers_ok hmark
        split
        · split
          · next t stop h => rw [h] at hstring; exact answers_ok hstring.reaches
          · next e stop h => rw [h] at hstring; exact hstring.refused
        split
        · split
          · next t stop h => rw [h] at hidentifier; exact answers_ok hidentifier.reaches
          · next e stop h => rw [h] at hidentifier; exact hidentifier.refused
        · exact answers_fault hreach rfl

end Cursor

/-! ### Scanners -/

namespace Scanner

/-- What a scanner keeps while it goes on from `s` to `s'`. -/
structure Follows (s s' : Scanner) : Prop where
  reaches : s.cursor.Reaches s'.cursor
  exhausted : s.exhausted = true → s'.exhausted = true

/-- Why the scanner `s`, now `s'`, may refuse: a fault was found where it now stands, or it was exhausted before. -/
def Refuses (s s' : Scanner) (e : Refusal) : Prop :=
  (∃ f, e = .fault f ∧ f.position = s'.position) ∨ (e = .terminated ∧ s.exhausted = true)

theorem next_safe (s : Scanner) : s.Follows s.next.2 ∧ ∀ e, s.next.1 = .error e → s.Refuses s.next.2 e := by
  by_cases hex : s.exhausted = true
  · rw [next_of_exhausted hex]
    refine ⟨⟨.refl _, id⟩, ?_⟩
    intro e he
    cases he
    exact .inr ⟨rfl, hex⟩
  rw [Bool.not_eq_true] at hex
  have hscan := s.cursor.scanToken_safe
  have hlive : ∀ s' : Scanner, s.exhausted = true → s'.exhausted = true := fun _ h => by rw [hex] at h; cases h
  cases h : s.cursor.scanToken with
  | mk a r =>
    rw [h] at hscan
    cases a with
    | ok t =>
      rw [next_of_scanToken_ok hex h]
      exact ⟨⟨hscan.reaches, hlive _⟩, nofun⟩
    | error e =>
      obtain ⟨f, rfl, hf⟩ := hscan.faulty e rfl
      rw [next_of_scanToken_fault hex h]
      refine ⟨⟨hscan.reaches, hlive _⟩, ?_⟩
      intro e he
      cases he
      exact .inl ⟨f, rfl, hf⟩

/-- A scanner that has given a token before the last is not exhausted. -/
theorem exhausted_of_next_token {s s' : Scanner} {t : Token} (h : s.next = (.ok t, s')) (ht : t.kind ≠ .endOfInput) :
    s'.exhausted = false := by
  unfold next at h
  split at h
  · cases h
  · split at h
    · cases h
      exact beq_eq_false_iff_ne.2 ht
    · cases h
    · cases h

/-- **All further tokens.** The calls that ask for them one by one keep what one of them keeps. -/
theorem drain_safe (s : Scanner) :
    s.Follows s.drain.2.2 ∧ ∀ e, s.drain.2.1 = some e → s.Refuses s.drain.2.2 e := by
  have hnext := s.next_safe
  fun_induction drain s with
  | case1 s e s' h =>
    rw [h] at hnext
    refine ⟨hnext.1, ?_⟩
    intro e' he'
    cases he'
    exact hnext.2 e rfl
  | case2 s t s' h ht =>
    rw [h] at hnext
    exact ⟨hnext.1, nofun⟩
  | case3 s t s' h ht ts e s'' hdrain ih =>
    rw [h] at hnext
    have hmore := ih s'.next_safe
    rw [hdrain] at hmore
    obtain ⟨hfollows, hrefuses⟩ := hmore
    refine ⟨⟨hnext.1.reaches.trans hfollows.reaches, fun hex => hfollows.exhausted (hnext.1.exhausted hex)⟩, ?_⟩
    intro e' he'
    -- The scanner that goes on is not exhausted, so that only a fault stops it.
    have hlive := exhausted_of_next_token h ht
    rcases hrefuses e' he' with hfault | ⟨-, hex⟩
    · exact .inl hfault
    · rw [hlive] at hex
      cases hex

end Scanner

namespace Session

/-! ### Sessions -/

/-- The calls that make the scanner look for tokens. -/
def Call.scans : Call → Bool
  | next | drain | advance _ => true
  | consumer | skipBlanks | readIdentifier | readString => false

/-- What one call keeps, from `s` to `s'`, and what it may be refused for. -/
structure Safe (s : Session) (call : Call) (a : Answer) (s' : Session) : Prop where
  follows : s.scanner.Follows s'.scanner
  refuses : ∀ e, a = .refusal e →
    (∃ f, e = .fault f ∧ f.position = s'.scanner.position) ∨
      (e = .terminated ∧ call.scans = true ∧ s.scanner.exhausted = true) ∨
      (e = .finished ∧ ∃ k, call = .advance k ∧ s.finished.getD k true = true)
  unchanged : call.scans = false → s'.scanner.exhausted = s.scanner.exhausted

/-- A call that makes the scanner look for tokens keeps what the scanner keeps. -/
theorem safe_of_scanner {s s' : Session} {call : Call} {a : Answer} (hcall : call.scans = true)
    (hfollows : s.scanner.Follows s'.scanner)
    (hrefuses : ∀ e, a = .refusal e → s.scanner.Refuses s'.scanner e) : Safe s call a s' := by
  refine ⟨hfollows, ?_, ?_⟩
  · intro e he
    rcases hrefuses e he with hfault | ⟨hterminated, hex⟩
    · exact .inl hfault
    · exact .inr (.inl ⟨hterminated, hcall, hex⟩)
  · intro h
    rw [hcall] at h
    cases h

/-- A call that only moves the cursor keeps what the cursor keeps. -/
theorem safe_of_cursor {s : Session} {call : Call} {a : Answer} {r : Cursor}
    (hreach : s.scanner.cursor.Reaches r)
    (hfault : ∀ e, a = .refusal e → ∃ f, e = .fault f ∧ f.position = r.position) :
    Safe s call a (s.withCursor r) :=
  ⟨⟨hreach, id⟩, fun e he => .inl (hfault e he), fun _ => rfl⟩

/-- The answer that a part of a scan becomes. -/
def Answer.ofRead : Except Refusal Text → Answer
  | .ok t => text t
  | .error e => refusal e

theorem perform_readIdentifier (s : Session) :
    s.perform .readIdentifier =
      (.ofRead s.scanner.cursor.readIdentifier.1, s.withCursor s.scanner.cursor.readIdentifier.2) := by
  rw [perform]
  obtain ⟨a, r⟩ := s.scanner.cursor.readIdentifier
  cases a <;> rfl

theorem perform_readString (s : Session) :
    s.perform .readString = (.ofRead s.scanner.cursor.readString.1, s.withCursor s.scanner.cursor.readString.2) := by
  rw [perform]
  obtain ⟨a, r⟩ := s.scanner.cursor.readString
  cases a <;> rfl

/-- All further tokens are the answer, unless something stops the scanner. -/
theorem perform_drain (s : Session) :
    s.perform .drain = (s.scanner.drain.2.1.elim (.tokens s.scanner.drain.1) .refusal,
      { s with scanner := s.scanner.drain.2.2 }) := by
  rw [perform]
  obtain ⟨ts, e, scanner⟩ := s.scanner.drain
  cases e <;> rfl

theorem safe_of_answers {s : Session} {call : Call} {x : Except Refusal Text × Cursor}
    (h : s.scanner.cursor.Answers x) : Safe s call (.ofRead x.1) (s.withCursor x.2) := by
  apply safe_of_cursor h.reaches
  intro e he
  cases hx : x.1 with
  | ok t => rw [hx] at he; cases he
  | error e' => rw [hx] at he; cases he; exact h.faulty e hx

theorem refusal_of_ofResult {x : Except Refusal Token} {e : Refusal} (h : Answer.ofResult x = .refusal e) :
    x = .error e := by
  cases x with
  | ok t => cases h
  | error e' => cases h; rfl

/-- **One call.** Whatever the session is, no call goes back, and each is refused for one of three reasons. -/
theorem perform_safe (s : Session) (call : Call) : Safe s call (s.perform call).1 (s.perform call).2 := by
  have hnext := s.scanner.next_safe
  cases call with
  | next =>
    rw [perform_next]
    exact safe_of_scanner rfl hnext.1 fun e he => hnext.2 e (refusal_of_ofResult he)
  | drain =>
    have hdrain := s.scanner.drain_safe
    rw [perform_drain]
    refine safe_of_scanner rfl hdrain.1 fun e he => hdrain.2 e ?_
    cases hstop : s.scanner.drain.2.1 with
    | none => rw [hstop] at he; cases he
    | some e' => rw [hstop] at he; cases he; rfl
  | consumer => exact ⟨⟨.refl _, id⟩, nofun, fun _ => rfl⟩
  | advance k =>
    cases hk : s.finished.getD k true with
    | true =>
      rw [perform_advance_of_finished hk]
      refine ⟨⟨.refl _, id⟩, ?_, fun _ => rfl⟩
      intro e he
      cases he
      exact .inr (.inr ⟨rfl, k, rfl, hk⟩)
    | false =>
      rw [perform_advance_of_live hk]
      exact safe_of_scanner rfl hnext.1 fun e he => hnext.2 e (refusal_of_ofResult he)
  | skipBlanks =>
    obtain ⟨hreach, hfault⟩ := s.scanner.cursor.skipBlanks_safe
    rw [perform_skipBlanks]
    apply safe_of_cursor hreach
    intro e he
    cases hseen : s.scanner.cursor.skipBlanks.1 with
    | ok c => rw [hseen] at he; cases he
    | error f => rw [hseen] at he; cases he; exact ⟨f, rfl, hfault f hseen⟩
  | readIdentifier =>
    rw [perform_readIdentifier]
    exact safe_of_answers s.scanner.cursor.readIdentifier_safe
  | readString =>
    rw [perform_readString]
    exact safe_of_answers s.scanner.cursor.readString_safe

theorem after_concat (s : Session) (calls : List Call) (call : Call) :
    s.after (calls ++ [call]) = ((s.after calls).perform call).2 := by
  induction calls generalizing s with
  | nil => rfl
  | cons c calls ih => exact ih (s.perform c).2

/-- **Any calls.** The scanner goes on from where it was. -/
theorem follows_after (s : Session) (calls : List Call) : s.scanner.Follows (s.after calls).scanner := by
  induction calls generalizing s with
  | nil => exact ⟨.refl _, id⟩
  | cons call calls ih =>
    have hfirst := (s.perform_safe call).follows
    have hmore := ih (s.perform call).2
    exact ⟨hfirst.reaches.trans hmore.reaches, fun hex => hmore.exhausted (hfirst.exhausted hex)⟩

/-- The session stands within the bytes, and has counted no more code points than it has passed bytes. -/
structure Within (s : Session) (data : Array UInt8) : Prop where
  data_eq : s.scanner.cursor.data = data
  position_le : s.scanner.position ≤ s.scanner.cursor.offset
  offset_le : s.scanner.cursor.offset ≤ data.size

theorem within_after (data : Array UInt8) (calls : List Call) : ((ofBytes data).after calls).Within data := by
  have hreach := ((ofBytes data).follows_after calls).reaches
  have hdata : ((ofBytes data).after calls).scanner.cursor.data = data := hreach.data_eq
  refine ⟨hdata, ?_, ?_⟩
  · -- A fresh cursor has counted nothing and passed nothing.
    have hcounted : ((ofBytes data).after calls).scanner.position + 0 ≤
        0 + ((ofBytes data).after calls).scanner.cursor.offset := hreach.counted
    omega
  · have hle := ((ofBytes data).after calls).scanner.cursor.offset_le
    rwa [hdata] at hle

/-- **Any calls in any order.** Let calls of any kind be made on a fresh session, and then one more.  It is refused for
    a fault, and then the fault lies where the scanner now stands; or since the scanner was exhausted and is asked for
    a token; or since the consumer has had its last answer.  It is never refused because bytes that were passed are no
    text.  Neither the position nor the byte offset goes back, and the position is at most the offset, the offset at
    most the number of bytes.  An exhausted scanner stays so, and only asking for tokens exhausts it.  The same holds
    for a text, which is scanned as its bytes. -/
theorem perform_after_safe (data : Array UInt8) (calls : List Call) (call : Call) :
    let s := (ofBytes data).after calls
    let a := (s.perform call).1
    let s' := (s.perform call).2
    (∀ e, a = .refusal e →
        (∃ f, e = .fault f ∧ f.position = s'.scanner.position) ∨
          (e = .terminated ∧ call.scans = true ∧ s.scanner.exhausted = true) ∨
          (e = .finished ∧ ∃ k, call = .advance k ∧ s.finished.getD k true = true)) ∧
      s.scanner.position ≤ s'.scanner.position ∧ s.scanner.cursor.offset ≤ s'.scanner.cursor.offset ∧
      s.Within data ∧ s'.Within data ∧
      (s.scanner.exhausted = true → s'.scanner.exhausted = true) ∧
      (s'.scanner.exhausted ≠ s.scanner.exhausted → call.scans = true) ∧
      ∀ t : Text, Scanner.ofText t = (ofBytes t.utf8.toArray).scanner := by
  intro s a s'
  obtain ⟨hfollows, hrefuses, hunchanged⟩ := s.perform_safe call
  have hwithin : s'.Within data := by
    have h := within_after data (calls ++ [call])
    rwa [after_concat] at h
  refine ⟨hrefuses, hfollows.reaches.position_le, hfollows.reaches.offset_le, within_after data calls, hwithin,
    hfollows.exhausted, ?_, fun t => rfl⟩
  intro hne
  by_contra hscans
  rw [Bool.not_eq_true] at hscans
  exact hne (hunchanged hscans)

-- Reading strings where none starts: each call passes one byte of a sequence cut short, until it meets the parenthesis.
example : ((ofBytes #[0xE2, 0x82, 0x28]).trace [.readString, .readIdentifier, .readString, .readIdentifier, .readString,
      .next, .next]).map Prod.fst =
    [.refusal (.fault (.invalidEncoding 0 0)), .refusal (.fault (.invalidEncoding 0 1)),
      .refusal (.fault (.invalidEncoding 0 1)), .text [],
      .refusal (.fault (.unterminatedString 1 [Cursor.stringMark] 0)), .token ⟨.endOfInput, 1, []⟩,
      .refusal .terminated] := by
  decide +kernel

end Session

end ParenTokens
