import ParenTokens.Lexing.Session
import ParenTokens.Proofs.Scanning

namespace ParenTokens

/-!
# Several consumers of one scanner

Consumers share one scanner, and blanks may be skipped between their turns.  Whatever the order of the turns, the
tokens come out as they do for a single consumer.

* `Cursor.skipBlanks_skipBlanks`, `Cursor.scanToken_congr` — skipping blanks changes nothing that a scan sees.
* `Scanner.Account` — what became of a scanner while some tokens were given; `Scanner.Account.trans` adds two accounts.
* `Session.Call.isTurn` — the calls in question; `Session.history` pairs calls with their answers, `Session.delivered`
  and `Session.raised` are its tokens and faults, `Session.Ended` says that a consumer has had its last answer.
* `Session.turn_perform`, `Session.account_after` — one turn, and a whole history.
* `Session.Alike` — two sessions that answer all turns alike.
* `Session.history_agrees_with_given` — the tokens of any history against those of a fresh scanner.
-/

/-! ### Skipping blanks twice -/

namespace Cursor

/-- What was seen is seen again. -/
theorem peek_of_peek {r seen : Cursor} {a : Except Fault (Option CodePoint)} (h : r.peek = (a, seen)) :
    seen.peek = (a, seen) := by
  have hseen : seen = r.fill := by rw [← peek_snd, h]
  rw [hseen, peek_fill, h, hseen]

/-- Where a run has stopped, a further run stops at once and with the same answer. -/
theorem advanceWhile_advanceWhile (p : CodePoint → Bool) (r : Cursor) :
    (r.advanceWhile p).2.advanceWhile p = r.advanceWhile p := by
  fun_induction advanceWhile p r with
  | case1 r c seen hpeek hp ih => exact ih
  | case2 r c seen hpeek hp =>
    have hpeek' := peek_of_peek hpeek
    show seen.advanceWhile p = _
    rw [advanceWhile_of_peek_not_mem, hpeek']
    intro d hd
    rw [hpeek'] at hd
    obtain rfl : c = d := by simpa using hd
    simpa using hp
  | case3 r seen hpeek =>
    have hpeek' := peek_of_peek hpeek
    show seen.advanceWhile p = _
    rw [advanceWhile_of_peek_not_mem, hpeek']
    intro d hd
    rw [hpeek'] at hd
    cases hd
  | case4 r fault seen hpeek =>
    have hpeek' := peek_of_peek hpeek
    show seen.advanceWhile p = _
    rw [advanceWhile_of_peek_not_mem, hpeek']
    intro d hd
    rw [hpeek'] at hd
    cases hd

theorem skipBlanks_skipBlanks (r : Cursor) : r.skipBlanks.2.skipBlanks = r.skipBlanks :=
  advanceWhile_advanceWhile CodePoint.isBlank r

/-- A scan starts with skipping blanks and looks at nothing else. -/
theorem scanToken_congr {r r' : Cursor} (h : r.skipBlanks = r'.skipBlanks) : r.scanToken = r'.scanToken := by
  rw [scanToken, scanToken, h]

end Cursor

/-! ### Accounts of a scanner -/

namespace Scanner

theorem next_of_exhausted {s : Scanner} (h : s.exhausted = true) : s.next = (.error .terminated, s) := by
  rw [next, if_pos h]

theorem given_of_exhausted {s : Scanner} (h : s.exhausted = true) : s.given = [] :=
  (drain_of_next_error (next_of_exhausted h)).1

theorem next_congr {s s' : Scanner} (h : s.exhausted = false) (h' : s'.exhausted = false)
    (hskip : s.cursor.skipBlanks = s'.cursor.skipBlanks) : s.next = s'.next := by
  have hneg : ¬ s.exhausted = true := by simp [h]
  have hneg' : ¬ s'.exhausted = true := by simp [h']
  rw [next, next, if_neg hneg, if_neg hneg', Cursor.scanToken_congr hskip]

theorem exists_next_of_scanToken_error {s : Scanner} {e : Refusal} {r : Cursor} (hs : s.exhausted = false)
    (h : s.cursor.scanToken = (.error e, r)) : ∃ s', s.next = (.error e, s') := by
  have hneg : ¬ s.exhausted = true := by simp [hs]
  rw [next, if_neg hneg, h]
  cases e <;> exact ⟨_, rfl⟩

/-- What a scanner gives from here on depends on its next answer only. -/
theorem given_stop_congr {s s' : Scanner} (h : s.next = s'.next) : s.given = s'.given ∧ s.stop = s'.stop := by
  cases hnext : s'.next with
  | mk a r =>
    rw [hnext] at h
    cases a with
    | error e =>
      obtain ⟨hgiven, hstop⟩ := drain_of_next_error h
      obtain ⟨hgiven', hstop'⟩ := drain_of_next_error hnext
      exact ⟨hgiven.trans hgiven'.symm, hstop.trans hstop'.symm⟩
    | ok t =>
      by_cases ht : t.kind = .endOfInput
      · obtain ⟨hgiven, hstop⟩ := drain_of_next_end h ht
        obtain ⟨hgiven', hstop'⟩ := drain_of_next_end hnext ht
        exact ⟨hgiven.trans hgiven'.symm, hstop.trans hstop'.symm⟩
      · obtain ⟨hgiven, hstop⟩ := drain_of_next_token h ht
        obtain ⟨hgiven', hstop'⟩ := drain_of_next_token hnext ht
        exact ⟨hgiven.trans hgiven'.symm, hstop.trans hstop'.symm⟩

/-- A scanner that is not exhausted gives its end token in the end, or is stopped by a fault: all that it reads is
    text. -/
def Sound (s : Scanner) : Prop :=
  s.exhausted = false → ∀ e, s.stop = some e → ∃ f, e = .fault f

theorem sound_of_exhausted {s : Scanner} (h : s.exhausted = true) : s.Sound := by
  intro h'
  rw [h] at h'
  cases h'

theorem sound_ofBytes (data : Array UInt8) : (ofBytes data).Sound := by
  intro _ e he
  obtain ⟨l, z, rest, hreads⟩ := exists_reads data
  rw [hreads.stop_eq] at he
  obtain ⟨f, -, rfl⟩ := Option.map_eq_some_iff.1 he
  exact ⟨f, rfl⟩

/-- What a sound scanner answers: its next token, the fault that stops it, or that it is exhausted. -/
theorem next_cases {s s' : Scanner} {a : Except Refusal Token} (hs : s.Sound) (h : s.next = (a, s')) :
    (∃ t, s.exhausted = false ∧ a = .ok t ∧ t.kind ≠ .endOfInput ∧ s'.exhausted = false ∧ s.given = t :: s'.given ∧
      s.stop = s'.stop) ∨
    (∃ t, s.exhausted = false ∧ a = .ok t ∧ t.kind = .endOfInput ∧ s'.exhausted = true ∧ s.given = [t] ∧
      s.stop = none) ∨
    (∃ f, s.exhausted = false ∧ a = .error (.fault f) ∧ s'.exhausted = true ∧ s.given = [] ∧
      s.stop = some (.fault f)) ∨
    (s.exhausted = true ∧ a = .error .terminated ∧ s' = s) := by
  by_cases hex : s.exhausted = true
  · rw [next_of_exhausted hex] at h
    cases h
    exact .inr (.inr (.inr ⟨hex, rfl, rfl⟩))
  rw [Bool.not_eq_true] at hex
  cases hscan : s.cursor.scanToken with
  | mk b r =>
    cases b with
    | ok t =>
      have hnext := next_of_scanToken_ok hex hscan
      rw [hnext] at h
      cases h
      by_cases ht : t.kind = .endOfInput
      · obtain ⟨hgiven, hstop⟩ := drain_of_next_end hnext ht
        exact .inr (.inl ⟨t, hex, rfl, ht, beq_iff_eq.2 ht, hgiven, hstop⟩)
      · obtain ⟨hgiven, hstop⟩ := drain_of_next_token hnext ht
        exact .inl ⟨t, hex, rfl, ht, beq_eq_false_iff_ne.2 ht, hgiven, hstop⟩
    | error e =>
      -- Only a fault can stop a scanner that is sound.
      obtain ⟨_, herror⟩ := exists_next_of_scanToken_error hex hscan
      obtain ⟨hgiven, hstop⟩ := drain_of_next_error herror
      obtain ⟨f, rfl⟩ := hs hex e hstop
      rw [next_of_scanToken_fault hex hscan] at h
      cases h
      exact .inr (.inr (.inl ⟨f, hex, rfl, rfl, hgiven, hstop⟩))

/-- What became of a scanner `s`, now `s'`, while the tokens `ts` were given and the faults `fs` raised. -/
inductive Account (s : Scanner) (ts : List Token) (fs : List Fault) (s' : Scanner) : Prop
  /-- It goes on behind the tokens. -/
  | running (before : s.exhausted = false) (now : s'.exhausted = false) (given_eq : s.given = ts ++ s'.given)
      (stop_eq : s.stop = s'.stop) (faults : fs = []) (words : ∀ t ∈ ts, t.kind ≠ .endOfInput)
  /-- It has given its end token. -/
  | ended (before : s.exhausted = false) (now : s'.exhausted = true) (given_eq : s.given = ts) (stop_eq : s.stop = none)
      (faults : fs = []) (last : ∃ t ∈ ts, t.kind = .endOfInput)
  /-- It was stopped by a fault. -/
  | failed (f : Fault) (before : s.exhausted = false) (now : s'.exhausted = true) (given_eq : s.given = ts)
      (stop_eq : s.stop = some (.fault f)) (faults : fs = [f]) (words : ∀ t ∈ ts, t.kind ≠ .endOfInput)
  /-- It was exhausted all the time. -/
  | spent (before : s.exhausted = true) (now : s'.exhausted = true) (tokens : ts = []) (faults : fs = [])

namespace Account

variable {s s' s'' : Scanner} {ts us : List Token} {fs gs : List Fault}

theorem refl (s : Scanner) : Account s [] [] s := by
  cases h : s.exhausted with
  | false => exact .running h h rfl rfl rfl (by simp)
  | true => exact .spent h h rfl rfl

/-- Nothing comes from a scanner that is exhausted. -/
theorem of_exhausted (h : Account s ts fs s') (hs : s.exhausted = true) :
    s'.exhausted = true ∧ ts = [] ∧ fs = [] := by
  cases h with
  | running before => rw [hs] at before; cases before
  | ended before => rw [hs] at before; cases before
  | failed f before => rw [hs] at before; cases before
  | spent _ now tokens faults => exact ⟨now, tokens, faults⟩

/-- Two accounts one after the other. -/
theorem trans (h : Account s ts fs s') (h' : Account s' us gs s'') : Account s (ts ++ us) (fs ++ gs) s'' := by
  cases h with
  | running before now given_eq stop_eq faults words =>
    subst faults
    cases h' with
    | running before' now' given_eq' stop_eq' faults' words' =>
      refine .running before now' ?_ (stop_eq.trans stop_eq') faults' ?_
      · rw [given_eq, given_eq', List.append_assoc]
      · exact List.forall_mem_append.2 ⟨words, words'⟩
    | ended before' now' given_eq' stop_eq' faults' last =>
      obtain ⟨t, ht, hkind⟩ := last
      refine .ended before now' ?_ (stop_eq.trans stop_eq') faults' ?_
      · rw [given_eq, given_eq']
      · exact ⟨t, List.mem_append_right _ ht, hkind⟩
    | failed f before' now' given_eq' stop_eq' faults' words' =>
      refine .failed f before now' ?_ (stop_eq.trans stop_eq') faults' ?_
      · rw [given_eq, given_eq']
      · exact List.forall_mem_append.2 ⟨words, words'⟩
    | spent before' _ _ _ =>
      rw [now] at before'
      cases before'
  | ended before now given_eq stop_eq faults last =>
    obtain ⟨now', rfl, rfl⟩ := h'.of_exhausted now
    rw [List.append_nil, List.append_nil]
    exact .ended before now' given_eq stop_eq faults last
  | failed f before now given_eq stop_eq faults words =>
    obtain ⟨now', rfl, rfl⟩ := h'.of_exhausted now
    rw [List.append_nil, List.append_nil]
    exact .failed f before now' given_eq stop_eq faults words
  | spent before now tokens faults =>
    obtain ⟨now', rfl, rfl⟩ := h'.of_exhausted now
    exact .spent before now' (by rw [tokens]; rfl) (by rw [faults]; rfl)
/-- What is still to come is sound if all was. -/
theorem sound (h : Account s ts fs s') (hs : s.Sound) : s'.Sound := by
  cases h with
  | running before now given_eq stop_eq faults words =>
    intro _ e he
    exact hs before e (stop_eq.trans he)
  | ended before now given_eq stop_eq faults last => exact sound_of_exhausted now
  | failed f before now given_eq stop_eq faults words => exact sound_of_exhausted now
  | spent before now tokens faults => exact sound_of_exhausted now

end Account

end Scanner

namespace Session

/-! ### Histories -/

/-- The calls that take at most one token: the scanner is asked for one, itself or by a consumer, a consumer is made,
    or blanks are skipped. -/
def Call.isTurn : Call → Bool
  | next | consumer | advance _ | skipBlanks => true
  | drain | readIdentifier | readString => false

/-- The calls among them that ask for a token. -/
def Call.asks : Call → Bool
  | next | advance _ => true
  | consumer | skipBlanks | drain | readIdentifier | readString => false

/-- The answer that a scanner's result becomes. -/
def Answer.ofResult : Except Refusal Token → Answer
  | .ok t => token t
  | .error e => refusal e

/-- The answer that what stands behind the blanks becomes. -/
def Answer.ofSeen : Except Fault (Option CodePoint) → Answer
  | .ok c => codePoint c
  | .error f => refusal (.fault f)

def Answer.token? : Answer → Option Token
  | token t => some t
  | _ => none

def Answer.fault? : Answer → Option Fault
  | refusal (.fault f) => some f
  | _ => none

/-- The session that some calls leave behind. -/
def after (s : Session) : List Call → Session
  | [] => s
  | call :: calls => (s.perform call).2.after calls

/-- Calls made one after another, each with its answer. -/
def history (s : Session) (calls : List Call) : List (Call × Answer) :=
  calls.zip ((s.trace calls).map Prod.fst)

/-- The tokens of a history, whoever they went to. -/
def delivered (h : List (Call × Answer)) : List Token := h.filterMap fun x => x.2.token?

/-- The faults that met a call for a token. -/
def raised (h : List (Call × Answer)) : List Fault := h.filterMap fun x => if x.1.asks then x.2.fault? else none

/-- A consumer has been given the end token or been refused. -/
def Ended (h : List (Call × Answer)) (consumer : Nat) : Prop :=
  (∃ t, (.advance consumer, .token t) ∈ h ∧ t.kind = .endOfInput) ∨
    ∃ e, (.advance consumer, .refusal e) ∈ h ∧ e ≠ .finished

theorem history_cons (s : Session) (call : Call) (calls : List Call) :
    s.history (call :: calls) = (call, (s.perform call).1) :: (s.perform call).2.history calls := rfl

theorem delivered_cons (x : Call × Answer) (h : List (Call × Answer)) :
    delivered (x :: h) = x.2.token?.toList ++ delivered h := by
  cases hx : x.2.token? <;> simp [delivered, hx]

theorem raised_cons (x : Call × Answer) (h : List (Call × Answer)) :
    raised (x :: h) = (if x.1.asks then x.2.fault?.toList else []) ++ raised h := by
  cases hask : x.1.asks <;> cases hx : x.2.fault? <;> simp [raised, hask, hx]

/-! ### One turn -/

/-- Whether a result is the last that a consumer gets. -/
def isLast : Except Refusal Token → Bool
  | .ok t => t.kind == .endOfInput
  | .error _ => true

theorem perform_next (s : Session) :
    s.perform .next = (.ofResult s.scanner.next.1, { s with scanner := s.scanner.next.2 }) := by
  rw [perform]
  obtain ⟨a, scanner⟩ := s.scanner.next
  cases a <;> rfl

/-- The consumer has had its last answer, or was never made. -/
theorem perform_advance_of_finished {s : Session} {k : Nat} (h : s.finished.getD k true = true) :
    s.perform (.advance k) = (.refusal .finished, s) := by
  rw [perform, Session.advance, if_pos h]

theorem perform_advance_of_live {s : Session} {k : Nat} (h : s.finished.getD k true = false) :
    s.perform (.advance k) = (.ofResult s.scanner.next.1,
      ⟨s.scanner.next.2, s.finished.setIfInBounds k (isLast s.scanner.next.1)⟩) := by
  have hneg : ¬ s.finished.getD k true = true := by rw [h]; decide
  rw [perform, Session.advance, if_neg hneg]
  obtain ⟨a, scanner⟩ := s.scanner.next
  cases a <;> rfl

theorem perform_skipBlanks (s : Session) :
    s.perform .skipBlanks =
      (.ofSeen s.scanner.cursor.skipBlanks.1, s.withCursor s.scanner.cursor.skipBlanks.2) := by
  rw [perform]
  obtain ⟨a, r⟩ := s.scanner.cursor.skipBlanks
  cases a <;> rfl

/-- What a call can do that takes at most one token. -/
inductive Turn (s : Session) : Call → Answer → Session → Prop
  | next : Turn s .next (.ofResult s.scanner.next.1) { s with scanner := s.scanner.next.2 }
  | consumer : Turn s .consumer (.consumer s.finished.size) { s with finished := s.finished.push false }
  | refused (k : Nat) (h : s.finished.getD k true = true) : Turn s (.advance k) (.refusal .finished) s
  | advance (k : Nat) (h : s.finished.getD k true = false) : Turn s (.advance k) (.ofResult s.scanner.next.1)
      ⟨s.scanner.next.2, s.finished.setIfInBounds k (isLast s.scanner.next.1)⟩
  | skipBlanks : Turn s .skipBlanks (.ofSeen s.scanner.cursor.skipBlanks.1)
      (s.withCursor s.scanner.cursor.skipBlanks.2)

theorem turn_perform (s : Session) {call : Call} (hturn : call.isTurn = true) :
    Turn s call (s.perform call).1 (s.perform call).2 := by
  cases call with
  | next =>
    rw [perform_next]
    exact .next
  | consumer => exact .consumer
  | advance k =>
    cases hk : s.finished.getD k true with
    | true =>
      rw [perform_advance_of_finished hk]
      exact .refused k hk
    | false =>
      rw [perform_advance_of_live hk]
      exact .advance k hk
  | skipBlanks =>
    rw [perform_skipBlanks]
    exact .skipBlanks
  | drain => cases hturn
  | readIdentifier => cases hturn
  | readString => cases hturn

theorem token?_ofSeen (a : Except Fault (Option CodePoint)) : (Answer.ofSeen a).token? = none := by
  cases a <;> rfl

/-- A call for a token gives the next token or raises the fault that stops the scanner; an exhausted one refuses. -/
theorem account_next {s : Scanner} (hs : s.Sound) :
    s.Account (Answer.ofResult s.next.1).token?.toList (Answer.ofResult s.next.1).fault?.toList s.next.2 := by
  cases hnext : s.next with
  | mk a s' =>
    rcases Scanner.next_cases hs hnext with ⟨t, hex, rfl, ht, hex', hgiven, hstop⟩ |
      ⟨t, hex, rfl, ht, hex', hgiven, hstop⟩ | ⟨f, hex, rfl, hex', hgiven, hstop⟩ | ⟨hex, rfl, rfl⟩
    · refine .running hex hex' hgiven hstop rfl ?_
      intro u hu
      obtain rfl : u = t := by simpa [Answer.ofResult, Answer.token?] using hu
      exact ht
    · exact .ended hex hex' hgiven hstop rfl ⟨t, by simp [Answer.ofResult, Answer.token?], ht⟩
    · exact .failed f hex hex' hgiven hstop rfl (by simp [Answer.ofResult, Answer.token?])
    · exact .spent hex hex rfl rfl

/-- Skipping blanks gives nothing away. -/
theorem account_skipBlanks (s : Scanner) : s.Account [] [] { s with cursor := s.cursor.skipBlanks.2 } := by
  by_cases hex : s.exhausted = true
  · exact .spent hex hex rfl rfl
  rw [Bool.not_eq_true] at hex
  have hskip := Cursor.skipBlanks_skipBlanks s.cursor
  have hnext : Scanner.next { s with cursor := s.cursor.skipBlanks.2 } = s.next := Scanner.next_congr hex hex hskip
  obtain ⟨hgiven, hstop⟩ := Scanner.given_stop_congr hnext
  exact .running hex hex hgiven.symm hstop.symm rfl (by simp)

/-- The last answer to a consumer leaves the scanner exhausted. -/
theorem exhausted_of_isLast {s : Scanner} (hs : s.Sound) (h : isLast s.next.1 = true) : s.next.2.exhausted = true := by
  cases hnext : s.next with
  | mk a s' =>
    rw [hnext] at h
    rcases Scanner.next_cases hs hnext with ⟨t, -, rfl, ht, -⟩ | ⟨t, -, rfl, -, hex', -⟩ | ⟨f, -, rfl, hex', -⟩ |
      ⟨hex, rfl, rfl⟩
    · exact absurd (beq_iff_eq.1 h) ht
    · exact hex'
    · exact hex'
    · exact hex

/-- The last answer to a consumer is the end token or a refusal. -/
theorem ended_singleton_iff {s : Scanner} (hs : s.Sound) (k : Nat) :
    Ended [(.advance k, .ofResult s.next.1)] k ↔ isLast s.next.1 = true := by
  cases hnext : s.next with
  | mk a s' =>
    rcases Scanner.next_cases hs hnext with ⟨t, -, rfl, -⟩ | ⟨t, -, rfl, -⟩ | ⟨f, -, rfl, -⟩ | ⟨-, rfl, -⟩
    · simp [Ended, Answer.ofResult, isLast]
    · simp [Ended, Answer.ofResult, isLast]
    · simp [Ended, Answer.ofResult, isLast]
    · simp [Ended, Answer.ofResult, isLast]

theorem call_eq_of_ended {call : Call} {a : Answer} {k : Nat} (h : Ended [(call, a)] k) : call = .advance k := by
  rcases h with ⟨t, ht, -⟩ | ⟨e, he, -⟩
  · rw [List.mem_singleton, Prod.mk.injEq] at ht
    exact ht.1.symm
  · rw [List.mem_singleton, Prod.mk.injEq] at he
    exact he.1.symm

/-- The scanner is sound, and a consumer is finished only when the scanner is exhausted. -/
structure Sound (s : Session) : Prop where
  scanner : s.scanner.Sound
  finished : ∀ k, s.finished.getD k false = true → s.scanner.exhausted = true

theorem sound_ofBytes (data : Array UInt8) : (ofBytes data).Sound :=
  ⟨Scanner.sound_ofBytes data, by simp [ofBytes]⟩

namespace Turn

variable {s s' : Session} {call : Call} {a : Answer}

/-- **One turn.** What a turn delivers and raises is what the scanner gives. -/
theorem account (h : Turn s call a s') (hs : s.Sound) :
    s.scanner.Account a.token?.toList (if call.asks then a.fault?.toList else []) s'.scanner := by
  cases h with
  | next => exact account_next hs.scanner
  | consumer => exact .refl s.scanner
  | refused k hk => exact .refl s.scanner
  | advance k hk => exact account_next hs.scanner
  | skipBlanks =>
    rw [token?_ofSeen]
    exact account_skipBlanks s.scanner

theorem size_finished (h : Turn s call a s') : s'.finished.size = s.finished.size + [call].count .consumer := by
  cases h with
  | next => rfl
  | consumer => exact Array.size_push false
  | refused k hk => rfl
  | advance k hk => exact Array.size_setIfInBounds
  | skipBlanks => rfl

/-- A turn finishes only the consumer whose last answer it gives. -/
theorem finished_iff (h : Turn s call a s') (hs : s.Sound) (k : Nat) :
    s'.finished.getD k false = true ↔ s.finished.getD k false = true ∨ Ended [(call, a)] k := by
  cases h with
  | next => simp [Ended]
  | consumer =>
    have hpush : (s.finished.push false).getD k false = s.finished.getD k false := by
      rw [Array.getD_eq_getD_getElem?, Array.getD_eq_getD_getElem?, Array.getElem?_push]
      split
      · next hk => simp [hk]
      · rfl
    simp [Ended, hpush]
  | refused j hj => simp [Ended]
  | advance j hj =>
    by_cases hjk : j = k
    · subst hjk
      -- A consumer that is not refused was made before and is not finished.
      have hlt : j < s.finished.size := by
        by_contra hge
        simp [hge] at hj
      have hlive : s.finished.getD j false = false := by simpa [hlt] using hj
      rw [ended_singleton_iff hs.scanner, hlive]
      simp [hlt]
    · have hset : ∀ b, (s.finished.setIfInBounds j b).getD k false = s.finished.getD k false := by
        intro b
        rw [Array.getD_eq_getD_getElem?, Array.getD_eq_getD_getElem?, Array.getElem?_setIfInBounds_ne hjk]
      simp [Ended, hset, Ne.symm hjk]
  | skipBlanks => simp [Ended, withCursor]

theorem sound (h : Turn s call a s') (hs : s.Sound) : s'.Sound := by
  have haccount := h.account hs
  refine ⟨haccount.sound hs.scanner, fun k hk => ?_⟩
  rcases (h.finished_iff hs k).1 hk with hbefore | hended
  · exact (haccount.of_exhausted (hs.finished k hbefore)).1
  · obtain rfl := call_eq_of_ended hended
    cases h with
    | refused _ hlast => simp [Ended] at hended
    | advance _ hlive => exact exhausted_of_isLast hs.scanner ((ended_singleton_iff hs.scanner k).1 hended)

end Turn

/-! ### A whole history -/

theorem sound_after {s : Session} (hs : s.Sound) {calls : List Call} (hturns : ∀ call ∈ calls, call.isTurn = true) :
    (s.after calls).Sound := by
  induction calls generalizing s with
  | nil => exact hs
  | cons call calls ih =>
    have hturn := (turn_perform s (hturns call (by simp))).sound hs
    exact ih hturn fun c hc => hturns c (by simp [hc])

/-- **A history.** What the calls deliver and raise in all is what the scanner gives. -/
theorem account_after {s : Session} (hs : s.Sound) {calls : List Call}
    (hturns : ∀ call ∈ calls, call.isTurn = true) :
    s.scanner.Account (delivered (s.history calls)) (raised (s.history calls)) (s.after calls).scanner := by
  -- On the calls; the session stays sound, so that each turn has its account.
  induction calls generalizing s with
  | nil => exact .refl s.scanner
  | cons call calls ih =>
    have hturn := turn_perform s (hturns call (by simp))
    have hmore := ih (hturn.sound hs) fun c hc => hturns c (by simp [hc])
    rw [history_cons, delivered_cons, raised_cons]
    exact (hturn.account hs).trans hmore

/-- There are as many consumers as were made. -/
theorem size_finished_after {s : Session} {calls : List Call} (hturns : ∀ call ∈ calls, call.isTurn = true) :
    (s.after calls).finished.size = s.finished.size + calls.count .consumer := by
  induction calls generalizing s with
  | nil => rfl
  | cons call calls ih =>
    have hturn := (turn_perform s (hturns call (by simp))).size_finished
    have hmore := ih (s := (s.perform call).2) fun c hc => hturns c (by simp [hc])
    have hcount : (call :: calls).count .consumer = [call].count .consumer + calls.count .consumer := by
      rw [← List.count_append]
      rfl
    rw [after, hmore, hturn, hcount, Nat.add_assoc]

theorem ended_cons (x : Call × Answer) (h : List (Call × Answer)) (k : Nat) :
    Ended (x :: h) k ↔ Ended [x] k ∨ Ended h k := by
  simp only [Ended, List.mem_cons, List.not_mem_nil, or_false]
  grind

/-- The consumers that are finished are those that have had their last answer. -/
theorem finished_after_iff {s : Session} (hs : s.Sound) {calls : List Call}
    (hturns : ∀ call ∈ calls, call.isTurn = true) (k : Nat) :
    (s.after calls).finished.getD k false = true ↔
      s.finished.getD k false = true ∨ Ended (s.history calls) k := by
  induction calls generalizing s with
  | nil => simp [after, history, Ended]
  | cons call calls ih =>
    have hturn := turn_perform s (hturns call (by simp))
    have hmore := ih (hturn.sound hs) fun c hc => hturns c (by simp [hc])
    rw [after, hmore, hturn.finished_iff hs, history_cons,
      ended_cons _ (Session.history _ calls), or_assoc]

/-! ### Sessions that answer alike -/

/-- The two sessions differ at most by the blanks that were skipped. -/
structure Alike (s s' : Session) : Prop where
  finished_eq : s.finished = s'.finished
  exhausted_eq : s.scanner.exhausted = s'.scanner.exhausted
  skip_eq : s.scanner.cursor.skipBlanks = s'.scanner.cursor.skipBlanks

/-- The answers to some calls, each with whether the scanner is exhausted then. -/
def outcomes (s : Session) (calls : List Call) : List (Answer × Bool) :=
  (s.trace calls).map fun x => (x.1, x.2.scanner.exhausted)

theorem alike_skipBlanks (s : Session) : Alike (s.perform .skipBlanks).2 s := by
  rw [perform_skipBlanks]
  exact ⟨rfl, rfl, Cursor.skipBlanks_skipBlanks s.scanner.cursor⟩

/-- Their scanners give the same and stay alike. -/
theorem Alike.next {s s' : Session} (h : Alike s s') :
    s.scanner.next.1 = s'.scanner.next.1 ∧ s.scanner.next.2.exhausted = s'.scanner.next.2.exhausted ∧
      s.scanner.next.2.cursor.skipBlanks = s'.scanner.next.2.cursor.skipBlanks := by
  by_cases hex : s'.scanner.exhausted = true
  · have hex' := h.exhausted_eq.trans hex
    rw [Scanner.next_of_exhausted hex, Scanner.next_of_exhausted hex']
    exact ⟨rfl, h.exhausted_eq, h.skip_eq⟩
  · rw [Bool.not_eq_true] at hex
    have hex' := h.exhausted_eq.trans hex
    rw [Scanner.next_congr hex' hex h.skip_eq]
    exact ⟨rfl, rfl, rfl⟩

theorem Alike.perform {s s' : Session} (h : Alike s s') {call : Call} (hturn : call.isTurn = true) :
    (s.perform call).1 = (s'.perform call).1 ∧ Alike (s.perform call).2 (s'.perform call).2 := by
  obtain ⟨hanswer, hexhausted, hskip⟩ := h.next
  cases call with
  | next =>
    rw [perform_next, perform_next]
    exact ⟨congrArg Answer.ofResult hanswer, h.finished_eq, hexhausted, hskip⟩
  | consumer =>
    have hsize : s.finished.size = s'.finished.size := congrArg Array.size h.finished_eq
    have hpush : s.finished.push false = s'.finished.push false := congrArg (Array.push · false) h.finished_eq
    exact ⟨congrArg Answer.consumer hsize, hpush, h.exhausted_eq, h.skip_eq⟩
  | advance k =>
    cases hk : s'.finished.getD k true with
    | true =>
      have hk' : s.finished.getD k true = true := by rw [h.finished_eq, hk]
      rw [perform_advance_of_finished hk, perform_advance_of_finished hk']
      exact ⟨rfl, h⟩
    | false =>
      have hk' : s.finished.getD k true = false := by rw [h.finished_eq, hk]
      rw [perform_advance_of_live hk, perform_advance_of_live hk']
      exact ⟨congrArg Answer.ofResult hanswer, by rw [h.finished_eq, hanswer], hexhausted, hskip⟩
  | skipBlanks =>
    rw [perform_skipBlanks, perform_skipBlanks, h.skip_eq]
    exact ⟨rfl, h.finished_eq, h.exhausted_eq, rfl⟩
  | drain => cases hturn
  | readIdentifier => cases hturn
  | readString => cases hturn

theorem Alike.outcomes {s s' : Session} (h : Alike s s') {calls : List Call}
    (hturns : ∀ call ∈ calls, call.isTurn = true) : s.outcomes calls = s'.outcomes calls := by
  induction calls generalizing s s' with
  | nil => rfl
  | cons call calls ih =>
    obtain ⟨hanswer, halike⟩ := h.perform (hturns call (by simp))
    have hmore := ih halike fun c hc => hturns c (by simp [hc])
    have hcons : ∀ s : Session, s.outcomes (call :: calls) =
        ((s.perform call).1, (s.perform call).2.scanner.exhausted) :: (s.perform call).2.outcomes calls :=
      fun _ => rfl
    rw [hcons, hcons, hanswer, halike.exhausted_eq, hmore]

/-! ### The tokens of a session -/

/-- What a call for a token is answered: by a scanner that is not exhausted, the next token or the fault that stops
    it. -/
theorem answer_of_running {s : Session} (hs : s.Sound) (hex : s.scanner.exhausted = false) {call : Call}
    (hcall : call = .next ∨ ∃ k < s.finished.size, call = .advance k) :
    (∃ t, s.scanner.given.head? = some t ∧ (s.perform call).1 = .token t) ∨
      ∃ f, s.scanner.given = [] ∧ s.scanner.stop = some (.fault f) ∧ (s.perform call).1 = .refusal (.fault f) := by
  have hanswer : (s.perform call).1 = .ofResult s.scanner.next.1 := by
    rcases hcall with rfl | ⟨k, hk, rfl⟩
    · rw [perform_next]
    · have hlive : s.finished.getD k true = false := by
        by_contra hlast
        have hfinished : s.finished.getD k false = true := by simpa [hk] using hlast
        rw [hs.finished k hfinished] at hex
        cases hex
      rw [perform_advance_of_live hlive]
  rw [hanswer]
  cases hnext : s.scanner.next with
  | mk a s' =>
    rcases Scanner.next_cases hs.scanner hnext with ⟨t, -, rfl, -, -, hgiven, -⟩ | ⟨t, -, rfl, -, -, hgiven, -⟩ |
      ⟨f, -, rfl, -, hgiven, hstop⟩ | ⟨hex', -⟩
    · exact .inl ⟨t, by rw [hgiven]; rfl, rfl⟩
    · exact .inl ⟨t, by rw [hgiven]; rfl, rfl⟩
    · exact .inr ⟨f, hgiven, hstop, rfl⟩
    · rw [hex] at hex'
      cases hex'

/-- A scanner that is asked directly, and by nobody else, delivers what it gives. -/
theorem delivered_next_alone {s : Session} (hs : s.Sound) (n : Nat) :
    delivered (s.history (List.replicate n .next)) = s.scanner.given.take n := by
  induction n generalizing s with
  | zero => rfl
  | succ n ih =>
    have hmore := ih ((turn_perform s (rfl : Call.isTurn .next = true)).sound hs)
    rw [List.replicate_succ, history_cons, delivered_cons, hmore, perform_next]
    cases hnext : s.scanner.next with
    | mk a s' =>
      rcases Scanner.next_cases hs.scanner hnext with ⟨t, -, rfl, -, -, hgiven, -⟩ |
        ⟨t, -, rfl, -, hex', hgiven, -⟩ | ⟨f, -, rfl, hex', hgiven, -⟩ | ⟨hex, rfl, rfl⟩
      · rw [hgiven, List.take_succ_cons]
        rfl
      · rw [hgiven, Scanner.given_of_exhausted hex', List.take_succ_cons, List.take_nil]
        rfl
      · rw [hgiven, Scanner.given_of_exhausted hex', List.take_nil, List.take_nil]
        rfl
      · rw [Scanner.given_of_exhausted hex, List.take_nil, List.take_nil]
        rfl

/-- A consumer is refused as finished iff it has had its last answer before. -/
theorem advance_eq_finished_iff {s : Session} (hs : s.Sound) {k : Nat} (hk : k < s.finished.size) :
    (s.perform (.advance k)).1 = .refusal .finished ↔ s.finished.getD k false = true := by
  cases hlast : s.finished.getD k true with
  | true =>
    rw [perform_advance_of_finished hlast]
    simpa [hk] using hlast
  | false =>
    rw [perform_advance_of_live hlast]
    have hlive : s.finished.getD k false = false := by simpa [hk] using hlast
    rw [hlive]
    cases hnext : s.scanner.next with
    | mk a s' =>
      rcases Scanner.next_cases hs.scanner hnext with ⟨t, -, rfl, -⟩ | ⟨t, -, rfl, -⟩ | ⟨f, -, rfl, -⟩ | ⟨-, rfl, -⟩
      · simp [Answer.ofResult]
      · simp [Answer.ofResult]
      · simp [Answer.ofResult]
      · simp [Answer.ofResult]

/-- An exhausted scanner refuses every call for a token. -/
theorem answer_of_exhausted {s : Session} (hex : s.scanner.exhausted = true) :
    (s.perform .next).1 = .refusal .terminated ∧
      ∀ k, (s.perform (.advance k)).1 = .refusal .terminated ∨ (s.perform (.advance k)).1 = .refusal .finished := by
  have hnext := Scanner.next_of_exhausted hex
  constructor
  · rw [perform_next, hnext]
    rfl
  · intro k
    cases hk : s.finished.getD k true with
    | true =>
      rw [perform_advance_of_finished hk]
      exact .inr rfl
    | false =>
      rw [perform_advance_of_live hk, hnext]
      exact .inl rfl

/-- **Interleaved consumers.** Let any calls be made that take at most one token each.  The tokens delivered so far are
    the first of those that a fresh scanner gives when it alone is asked.  At most one call for a token meets a fault;
    it is the one that stops the fresh scanner, and all tokens before it were delivered.  The scanner is exhausted iff
    the end token was delivered or a fault met.  Until then whoever asks is given the next token or the fault; after
    that everybody is refused, a consumer that has had its last answer in other words than the rest.  Skipping blanks,
    whether or not that meets a fault, makes no difference to any later answer. -/
theorem history_agrees_with_given (data : Array UInt8) (calls : List Call)
    (hturns : ∀ call ∈ calls, call.isTurn = true) :
    let fresh := Scanner.ofBytes data
    let h := (ofBytes data).history calls
    let s := (ofBytes data).after calls
    (∀ n, delivered ((ofBytes data).history (List.replicate n .next)) = fresh.given.take n) ∧
      delivered h <+: fresh.given ∧
      (raised h = [] ∨ ∃ f, fresh.stop = some (.fault f) ∧ raised h = [f] ∧ delivered h = fresh.given) ∧
      (s.scanner.exhausted = true ↔ (∃ t ∈ delivered h, t.kind = .endOfInput) ∨ raised h ≠ []) ∧
      (s.scanner.exhausted = false → ∀ call, (call = .next ∨ ∃ k < calls.count .consumer, call = .advance k) →
        (∃ t, fresh.given[(delivered h).length]? = some t ∧ (s.perform call).1 = .token t) ∨
          ∃ f, delivered h = fresh.given ∧ fresh.stop = some (.fault f) ∧
            (s.perform call).1 = .refusal (.fault f)) ∧
      (s.scanner.exhausted = true → (s.perform .next).1 = .refusal .terminated ∧
        ∀ k, (s.perform (.advance k)).1 = .refusal .terminated ∨ (s.perform (.advance k)).1 = .refusal .finished) ∧
      (∀ k < calls.count .consumer, (s.perform (.advance k)).1 = .refusal .finished ↔ Ended h k) ∧
      (s.perform .skipBlanks).2.scanner.exhausted = s.scanner.exhausted ∧
      ∀ later : List Call, (∀ call ∈ later, call.isTurn = true) →
        (s.perform .skipBlanks).2.outcomes later = s.outcomes later := by
  intro fresh h s
  have hstart := sound_ofBytes data
  have hs : s.Sound := sound_after hstart hturns
  have haccount : fresh.Account (delivered h) (raised h) s.scanner := account_after hstart hturns
  have hsize : s.finished.size = calls.count .consumer := by
    have hafter : s.finished.size = 0 + calls.count .consumer := size_finished_after hturns
    rw [hafter, Nat.zero_add]
  have halike := alike_skipBlanks s
  refine ⟨delivered_next_alone hstart, ?_, ?_, ?_, ?_, answer_of_exhausted, ?_, halike.exhausted_eq,
    fun later hlater => halike.outcomes hlater⟩
  · cases haccount with
    | running before now given_eq => exact ⟨s.scanner.given, given_eq.symm⟩
    | ended before now given_eq => exact given_eq ▸ List.prefix_refl _
    | failed f before now given_eq => exact given_eq ▸ List.prefix_refl _
    | spent before => cases before
  · cases haccount with
    | running before now given_eq stop_eq faults => exact .inl faults
    | ended before now given_eq stop_eq faults => exact .inl faults
    | failed f before now given_eq stop_eq faults => exact .inr ⟨f, stop_eq, faults, given_eq.symm⟩
    | spent before => cases before
  · cases haccount with
    | running before now given_eq stop_eq faults words =>
      rw [now, faults]
      refine ⟨nofun, ?_⟩
      rintro (⟨t, ht, hkind⟩ | hne)
      · exact absurd hkind (words t ht)
      · exact absurd rfl hne
    | ended before now given_eq stop_eq faults last => exact ⟨fun _ => .inl last, fun _ => now⟩
    | failed f before now given_eq stop_eq faults => exact ⟨fun _ => .inr (by rw [faults]; nofun), fun _ => now⟩
    | spent before => cases before
  · intro hex call hcall
    rw [← hsize] at hcall
    cases haccount with
    | running before now given_eq stop_eq faults words =>
      rcases answer_of_running hs hex hcall with ⟨t, hhead, hanswer⟩ | ⟨f, hnil, hstop, hanswer⟩
      · refine .inl ⟨t, ?_, hanswer⟩
        rw [given_eq, List.getElem?_append_right (Nat.le_refl _), Nat.sub_self, ← List.head?_eq_getElem?, hhead]
      · exact .inr ⟨f, by rw [given_eq, hnil, List.append_nil], stop_eq.trans hstop, hanswer⟩
    | ended before now => rw [hex] at now; cases now
    | failed f before now => rw [hex] at now; cases now
    | spent before => cases before
  · intro k hk
    rw [← hsize] at hk
    rw [advance_eq_finished_iff hs hk, finished_after_iff hstart hturns]
    simp [ofBytes, h]

/-- Two consumers, made before and after the fault; skipping blanks meets it first. -/
theorem history_agrees_with_given_undecodable :
    let data : Array UInt8 := #[0x28, 0x29, 0x20, 0xFF]
    let calls : List Call :=
      [.consumer, .next, .advance 0, .skipBlanks, .advance 0, .next, .advance 0, .consumer, .advance 1]
    let f : Fault := .invalidEncoding 3 3
    (∀ call ∈ calls, call.isTurn = true) ∧
      (ofBytes data).history calls = calls.zip
        [.consumer 0, .token ⟨.leftParen, 0, []⟩, .token ⟨.rightParen, 1, []⟩, .refusal (.fault f),
          .refusal (.fault f), .refusal .terminated, .refusal .finished, .consumer 1, .refusal .terminated] ∧
      (Scanner.ofBytes data).stop = some (.fault f) ∧
      delivered ((ofBytes data).history calls) = (Scanner.ofBytes data).given := by
  intro data calls f
  have hturns : ∀ call ∈ calls, call.isTurn = true := by decide
  have hhistory : (ofBytes data).history calls = calls.zip
      [.consumer 0, .token ⟨.leftParen, 0, []⟩, .token ⟨.rightParen, 1, []⟩, .refusal (.fault f),
        .refusal (.fault f), .refusal .terminated, .refusal .finished, .consumer 1, .refusal .terminated] := by
    decide +kernel
  have hraised : raised ((ofBytes data).history calls) = [f] := by
    rw [hhistory]
    decide
  obtain ⟨-, -, hfault, -⟩ := history_agrees_with_given data calls hturns
  rcases hfault with hnone | ⟨f', hstop, hf', hall⟩
  · rw [hraised] at hnone
    cases hnone
  · rw [hraised] at hf'
    obtain rfl : f = f' := by simpa using hf'
    exact ⟨hturns, hhistory, hstop, hall⟩

end Session

end ParenTokens
