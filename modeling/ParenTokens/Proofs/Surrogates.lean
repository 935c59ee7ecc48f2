import ParenTokens.Proofs.Lookahead
import ParenTokens.Proofs.Resuming
import ParenTokens.Proofs.Scanning

namespace ParenTokens

/-!
# Texts with surrogates

A text may hold surrogates, alone or side by side.  Each of them is written as three bytes that no scalar's encoding
begins with, and it is read as three refusals; a high surrogate and a low one behind it are not put together.

* `Utf8.utf8_of_isSurrogate` — the bytes of a surrogate; `Utf8.undecodable_surrogate` — no scalar begins at any of them.
* `Cursor.repliesAt`, `Cursor.repliesFrom` — what the calls of `read` answer that pass over a code point, or a text.
* `Cursor.Between` — a cursor between two parts of a text; `Between.trace_codePoint` goes over one code point, and
  `Between.trace_text` over all that are left.
* `Residue.fault_eq_invalidEncoding` — where a scanner is stopped by bytes.
* `Cursor.trace_read_ofText` — a fresh cursor on a text, and its scanner.
-/

/-! ### The bytes of a surrogate -/

namespace Utf8

/-- A surrogate has three bytes, the first two of which begin no scalar. -/
theorem utf8_of_isSurrogate {c : CodePoint} (hc : c.isSurrogate = true) :
    ∃ lead b b', c.utf8 = [lead, b, b'] ∧ lead.toNat = 0xED ∧ 0xA0 ≤ b.toNat ∧ isContinuation b = true ∧
      isContinuation b' = true := by
  simp only [CodePoint.isSurrogate, Bool.and_eq_true, decide_eq_true_eq] at hc
  refine ⟨_, _, _, by rw [CodePoint.utf8, if_neg (by omega), if_neg (by omega), if_pos (by omega)], ?_, ?_,
    isContinuation_toUInt8 _, isContinuation_toUInt8 _⟩
  · rw [toNat_toUInt8 (by omega)]
    omega
  · rw [toNat_toUInt8 (by omega)]
    omega

/-- No scalar begins at any byte of a surrogate, whatever follows. -/
theorem undecodable_surrogate {c : CodePoint} (hc : c.isSurrogate = true) (rest : List UInt8) :
    ∃ lead b b', c.utf8 = [lead, b, b'] ∧ Undecodable (lead :: b :: b' :: rest) ∧ Undecodable (b :: b' :: rest) ∧
      Undecodable (b' :: rest) := by
  obtain ⟨lead, b, b', heq, hlead, hb, hcont, hcont'⟩ := utf8_of_isSurrogate hc
  have hlen : sequenceLength lead = 3 := by
    rw [sequenceLength_eq, if_neg (by omega), if_neg (by omega), if_neg (by omega), if_pos (by omega)]
  have hsecond : maySecond lead b = false := by
    rw [Bool.eq_false_iff, ne_eq, maySecond_iff]
    omega
  have hstep : step lead (b :: b' :: rest) = .malformed 1 .invalidContinuation := by simp [step, hlen, hsecond]
  exact ⟨lead, b, b', heq, undecodable_of_step hstep, undecodable_of_isContinuation hcont _,
    undecodable_of_isContinuation hcont' _⟩

end Utf8

/-! ### Reading over a text -/

namespace Cursor

/-- What the calls of `read` answer that pass over `c` behind the text `before`: the code point in one call, or three
    refusals for the bytes of a surrogate.  Refusals name the place, and surrogates are not counted in it. -/
def repliesAt (before : Text) (c : CodePoint) : List Answer :=
  if c.isSurrogate then
    (List.range 3).map fun i => .fault (.invalidEncoding (before.countP CodePoint.isScalar : Nat)
      (before.utf8.length + i : Nat))
  else [.codePoint (some c)]

/-- What the calls of `read` answer that pass over a text behind the text `before`. -/
def repliesFrom (before : Text) : Text → List Answer
  | [] => []
  | c :: t => repliesAt before c ++ repliesFrom (before ++ [c]) t

/-- The cursor stands in the bytes of a text, behind `before` and in front of `t`. -/
structure Between (r : Cursor) (before t : Text) : Prop where
  bytes_eq : r.data.toList.drop r.offset = t.utf8
  offset_eq : r.offset = before.utf8.length
  position_eq : r.position = before.countP CodePoint.isScalar

theorem between_ofText (t : Text) : (ofText t).Between [] t := ⟨rfl, rfl, rfl⟩

theorem trace_append (r : Cursor) (calls calls' : List Call) :
    r.trace (calls ++ calls') = r.trace calls ++ (r.after calls).trace calls' := by
  induction calls generalizing r with
  | nil => rfl
  | cons call calls ih => exact congrArg (r.perform call :: ·) (ih (r.perform call).2)

theorem after_append (r : Cursor) (calls calls' : List Call) :
    r.after (calls ++ calls') = (r.after calls).after calls' := List.foldl_append

theorem perform_read {r r' : Cursor} {c : Option CodePoint} (h : r.read = (.ok c, r')) :
    r.perform .read = (.codePoint c, r') := by
  simp only [perform, h]

theorem perform_read_error {r r' : Cursor} {f : Fault} (h : r.read = (.error f, r')) :
    r.perform .read = (.fault f, r') := by
  simp only [perform, h]

/-- A byte at which no scalar begins is refused, and the next byte is ahead. -/
theorem perform_read_of_undecodable {r : Cursor} {b : UInt8} {bs : List UInt8}
    (hbytes : r.data.toList.drop r.offset = b :: bs) (h : Utf8.Undecodable (b :: bs)) :
    ∃ r', r.perform .read = (.fault (.invalidEncoding r.position r.offset), r') ∧
      r'.data.toList.drop r'.offset = bs ∧ r'.offset = r.offset + 1 ∧ r'.position = r.position := by
  have hbefore : r.Before [] (b :: bs) := ⟨hbytes, Text.isScalar_nil, h⟩
  obtain ⟨r', hread, hdata, hoffset, hposition⟩ := read_of_undecodable hbefore
  exact ⟨r', perform_read_error hread, hbefore.bytes_of_refused hdata hoffset, hoffset, hposition⟩

/-- The end is found again and again. -/
theorem trace_of_end {r : Cursor} (h : ¬ r.offset < r.data.size) (n : Nat) :
    (r.trace (List.replicate n .read)).map Prod.fst = List.replicate n (.codePoint none) ∧
      r.after (List.replicate n .read) = r := by
  have hread := perform_read (read_of_end h)
  induction n with
  | zero => exact ⟨rfl, rfl⟩
  | succ n ih =>
    rw [List.replicate_succ, List.replicate_succ, trace, List.map_cons, hread, ih.1]
    refine ⟨rfl, ?_⟩
    show (r.perform .read).2.after (List.replicate n .read) = r
    rw [hread, ih.2]

namespace Between

variable {r : Cursor} {before t : Text} {c : CodePoint}

/-- A surrogate is refused three times, byte by byte. -/
theorem trace_surrogate (h : r.Between before (c :: t)) (hc : c.isSurrogate = true) :
    (r.trace (List.replicate 3 .read)).map Prod.fst = repliesAt before c ∧
      (r.after (List.replicate 3 .read)).Between (before ++ [c]) t := by
  obtain ⟨lead, b, b', heq, hfirst, hsecond, hthird⟩ := Utf8.undecodable_surrogate hc t.utf8
  have hbytes := h.bytes_eq
  rw [Text.utf8_cons, heq] at hbytes
  obtain ⟨r₁, hread₁, hbytes₁, hoffset₁, hposition₁⟩ := perform_read_of_undecodable hbytes hfirst
  obtain ⟨r₂, hread₂, hbytes₂, hoffset₂, hposition₂⟩ := perform_read_of_undecodable hbytes₁ hsecond
  obtain ⟨r₃, hread₃, hbytes₃, hoffset₃, hposition₃⟩ := perform_read_of_undecodable hbytes₂ hthird
  have hafter : r.after (List.replicate 3 .read) = r₃ := by
    simp only [after, List.replicate, List.foldl_cons, List.foldl_nil, hread₁, hread₂, hread₃]
  rw [hafter]
  refine ⟨?_, hbytes₃, ?_, ?_⟩
  · simp only [List.replicate, trace, hread₁, hread₂, hread₃, List.map_cons, List.map_nil, repliesAt, if_pos hc,
      hposition₂, hposition₁, hoffset₂, hoffset₁, h.position_eq, h.offset_eq]
    rfl
  · rw [hoffset₃, hoffset₂, hoffset₁, h.offset_eq, Text.utf8_append, Text.utf8_cons, heq]
    simp
  · have hscalar : c.isScalar = false := by simp [CodePoint.isScalar, hc]
    rw [hposition₃, hposition₂, hposition₁, h.position_eq]
    simp [hscalar]

/-- A scalar is given in one call. -/
theorem trace_scalar (h : r.Between before (c :: t)) (hc : c.isScalar = true) :
    r.perform .read = (.codePoint (some c), r.read.2) ∧ r.read.2.Between (before ++ [c]) t := by
  -- What follows the scalar is cut where decoding stops, so that the lemmas about scalars ahead apply.
  obtain ⟨u, rest, hu, hrest, hsplit⟩ := Utf8.exists_split t.utf8
  have hahead : r.Before (c :: u) rest := by
    refine ⟨?_, Text.isScalar_cons.2 ⟨hc, hu⟩, hrest⟩
    rw [h.bytes_eq, Text.utf8_cons, Text.utf8_cons, hsplit, List.append_assoc]
  obtain ⟨r', hread, hpass⟩ := read_of_before hahead
  have hmore := (hahead.of_passes (u := [c]) hpass).bytes_eq
  rw [hread]
  refine ⟨perform_read hread, hmore.trans hsplit.symm, ?_, ?_⟩
  · rw [hpass.offset_eq, h.offset_eq, Text.utf8_append, List.length_append]
  · rw [hpass.position_eq, h.position_eq]
    simp [hc]

/-- **One code point.** It is passed in as many calls as there are answers to them. -/
theorem trace_codePoint (h : r.Between before (c :: t)) :
    (r.trace (List.replicate (repliesAt before c).length .read)).map Prod.fst = repliesAt before c ∧
      (r.after (List.replicate (repliesAt before c).length .read)).Between (before ++ [c]) t := by
  by_cases hc : c.isSurrogate = true
  · have hlength : (repliesAt before c).length = 3 := by simp [repliesAt, hc]
    rw [hlength]
    exact h.trace_surrogate hc
  · have hscalar : c.isScalar = true := by simpa [CodePoint.isScalar] using hc
    have hreplies : repliesAt before c = [.codePoint (some c)] := by rw [repliesAt, if_neg hc]
    obtain ⟨hread, hbetween⟩ := h.trace_scalar hscalar
    rw [hreplies]
    refine ⟨?_, ?_⟩
    · simp only [List.length_singleton, List.replicate, trace, hread, List.map_cons, List.map_nil]
    · show (r.perform .read).2.Between (before ++ [c]) t
      rw [hread]
      exact hbetween

/-- **All that is left.** The calls that pass over it answer for one code point after the other, and all further calls
    find the end. -/
theorem trace_text (h : r.Between before t) (further : Nat) :
    (r.trace (List.replicate ((repliesFrom before t).length + further) .read)).map Prod.fst =
        repliesFrom before t ++ List.replicate further (.codePoint none) ∧
      (r.after (List.replicate ((repliesFrom before t).length + further) .read)).Between (before ++ t) [] := by
  -- On the text ahead; each code point moves from there to the text behind the cursor.
  induction t generalizing r before with
  | nil =>
    have hend : ¬ r.offset < r.data.size := by
      have hdrop : r.data.toList.drop r.offset = [] := h.bytes_eq
      rw [List.drop_eq_nil_iff, Array.length_toList] at hdrop
      omega
    obtain ⟨htrace, hafter⟩ := trace_of_end hend further
    rw [repliesFrom, List.length_nil, Nat.zero_add, hafter, List.append_nil]
    exact ⟨htrace, h⟩
  | cons c t ih =>
    obtain ⟨htrace, hbetween⟩ := h.trace_codePoint
    obtain ⟨htrace', hbetween'⟩ := ih hbetween
    rw [List.append_assoc, List.singleton_append] at hbetween'
    rw [repliesFrom, List.length_append, Nat.add_assoc, ← List.replicate_append_replicate, trace_append, after_append,
      List.map_append, htrace, htrace', List.append_assoc]
    exact ⟨rfl, hbetween'⟩

end Between

end Cursor

/-! ### The scanner -/

/-- Bytes stop a scanner behind all that can be read. -/
theorem Residue.fault_eq_invalidEncoding {z : Residue} {cut : Bool} {position offset : Nat} {p o : Int}
    (h : z.fault cut position offset = some (.invalidEncoding p o)) :
    cut = true ∧ p = (position + z.text.length : Nat) ∧ o = (offset + z.text.utf8.length : Nat) := by
  cases z with
  | nothing =>
    cases cut with
    | false => simp [fault] at h
    | true =>
      obtain ⟨rfl, rfl⟩ : (position : Int) = p ∧ (offset : Int) = o := by simpa [fault] using h
      simp [text]
  | unexpected c more hc => simp [fault] at h
  | openString body hb =>
    cases cut with
    | false => simp [fault] at h
    | true =>
      rw [fault, if_pos rfl, Option.some.injEq, Fault.invalidEncoding.injEq] at h
      exact ⟨rfl, h.1.symm, h.2.symm⟩

/-- A text up to its first surrogate, and what follows it. -/
theorem Text.exists_scalars_append (t : Text) : ∃ u v : Text, t = u ++ v ∧ u.IsScalar ∧
    (v = [] ∨ t.findIdx? CodePoint.isSurrogate = some u.length) ∧ Utf8.Undecodable (utf8 v) := by
  induction t with
  | nil => exact ⟨[], [], rfl, isScalar_nil, .inl rfl, Utf8.undecodable_nil⟩
  | cons c t ih =>
    by_cases hc : c.isSurrogate = true
    · obtain ⟨lead, b, b', heq, hundecodable, -⟩ := Utf8.undecodable_surrogate hc (utf8 t)
      refine ⟨[], c :: t, rfl, isScalar_nil, .inr ?_, ?_⟩
      · simp [List.findIdx?_cons, hc]
      · rw [utf8_cons, heq]
        exact hundecodable
    · obtain ⟨u, v, rfl, hu, hv, hundecodable⟩ := ih
      have hscalar : c.isScalar = true := by simpa [CodePoint.isScalar] using hc
      refine ⟨c :: u, v, rfl, isScalar_cons.2 ⟨hscalar, hu⟩, hv.imp_right fun h => ?_, hundecodable⟩
      simp [List.findIdx?_cons, hc, h]

/-- A text is refused for its bytes only where its first surrogate stands. -/
theorem findIdx?_isSurrogate_of_tokenizeText {t : Text} {position offset : Int}
    (h : tokenizeText t = .error (.fault (.invalidEncoding position offset))) :
    ∃ n : Nat, t.findIdx? CodePoint.isSurrogate = some n ∧ position = n ∧ offset = (Text.utf8 (t.take n)).length := by
  obtain ⟨u, v, rfl, hu, hv, hundecodable⟩ := t.exists_scalars_append
  obtain ⟨l, z, rest, hreads⟩ := exists_reads (Text.utf8 (u ++ v)).toArray
  have hbytes : u.utf8 ++ v.utf8 = (l.text ++ z.text).utf8 ++ rest := by
    rw [← Text.utf8_append]
    exact hreads.bytes_eq
  obtain ⟨rfl, rfl⟩ := Utf8.split_unique hu hreads.scalar hundecodable hreads.undecodable hbytes
  have hfault : z.fault (!v.utf8.isEmpty) l.text.length l.text.utf8.length =
      some (.invalidEncoding position offset) := by
    have htokens := hreads.tokenize_eq.symm.trans h
    cases hz : z.fault (!v.utf8.isEmpty) l.text.length l.text.utf8.length with
    | none => rw [hz] at htokens; cases htokens
    | some f =>
      rw [hz] at htokens
      exact congrArg some (Refusal.fault.inj (Except.error.inj htokens))
  obtain ⟨hcut, hposition, hoffset⟩ := Residue.fault_eq_invalidEncoding hfault
  rcases hv with rfl | hv
  · simp at hcut
  · refine ⟨_, hv, ?_, ?_⟩
    · rw [hposition, List.length_append]
    · rw [hoffset, List.take_left, Text.utf8_append, List.length_append]

namespace Cursor

/-- **Texts with surrogates.** Calls of `read` on a fresh cursor of a text answer for one code point after the other:
    with the code point itself, in one call, or, if it is a surrogate, with three refusals at consecutive bytes and one
    position.  All further calls find the end, and then just the scalars have been counted.  Hence a text is refused for
    its bytes only if it holds a surrogate, and then at the place of the first one. -/
theorem trace_read_ofText (t : Text) :
    (∀ further, let calls := List.replicate ((repliesFrom [] t).length + further) Call.read
      ((ofText t).trace calls).map Prod.fst = repliesFrom [] t ++ List.replicate further (.codePoint none) ∧
        ((ofText t).after calls).position = t.countP CodePoint.isScalar) ∧
      ∀ position offset, tokenizeText t = .error (.fault (.invalidEncoding position offset)) →
        ∃ n : Nat, t.findIdx? CodePoint.isSurrogate = some n ∧ position = n ∧
          offset = (Text.utf8 (t.take n)).length := by
  constructor
  · intro further
    obtain ⟨htrace, hbetween⟩ := (between_ofText t).trace_text further
    exact ⟨htrace, hbetween.position_eq⟩
  · intro position offset h
    exact findIdx?_isSurrogate_of_tokenizeText h

-- A high surrogate and a low one, which together would name one scalar, and a letter behind them.
example : repliesFrom [] [⟨0xD83D, by decide⟩, ⟨0xDE00, by decide⟩, 'a'] =
    [.fault (.invalidEncoding 0 0), .fault (.invalidEncoding 0 1), .fault (.invalidEncoding 0 2),
      .fault (.invalidEncoding 0 3), .fault (.invalidEncoding 0 4), .fault (.invalidEncoding 0 5),
      .codePoint (some 'a')] := by
  decide +kernel

end Cursor

end ParenTokens
