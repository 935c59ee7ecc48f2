import ParenTokens.Lexing.Scanner
import ParenTokens.Proofs.Encoding

namespace ParenTokens

/-!
# Reading a text under a cursor

A cursor is a byte offset and a count of code points; what it reads is a text.  This file says what each operation
does to the text ahead, so that the scanner can be followed without looking at bytes again.

* `Cursor.Before r t rest` — the scalars ahead of `r` are `t`, and `rest` begins with none.
* `Cursor.Passes r u r'` — `r'` is where `r` stands after reading `u`.
* `Cursor.peek_of_before`, `Cursor.read_of_before` — one code point.
* `Cursor.advanceWhile_of_before` — a run of code points: the longest prefix with the property is passed.
* `Cursor.textSince_of_passes` — the text between two places is what was passed between them.
-/

namespace Cursor

/-- The cursor stands before the text `t`, and behind that no further scalar stands. -/
structure Before (r : Cursor) (t : Text) (rest : List UInt8) : Prop where
  bytes_eq : r.data.toList.drop r.offset = t.utf8 ++ rest
  scalar : t.IsScalar
  undecodable : Utf8.Undecodable rest

/-- The cursor `r'` stands behind the text `u` that `r` stood before. -/
structure Passes (r : Cursor) (u : Text) (r' : Cursor) : Prop where
  data_eq : r'.data = r.data
  offset_eq : r'.offset = r.offset + u.utf8.length
  position_eq : r'.position = r.position + u.length

/-! ### Places -/

theorem passes_fill (r : Cursor) : r.Passes [] r.fill := ⟨by simp, by simp, by simp⟩

theorem Passes.trans {r r' r'' : Cursor} {u v : Text} (h : r.Passes u r') (h' : r'.Passes v r'') :
    r.Passes (u ++ v) r'' := by
  refine ⟨h'.data_eq.trans h.data_eq, ?_, ?_⟩
  · rw [h'.offset_eq, h.offset_eq, Text.utf8_append, List.length_append, Nat.add_assoc]
  · rw [h'.position_eq, h.position_eq, List.length_append, Nat.add_assoc]

theorem Before.of_passes {r r' : Cursor} {u t : Text} {rest : List UInt8} (h : r.Before (u ++ t) rest)
    (h' : r.Passes u r') : r'.Before t rest := by
  obtain ⟨hb, hs, hr⟩ := h
  refine ⟨?_, (Text.isScalar_append.1 hs).2, hr⟩
  rw [h'.data_eq, h'.offset_eq, ← List.drop_drop, hb, Text.utf8_append, List.append_assoc, List.drop_left]

theorem Before.fill {r : Cursor} {t : Text} {rest : List UInt8} (h : r.Before t rest) : r.fill.Before t rest :=
  Before.of_passes (u := []) h r.passes_fill

/-- All bytes are a text and what follows it, seen from their start. -/
theorem before_ofBytes {data : Array UInt8} {t : Text} {rest : List UInt8} (ht : t.IsScalar)
    (hr : Utf8.Undecodable rest) (h : data.toList = t.utf8 ++ rest) : (ofBytes data).Before t rest :=
  ⟨h, ht, hr⟩

/-- There are bytes at the cursor iff there are bytes ahead of it. -/
theorem Before.offset_lt_iff {r : Cursor} {t : Text} {rest : List UInt8} (h : r.Before t rest) :
    r.offset < r.data.size ↔ t.utf8 ++ rest ≠ [] := by
  rw [← h.bytes_eq, ne_eq, List.drop_eq_nil_iff, Array.length_toList]
  omega

/-! ### One code point -/

/-- What a cursor before `t` and `rest` sees. -/
def seen (r : Cursor) : Text → List UInt8 → Except Fault (Option CodePoint)
  | c :: _, _ => .ok (some c)
  | [], [] => .ok none
  | [], _ :: _ => .error (.invalidEncoding r.position r.offset)

theorem lookahead_of_before_cons {r : Cursor} {c : CodePoint} {t : Text} {rest : List UInt8}
    (h : r.Before (c :: t) rest) : r.fill.lookahead = some (.codePoint c c.utf8.length) := by
  obtain ⟨hc, _⟩ := Text.isScalar_cons.1 h.scalar
  have hne : Text.utf8 (c :: t) ++ rest ≠ [] := by simp [Utf8.utf8_ne_nil hc]
  have hbytes := h.bytes_eq
  rw [Text.utf8_cons, List.append_assoc] at hbytes
  rw [lookahead_fill, if_pos (h.offset_lt_iff.2 hne), decodeAt_utf8 hc hbytes]

theorem lookahead_of_before_nil {r : Cursor} {rest : List UInt8} (h : r.Before [] rest) :
    r.fill.lookahead = if rest = [] then none else some .invalid := by
  have hbytes : r.data.toList.drop r.offset = rest := h.bytes_eq
  rw [lookahead_fill]
  by_cases hrest : rest = []
  · rw [if_pos hrest, if_neg (by simp [h.offset_lt_iff, hrest])]
  · rw [if_neg hrest, if_pos (h.offset_lt_iff.2 (by simpa using hrest)),
      decodeAt_undecodable (hbytes ▸ h.undecodable)]

theorem peek_of_before {r : Cursor} {t : Text} {rest : List UInt8} (h : r.Before t rest) :
    r.peek = (r.seen t rest, r.fill) := by
  cases t with
  | cons c t => simp only [peek, lookahead_of_before_cons h, seen]
  | nil =>
    have hlook := lookahead_of_before_nil h
    cases rest with
    | nil => simp only [peek, hlook, if_pos, seen]
    | cons b bs => simp only [peek, hlook, if_neg, reduceCtorEq, not_false_eq_true, seen]

theorem read_of_before {r : Cursor} {c : CodePoint} {t : Text} {rest : List UInt8}
    (h : r.Before (c :: t) rest) : ∃ r', r.read = (.ok (some c), r') ∧ r.Passes [c] r' := by
  have hlook := lookahead_of_before_cons h
  unfold read take
  split
  · next hnone => rw [hlook] at hnone; cases hnone
  · next c' w hsome =>
    rw [hlook] at hsome
    cases hsome
    refine ⟨_, rfl, ?_, ?_, ?_⟩
    · simp [passing]
    · simp [passing, Decoded.width]
    · simp [passing]
  · next hinvalid => rw [hlook] at hinvalid; cases hinvalid

/-! ### Runs of code points -/

theorem advanceWhile_of_peek_mem {p : CodePoint → Bool} {r : Cursor} {c : CodePoint}
    (h : r.peek.1 = .ok (some c)) (hc : p c = true) : r.advanceWhile p = r.read.2.advanceWhile p := by
  rw [advanceWhile]
  split
  · next c' seen hpeek =>
    have hseen : seen = r.fill := by rw [← peek_snd, hpeek]
    rw [hpeek] at h
    cases h
    rw [if_pos hc, hseen, read_fill]
  · next hpeek => rw [hpeek] at h; cases h
  · next hpeek => rw [hpeek] at h; cases h

theorem advanceWhile_of_peek_not_mem {p : CodePoint → Bool} {r : Cursor}
    (h : ∀ c, r.peek.1 = .ok (some c) → p c = false) : r.advanceWhile p = r.peek := by
  rw [advanceWhile]
  split
  · next c seen hpeek =>
    have hc : p c = false := h c (by rw [hpeek])
    simp [hc, hpeek]
  · next hpeek => exact hpeek.symm
  · next hpeek => exact hpeek.symm

/-- **A run.** A cursor before `u ++ v` passes `u` if all of `u` has the property and `v` does not go on with it; it
    stops with what it sees there. -/
theorem advanceWhile_of_before {p : CodePoint → Bool} {u v : Text} {rest : List UInt8} {r : Cursor}
    (h : r.Before (u ++ v) rest) (hu : ∀ c ∈ u, p c = true) (hv : ∀ c ∈ v.head?, p c = false) :
    ∃ r', r.advanceWhile p = (r'.seen v rest, r') ∧ r.Passes u r' := by
  -- On the text to be passed; the cursor stops after a look at `v`, which fills its lookahead.
  induction u generalizing r with
  | nil =>
    refine ⟨r.fill, ?_, r.passes_fill⟩
    rw [List.nil_append] at h
    have hpeek : r.peek = (r.fill.seen v rest, r.fill) := by
      rw [← peek_fill, peek_of_before h.fill, fill_fill]
    rw [advanceWhile_of_peek_not_mem, hpeek]
    intro c hc
    rw [hpeek] at hc
    cases v with
    | cons d v => exact hv c (by simpa [seen] using hc)
    | nil => cases rest <;> simp [seen] at hc
  | cons c u ih =>
    obtain ⟨r₁, hread, hpass⟩ := read_of_before (t := u ++ v) h
    obtain ⟨r', hrun, hpass'⟩ := ih (h.of_passes (u := [c]) hpass) fun d hd => hu d (by simp [hd])
    refine ⟨r', ?_, hpass.trans hpass'⟩
    have hpeek : r.peek = (.ok (some c), r.fill) := peek_of_before h
    rw [advanceWhile_of_peek_mem (by rw [hpeek]) (hu c (by simp)), hread, hrun]

/-! ### Slices -/

theorem bound_natCast {length n : Nat} (h : n ≤ length) : Slice.bound length (n : Int) = n := by
  have hneg : ¬ (n : Int) < 0 := by omega
  rw [Slice.bound, if_neg hneg, Int.toNat_natCast, Nat.min_eq_left h]

theorem textSince_of_passes {r stop : Cursor} {u t : Text} {rest : List UInt8} (h : r.Before (u ++ t) rest)
    (hp : r.Passes u stop) (r' : Cursor) (hr' : r'.data = r.data) :
    r'.textSince r.offset stop.offset = .ok u := by
  have hstop : stop.offset ≤ r.data.size := hp.data_eq ▸ stop.offset_le
  have hslice : (r.data.extract r.offset stop.offset).toList = u.utf8 := by
    rw [Array.toList_extract, List.extract_eq_take_drop, h.bytes_eq, hp.offset_eq, Nat.add_sub_cancel_left,
      Text.utf8_append, List.append_assoc, List.take_left]
  have hdecode : Utf8.decode u.utf8 = .ok u :=
    Utf8.decode_eq_ok_iff.2 ⟨(Text.isScalar_append.1 h.scalar).1, rfl⟩
  rw [textSince, textBetween, hr', bound_natCast r.offset_le, bound_natCast hstop, hslice, hdecode]

end Cursor

end ParenTokens
