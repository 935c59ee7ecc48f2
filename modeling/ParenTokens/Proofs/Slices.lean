import ParenTokens.Proofs.Lookahead
import ParenTokens.Proofs.Resuming
import ParenTokens.Proofs.Undecodable

namespace ParenTokens

/-!
# The text between two places

`textBetween` decodes a slice of the bytes at once, while `read` decodes them one code point at a time.  Both agree on
each slice between two places of a cursor: it is the text that was read between them, unless a call of `read` was
refused on the way, and then it is none.

* `Cursor.readReplies` — what the calls of `read` among some calls answer; `Cursor.Answer.codePoint?` — the code point
  in an answer.
* `Cursor.Spells` — the bytes that such calls pass over, one constructor for each kind of answer.
* `Cursor.spells_read` — one call of `read`; `Cursor.exists_spells` — any calls, by induction from it.
* `Spells.decode_eq_ok`, `Spells.decode_eq_error` — what the decoder makes of the bytes that were passed.
* `Cursor.perform_textBetween_after` — the slice between two places.
-/

/-- Bytes at which no scalar begins are no better when they are cut short. -/
theorem Utf8.Undecodable.of_prefix {bs cs : List UInt8} (h : Undecodable cs) (hp : bs <+: cs) : Undecodable bs :=
  fun c hc hstands => h c hc (hstands.trans hp)

namespace Cursor

/-- The code point in an answer, if there is one. -/
def Answer.codePoint? : Answer → Option CodePoint
  | .codePoint c => c
  | .text _ | .fault _ | .undecodable _ => none

/-- The answers to the calls of `read` among some calls, in order. -/
def readReplies (r : Cursor) : List Call → List Answer
  | [] => []
  | call :: calls =>
    let more := readReplies (r.perform call).2 calls
    if call.looks then more else (r.perform call).1 :: more

/-! ### Bytes that were passed -/

/-- Calls of `read` with these answers pass over these bytes: none at the end, the bytes of a scalar, and one byte for
    a refusal, behind which the bytes do not go on to a scalar. -/
inductive Spells : List Answer → List UInt8 → Prop
  | nil : Spells [] []
  | finish {answers : List Answer} {bytes : List UInt8} (more : Spells answers bytes) :
      Spells (.codePoint none :: answers) bytes
  | codePoint {c : CodePoint} {answers : List Answer} {bytes : List UInt8} (scalar : c.isScalar = true)
      (more : Spells answers bytes) : Spells (.codePoint (some c) :: answers) (c.utf8 ++ bytes)
  | refusal {f : Fault} {b : UInt8} {answers : List Answer} {bytes : List UInt8}
      (undecodable : Utf8.Undecodable (b :: bytes)) (more : Spells answers bytes) :
      Spells (.fault f :: answers) (b :: bytes)

namespace Spells

variable {answers : List Answer} {bytes : List UInt8}

/-- Without a refusal the bytes are those of the code points given. -/
theorem decode_eq_ok (h : Spells answers bytes) (hfault : ∀ f, Answer.fault f ∉ answers) :
    Utf8.decode bytes = .ok (answers.filterMap Answer.codePoint?) := by
  rw [Utf8.decode_eq_ok_iff]
  induction h with
  | nil => exact ⟨Text.isScalar_nil, rfl⟩
  | finish more ih => exact ih fun f hf => hfault f (List.mem_cons_of_mem _ hf)
  | @codePoint c _ _ scalar more ih =>
    obtain ⟨hscalar, hutf8⟩ := ih fun f hf => hfault f (List.mem_cons_of_mem _ hf)
    have hgiven : (Answer.codePoint (some c)).codePoint? = some c := rfl
    rw [List.filterMap_cons_some hgiven, Text.utf8_cons, hutf8]
    exact ⟨Text.isScalar_cons.2 ⟨scalar, hscalar⟩, rfl⟩
  | refusal undecodable more ih => exact absurd List.mem_cons_self (hfault _)

/-- A refusal stops the decoder too. -/
theorem decode_eq_error (h : Spells answers bytes) {f : Fault} (hf : Answer.fault f ∈ answers) :
    ∃ e, Utf8.decode bytes = .error e := by
  -- The decoder goes over the scalars in front of the refusal, and so its place changes.
  suffices hfrom : ∀ start, ∃ e, Utf8.decodeFrom start bytes = .error e from hfrom 0
  induction h with
  | nil => cases hf
  | finish more ih => exact ih (by simpa using hf)
  | codePoint scalar more ih =>
    intro start
    obtain ⟨e, he⟩ := ih (by simpa using hf) (start + _)
    exact ⟨e, by rw [Utf8.decodeFrom_utf8_append scalar, he]; rfl⟩
  | refusal undecodable more ih =>
    intro start
    obtain ⟨e, he, -⟩ := Utf8.decodeFrom_undecodable undecodable (List.cons_ne_nil _ _) start
    exact ⟨e, he⟩

end Spells

/-! ### Calls -/

/-- The bytes from the place of a cursor on. -/
def ahead (r : Cursor) : List UInt8 := r.data.toList.drop r.offset

/-- The cursor goes on from `r` to `r'` and passes over `bytes`. -/
structure GoesOver (r : Cursor) (bytes : List UInt8) (r' : Cursor) : Prop where
  data_eq : r'.data = r.data
  offset_eq : r'.offset = r.offset + bytes.length
  ahead_eq : r.ahead = bytes ++ r'.ahead

theorem GoesOver.trans {r r' r'' : Cursor} {bytes bytes' : List UInt8} (h : r.GoesOver bytes r')
    (h' : r'.GoesOver bytes' r'') : r.GoesOver (bytes ++ bytes') r'' := by
  refine ⟨h'.data_eq.trans h.data_eq, ?_, ?_⟩
  · rw [h'.offset_eq, h.offset_eq, List.length_append, Nat.add_assoc]
  · rw [h.ahead_eq, h'.ahead_eq, List.append_assoc]

theorem goesOver_nil {r r' : Cursor} (hdata : r'.data = r.data) (hoffset : r'.offset = r.offset) :
    r.GoesOver [] r' := ⟨hdata, hoffset, by rw [ahead, ahead, hdata, hoffset, List.nil_append]⟩

/-- A call that only looks goes over nothing. -/
theorem goesOver_of_looks (r : Cursor) {call : Call} (h : call.looks = true) : r.GoesOver [] (r.perform call).2 := by
  have hbare : (r.perform call).2.bare = r.bare :=
    (congrArg Prod.snd (r.perform_bare call)).trans (r.bare.perform_of_looks h)
  exact goesOver_nil (congrArg BareCursor.data hbare) (congrArg BareCursor.offset hbare)

/-- **One call of `read`.** It goes over some bytes, and these come first in whatever is passed from its place on. -/
theorem spells_read (r : Cursor) : ∃ bytes, r.GoesOver bytes (r.perform .read).2 ∧
    ∀ answers more, more <+: (r.perform .read).2.ahead → Spells answers more →
      Spells ((r.perform .read).1 :: answers) (bytes ++ more) := by
  rcases r.read_cases with ⟨-, hread⟩ | ⟨c, t, rest, r', hbefore, hread, hpass⟩ |
    ⟨b, rest, r', hbefore, hread, hdata, hoffset, -⟩
  · simp only [perform, hread]
    exact ⟨[], goesOver_nil rfl rfl, fun answers more _ h => .finish h⟩
  · simp only [perform, hread]
    obtain ⟨hc, -⟩ := Text.isScalar_cons.1 hbefore.scalar
    have hahead : r.ahead = c.utf8 ++ r'.ahead := by
      rw [ahead, ahead, hbefore.bytes_eq, (hbefore.of_passes (u := [c]) hpass).bytes_eq, Text.utf8_cons,
        List.append_assoc]
    exact ⟨c.utf8, ⟨hpass.data_eq, by simpa using hpass.offset_eq, hahead⟩, fun answers more _ h => .codePoint hc h⟩
  · simp only [perform, hread]
    have hbytes : r.ahead = b :: rest := hbefore.bytes_eq
    have hahead : r.ahead = [b] ++ r'.ahead := by
      have hrest : r'.ahead = rest := hbefore.bytes_of_refused hdata hoffset
      rw [hbytes, hrest, List.singleton_append]
    refine ⟨[b], ⟨hdata, hoffset, hahead⟩, fun answers more hmore h => .refusal ?_ h⟩
    -- What is passed later is only a part of the bytes at which the call was refused.
    have hpart : b :: more <+: b :: rest := by
      rw [← hbytes, hahead, List.singleton_append]
      exact (List.cons_prefix_cons).2 ⟨rfl, hmore⟩
    exact hbefore.undecodable.of_prefix hpart

/-- **Any calls.** They go over bytes that the answers of `read` among them spell. -/
theorem exists_spells (r : Cursor) (calls : List Call) :
    ∃ bytes, r.GoesOver bytes (r.after calls) ∧ Spells (r.readReplies calls) bytes := by
  induction calls generalizing r with
  | nil => exact ⟨[], goesOver_nil rfl rfl, .nil⟩
  | cons call calls ih =>
    obtain ⟨more, hgoes, hspells⟩ := ih (r.perform call).2
    have hafter : r.after (call :: calls) = (r.perform call).2.after calls := rfl
    rw [hafter, readReplies]
    cases hlooks : call.looks with
    | true =>
      rw [if_pos rfl]
      exact ⟨more, (r.goesOver_of_looks hlooks).trans hgoes, hspells⟩
    | false =>
      obtain rfl : call = .read := by cases call <;> simp [Call.looks] at hlooks ⊢
      obtain ⟨bytes, hgoes', hspells'⟩ := r.spells_read
      have hprefix : more <+: (r.perform .read).2.ahead := ⟨_, hgoes.ahead_eq.symm⟩
      exact ⟨bytes ++ more, hgoes'.trans hgoes, hspells' _ more hprefix hspells⟩

/-! ### Slices -/

theorem GoesOver.textBetween_eq {r r' : Cursor} {bytes : List UInt8} (h : r.GoesOver bytes r') {now : Cursor}
    (hnow : now.data = r.data) : now.textBetween r.offset r'.offset = Utf8.decode bytes := by
  have hle : r'.offset ≤ r.data.size := h.data_eq ▸ r'.offset_le
  have hslice : (r.data.extract r.offset r'.offset).toList = bytes := by
    have hahead : r.data.toList.drop r.offset = bytes ++ r'.ahead := h.ahead_eq
    rw [Array.toList_extract, List.extract_eq_take_drop, hahead, h.offset_eq, Nat.add_sub_cancel_left, List.take_left]
  rw [textBetween, hnow, bound_natCast r.offset_le, bound_natCast hle, hslice]

/-- **The text between two places.** From any place of a cursor, after any calls, and at any later time: the text from
    that place to the one reached by the calls is what the calls of `read` among them gave, if none of these was
    refused.  If one was, then there is no such text. -/
theorem perform_textBetween_after (r : Cursor) (calls later : List Call) :
    let now := (r.after calls).after later
    let slice := (now.perform (.textBetween r.offset (r.after calls).offset)).1
    ((∀ f, Answer.fault f ∉ r.readReplies calls) →
        slice = .text ((r.readReplies calls).filterMap Answer.codePoint?)) ∧
      ∀ f, Answer.fault f ∈ r.readReplies calls → ∃ e, slice = .undecodable e := by
  intro now slice
  obtain ⟨bytes, hgoes, hspells⟩ := r.exists_spells calls
  obtain ⟨_, hlater, -⟩ := (r.after calls).exists_spells later
  have hslice : now.textBetween r.offset (r.after calls).offset = Utf8.decode bytes :=
    hgoes.textBetween_eq (hlater.data_eq.trans hgoes.data_eq)
  constructor
  · intro hfault
    have hdecode := hslice.trans (hspells.decode_eq_ok hfault)
    show (now.perform _).1 = _
    simp only [perform, hdecode]
  · intro f hf
    obtain ⟨e, he⟩ := hspells.decode_eq_error hf
    have hdecode := hslice.trans he
    refine ⟨e, ?_⟩
    show (now.perform _).1 = _
    simp only [perform, hdecode]

-- A slice that ends behind the first byte of a sequence cut short, which the reader has refused.
example : ((ofBytes #[0x61, 0xE2, 0x82, 0x62]).trace [.read, .read, .textBetween 0 1, .textBetween 0 2]).map Prod.fst =
    [.codePoint (some 'a'), .fault (.invalidEncoding 1 1), .text "a", .undecodable ⟨1, [0xE2], .unexpectedEnd⟩] := by
  decide +kernel

end Cursor

end ParenTokens
