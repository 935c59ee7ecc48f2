import ParenTokens.Text.Utf8
import ParenTokens.Lexing.Fault

namespace ParenTokens

/-!
# Cursors over bytes

A cursor reads code points from bytes, one at a time, and keeps the one it looked ahead at. A byte that starts no
code point is refused where the cursor reaches it.

* `Decoded`, `decodeAt`: what stands at a byte offset.
* `Cursor`, `Cursor.ofBytes`, `Cursor.ofText`: a place in some bytes and the lookahead there.
* `Cursor.peek`, `Cursor.read`: the code point at the place, without and with moving past it.
* `Cursor.advanceWhile`: reads on as long as the code points have a property.
* `Cursor.textBetween`: the text between two byte offsets.
* `Cursor.remaining_read_of_peek`: reading what was seen leaves fewer bytes.
-/

/-! ### Decoding at one offset -/

/-- What stands at a byte offset: a code point in `width` bytes, or a byte that starts none. -/
inductive Decoded
  | codePoint (c : CodePoint) (width : Nat)
  | invalid
deriving DecidableEq, Repr

/-- How far the cursor moves past it. -/
def Decoded.width : Decoded → Nat
  | codePoint _ width => width
  | invalid => 1

/-- Decodes as many bytes from `offset` on as the byte there announces. -/
def decodeAt (data : Array UInt8) (offset : Nat) : Decoded :=
  match data[offset]? with
  | none => .invalid
  | some lead =>
    let width := Utf8.sequenceLength lead
    match Utf8.decode (data.extract offset (offset + width)).toList with
    | .ok [c] => .codePoint c width
    | _ => .invalid

namespace Utf8

theorem continuations_eq_codePoint {more width value : Nat} {bs : List UInt8} {c : CodePoint} {w : Nat}
    (h : continuations more width value bs = .codePoint c w) : w = width + more ∧ more ≤ bs.length := by
  induction more generalizing width value bs with
  | zero =>
    simp only [continuations, Step.codePoint.injEq] at h
    exact ⟨by omega, Nat.zero_le _⟩
  | succ more ih =>
    cases bs with
    | nil => simp [continuations] at h
    | cons b bs =>
      simp only [continuations] at h
      split at h
      · have := ih h
        simp only [List.length_cons]
        omega
      · cases h

/-- A code point takes exactly the bytes that its lead byte announces, and they are all there. -/
theorem width_of_step_eq_codePoint {lead : UInt8} {tail : List UInt8} {c : CodePoint} {width : Nat}
    (h : step lead tail = .codePoint c width) : width = sequenceLength lead ∧ width ≤ tail.length + 1 := by
  unfold step at h
  split at h
  · cases h
  · next hl => cases h; exact ⟨hl.symm, by omega⟩
  · next more hl =>
    split at h
    · cases h
    · split at h
      · have := continuations_eq_codePoint h
        simp only [List.length_cons]
        omega
      · cases h

end Utf8

theorem width_decodeAt_pos (data : Array UInt8) (offset : Nat) : 0 < (decodeAt data offset).width := by
  unfold decodeAt
  split
  · simp [Decoded.width]
  · next lead hlead =>
    simp only
    split
    · next c hc =>
      simp only [Decoded.width]
      rcases Nat.eq_zero_or_pos (Utf8.sequenceLength lead) with hz | hz
      · simp [hz, Utf8.decode, Utf8.decodeFrom] at hc
      · exact hz
    · simp [Decoded.width]

/-- What is decoded lies within the bytes. -/
theorem width_decodeAt_le {data : Array UInt8} {offset : Nat} (h : offset < data.size) :
    offset + (decodeAt data offset).width ≤ data.size := by
  unfold decodeAt
  rw [Array.getElem?_eq_getElem h]
  simp only
  split
  · next c hc =>
    simp only [Decoded.width]
    have hlen : (data.extract offset (offset + Utf8.sequenceLength data[offset])).toList.length ≤
        data.size - offset := by
      simp only [Array.length_toList, Array.size_extract]
      omega
    cases hs : (data.extract offset (offset + Utf8.sequenceLength data[offset])).toList with
    | nil => rw [hs] at hc; simp [Utf8.decode, Utf8.decodeFrom] at hc
    | cons b bs =>
      have hb : b = data[offset] := by
        have h0 := congrArg (fun l => l[0]?) hs
        simp only [Array.getElem?_toList, List.getElem?_cons_zero] at h0
        rw [Array.getElem?_extract] at h0
        split at h0
        · simpa [Array.getElem?_eq_getElem h] using h0.symm
        · cases h0
      rw [hs] at hc hlen
      unfold Utf8.decode Utf8.decodeFrom at hc
      split at hc
      · next c' width hstep =>
        have := Utf8.width_of_step_eq_codePoint hstep
        rw [hb] at this
        simp only [List.length_cons] at hlen
        omega
      · cases hc
  · simp only [Decoded.width]
    omega

/-! ### Cursors -/

/-- A place in some bytes. `position` counts the code points read so far, `lookahead` keeps what was decoded at the
place, once that has been asked for. -/
structure Cursor where
  data : Array UInt8
  offset : Nat
  position : Nat
  lookahead : Option Decoded
  offset_le : offset ≤ data.size
  lookahead_eq : ∀ d, lookahead = some d → offset < data.size ∧ d = decodeAt data offset

namespace Cursor

/-- The cursor at the start of some bytes. -/
def ofBytes (data : Array UInt8) : Cursor :=
  { data, offset := 0, position := 0, lookahead := none, offset_le := Nat.zero_le _, lookahead_eq := nofun }

/-- The cursor at the start of the bytes of a text. -/
def ofText (t : Text) : Cursor := ofBytes t.utf8.toArray

/-- Whether all bytes have been read. -/
def atEnd (r : Cursor) : Bool := r.data.size ≤ r.offset

/-- How many bytes are left. -/
def remaining (r : Cursor) : Nat := r.data.size - r.offset

/-- The cursor with its lookahead filled, unless it stands at the end. -/
def fill (r : Cursor) : Cursor :=
  match r.lookahead with
  | some _ => r
  | none =>
    if h : r.offset < r.data.size then
      { r with
        lookahead := some (decodeAt r.data r.offset)
        lookahead_eq := fun _ hd => ⟨h, (Option.some.inj hd).symm⟩ }
    else r

/-- The code point at the place, or none at the end. The cursor does not move. -/
def peek (r : Cursor) : Except Fault (Option CodePoint) × Cursor :=
  match r.fill.lookahead with
  | none => (.ok none, r.fill)
  | some (.codePoint c _) => (.ok (some c), r.fill)
  | some .invalid => (.error (.invalidEncoding r.position r.offset), r.fill)

/-- The cursor behind something that was decoded at its place. -/
def passing (r : Cursor) (d : Decoded) (h : r.offset < r.data.size ∧ d = decodeAt r.data r.offset)
    (position : Nat) : Cursor :=
  { data := r.data, offset := r.offset + d.width, position, lookahead := none,
    offset_le := h.2 ▸ width_decodeAt_le h.1, lookahead_eq := nofun }

/-- What the lookahead holds, and the cursor behind it. -/
def take (r : Cursor) : Except Fault (Option CodePoint) × Cursor :=
  match h : r.lookahead with
  | none => (.ok none, r)
  | some (.codePoint c width) =>
    (.ok (some c), r.passing (.codePoint c width) (r.lookahead_eq _ h) (r.position + 1))
  | some .invalid =>
    (.error (.invalidEncoding r.position r.offset), r.passing .invalid (r.lookahead_eq _ h) r.position)

/-- The code point at the place, or none at the end, and the cursor behind it. A byte that starts no code point is
passed over too, but not counted. -/
def read (r : Cursor) : Except Fault (Option CodePoint) × Cursor := r.fill.take

/-- The text that the bytes between two offsets encode; the offsets are bounds of a slice. -/
def textBetween (r : Cursor) (first last : Int) : Except Utf8.DecodeError Text :=
  Utf8.decode (r.data.extract (Slice.bound r.data.size first) (Slice.bound r.data.size last)).toList

@[simp] theorem data_fill (r : Cursor) : r.fill.data = r.data := by
  unfold fill; split
  · rfl
  · split <;> rfl

@[simp] theorem offset_fill (r : Cursor) : r.fill.offset = r.offset := by
  unfold fill; split
  · rfl
  · split <;> rfl

@[simp] theorem position_fill (r : Cursor) : r.fill.position = r.position := by
  unfold fill; split
  · rfl
  · split <;> rfl

@[simp] theorem remaining_fill (r : Cursor) : r.fill.remaining = r.remaining := by simp [remaining]

/-- A filled lookahead holds what stands at the place. -/
@[simp] theorem lookahead_fill (r : Cursor) :
    r.fill.lookahead = if r.offset < r.data.size then some (decodeAt r.data r.offset) else none := by
  unfold fill
  split
  · next d h =>
    obtain ⟨hlt, rfl⟩ := r.lookahead_eq d h
    simp [h, hlt]
  · next h => split <;> simp [*]

theorem fill_of_lookahead {r : Cursor} {d : Decoded} (h : r.lookahead = some d) : r.fill = r := by
  unfold fill
  split
  · rfl
  · next h' => rw [h] at h'; cases h'

theorem fill_of_end {r : Cursor} (h : ¬ r.offset < r.data.size) : r.fill = r := by
  unfold fill
  split
  · rfl
  · simp [h]

@[simp] theorem fill_fill (r : Cursor) : r.fill.fill = r.fill := by
  by_cases h : r.offset < r.data.size
  · exact fill_of_lookahead (show r.fill.lookahead = some (decodeAt r.data r.offset) by simp [h])
  · exact fill_of_end (by simpa using h)

@[simp] theorem peek_snd (r : Cursor) : r.peek.2 = r.fill := by
  unfold peek; split <;> rfl

/-- Asking again gives the same. -/
@[simp] theorem peek_fill (r : Cursor) : r.fill.peek = r.peek := by
  unfold peek; simp

@[simp] theorem read_fill (r : Cursor) : r.fill.read = r.read := by simp [read]

theorem remaining_passing_lt (r : Cursor) (d : Decoded) (h : r.offset < r.data.size ∧ d = decodeAt r.data r.offset)
    (position : Nat) : (r.passing d h position).remaining < r.remaining := by
  have := width_decodeAt_pos r.data r.offset
  have := h.1
  rw [← h.2] at *
  simp only [remaining, passing]
  omega

theorem remaining_take_le (r : Cursor) : r.take.2.remaining ≤ r.remaining := by
  unfold take
  split
  · exact Nat.le_refl _
  · next hd => exact Nat.le_of_lt (remaining_passing_lt r _ (r.lookahead_eq _ hd) _)
  · next hd => exact Nat.le_of_lt (remaining_passing_lt r _ (r.lookahead_eq _ hd) _)

theorem remaining_take_lt {r : Cursor} {d : Decoded} (h : r.lookahead = some d) :
    r.take.2.remaining < r.remaining := by
  unfold take
  split
  · next hn => rw [h] at hn; cases hn
  · next hd => exact remaining_passing_lt r _ (r.lookahead_eq _ hd) _
  · next hd => exact remaining_passing_lt r _ (r.lookahead_eq _ hd) _

theorem remaining_read_le (r : Cursor) : r.read.2.remaining ≤ r.remaining := by
  simpa [read] using remaining_take_le r.fill

/-- A code point that was seen can be read, and fewer bytes are left. -/
theorem remaining_read_of_peek {r : Cursor} {c : CodePoint} (h : r.peek.1 = .ok (some c)) :
    r.read.2.remaining < r.remaining := by
  unfold peek at h
  split at h
  · cases h
  · next hl => simpa [read] using remaining_take_lt hl
  · cases h

/-! ### Runs of code points -/

/-- Reads code points as long as they satisfy `p`. Gives the first one that does not, or none at the end, and leaves
the cursor before it. -/
def advanceWhile (p : CodePoint → Bool) (r : Cursor) : Except Fault (Option CodePoint) × Cursor :=
  match _h : r.peek with
  | (.ok (some c), seen) =>
    if p c then advanceWhile p seen.read.2 else (.ok (some c), seen)
  | (.ok none, seen) => (.ok none, seen)
  | (.error fault, seen) => (.error fault, seen)
termination_by r.remaining
decreasing_by
  have h₁ : r.peek.1 = .ok (some c) := by rw [_h]
  have h₂ : seen = r.fill := by rw [← peek_snd, _h]
  rw [h₂, read_fill]
  exact remaining_read_of_peek h₁

theorem remaining_advanceWhile_le (p : CodePoint → Bool) (r : Cursor) :
    (advanceWhile p r).2.remaining ≤ r.remaining := by
  fun_induction advanceWhile p r with
  | case1 r c seen h hp ih =>
    have hs : seen = r.fill := by rw [← peek_snd, h]
    subst hs
    exact Nat.le_trans ih (by simpa using remaining_read_le r.fill)
  | case2 r c seen h hp =>
    have hs : seen = r.fill := by rw [← peek_snd, h]
    simp [hs]
  | case3 r seen h =>
    have hs : seen = r.fill := by rw [← peek_snd, h]
    simp [hs]
  | case4 r fault seen h =>
    have hs : seen = r.fill := by rw [← peek_snd, h]
    simp [hs]

/-- The code point that ends the run stands at the cursor. -/
theorem peek_of_advanceWhile {p : CodePoint → Bool} {r stop : Cursor} {c : CodePoint}
    (h : advanceWhile p r = (.ok (some c), stop)) : stop.peek = (.ok (some c), stop) ∧ p c = false := by
  fun_induction advanceWhile p r with
  | case1 r c' seen hpeek hp ih => exact ih h
  | case2 r c' seen hpeek hp =>
    have hs : seen = r.fill := by rw [← peek_snd, hpeek]
    cases h
    exact ⟨by rw [hs, peek_fill, ← hs, hpeek], by simpa using hp⟩
  | case3 r seen hpeek => cases h
  | case4 r fault seen hpeek => cases h

/-- A run that starts with a code point that satisfies `p` reads it. -/
theorem remaining_advanceWhile_lt {p : CodePoint → Bool} {r : Cursor} {c : CodePoint}
    (h : r.peek.1 = .ok (some c)) (hp : p c = true) : (advanceWhile p r).2.remaining < r.remaining := by
  unfold advanceWhile
  split
  · next c' seen hpeek =>
    rw [hpeek] at h
    cases h
    have hs : seen = r.fill := by rw [← peek_snd, hpeek]
    have h₁ : r.peek.1 = .ok (some c) := by rw [hpeek]
    simp only [hp, if_true]
    refine Nat.lt_of_le_of_lt (remaining_advanceWhile_le _ _) ?_
    rw [hs, read_fill]
    exact remaining_read_of_peek h₁
  · next hpeek => rw [hpeek] at h; cases h
  · next hpeek => rw [hpeek] at h; cases h

/-! ### Calls, for cursors used by hand -/

/-- What can be asked of a cursor. -/
inductive Call
  | peek
  | read
  | textBetween (first last : Int)
deriving DecidableEq, Repr

/-- What a cursor answers. -/
inductive Answer
  | codePoint (c : Option CodePoint)
  | text (t : Text)
  | fault (f : Fault)
  | undecodable (e : Utf8.DecodeError)
deriving DecidableEq, Repr

/-- The answer to a call, and the cursor after it. -/
def perform (r : Cursor) : Call → Answer × Cursor
  | .peek => match r.peek with
    | (.ok c, r) => (.codePoint c, r)
    | (.error f, r) => (.fault f, r)
  | .read => match r.read with
    | (.ok c, r) => (.codePoint c, r)
    | (.error f, r) => (.fault f, r)
  | .textBetween first last => match r.textBetween first last with
    | .ok t => (.text t, r)
    | .error e => (.undecodable e, r)

/-- The answers to calls made one after another, each with the cursor after it. -/
def trace (r : Cursor) : List Call → List (Answer × Cursor)
  | [] => []
  | call :: calls => r.perform call :: trace (r.perform call).2 calls

end Cursor

end ParenTokens
