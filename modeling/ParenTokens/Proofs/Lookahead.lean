import ParenTokens.Lexing.Cursor

namespace ParenTokens

/-!
# The lookahead cannot be seen

A cursor keeps what it decoded at its place.  Here it is compared with one that keeps nothing: both answer every call
alike and show the same place after it, whatever was asked before, so that the lookahead only saves work.

* `BareCursor` — a cursor without a lookahead, which decodes anew for each call.
* `Cursor.Place`, `Cursor.steps`, `BareCursor.steps` — what can be seen of calls made one after another;
  `Cursor.after`, `BareCursor.after` — the cursor they leave.
* `Cursor.perform_bare`, `Cursor.steps_bare` — one call, and any calls, on both.
* `BareCursor.perform_of_looks` — a call that only looks leaves everything as it is.
* `Cursor.kept` — what is left of calls, or of their steps, when some calls that only look are deleted;
  `BareCursor.steps_kept`, `BareCursor.after_kept` — deleting them changes nothing else.
* `Cursor.steps_eq_bare` — all of it for a fresh cursor.
-/

namespace Cursor

/-- What a cursor shows of itself. -/
structure Place where
  position : Nat
  offset : Nat
  atEnd : Bool
deriving DecidableEq, Repr

def place (r : Cursor) : Place := ⟨r.position, r.offset, r.atEnd⟩

/-- The answers to calls made one after another, each with the place shown after it. -/
def steps (r : Cursor) (calls : List Call) : List (Answer × Place) := (r.trace calls).map fun p => (p.1, p.2.place)

theorem steps_cons (r : Cursor) (call : Call) (calls : List Call) :
    r.steps (call :: calls) = ((r.perform call).1, (r.perform call).2.place) :: (r.perform call).2.steps calls := rfl

/-- The cursor after calls made one after another. -/
def after (r : Cursor) (calls : List Call) : Cursor := calls.foldl (fun r call => (r.perform call).2) r

end Cursor

/-! ### Cursors without a lookahead -/

/-- A place in some bytes, and nothing else. -/
structure BareCursor where
  data : Array UInt8
  offset : Nat
  position : Nat

namespace BareCursor

open Cursor (Call Answer Place)

/-- The bare cursor at the start of some bytes. -/
def ofBytes (data : Array UInt8) : BareCursor := ⟨data, 0, 0⟩

def atEnd (r : BareCursor) : Bool := r.data.size ≤ r.offset

def place (r : BareCursor) : Place := ⟨r.position, r.offset, r.atEnd⟩

/-- What stands at the place, decoded anew; nothing at the end. -/
def here (r : BareCursor) : Option Decoded :=
  if r.offset < r.data.size then some (decodeAt r.data r.offset) else none

/-- The code point at the place, or none at the end. -/
def peek (r : BareCursor) : Except Fault (Option CodePoint) :=
  match r.here with
  | none => .ok none
  | some (.codePoint c _) => .ok (some c)
  | some .invalid => .error (.invalidEncoding r.position r.offset)

/-- The code point at the place, or none at the end, and the cursor behind it. A byte that starts no code point is
passed over too, but not counted. -/
def read (r : BareCursor) : Except Fault (Option CodePoint) × BareCursor :=
  match r.here with
  | none => (.ok none, r)
  | some (.codePoint c width) => (.ok (some c), { r with offset := r.offset + width, position := r.position + 1 })
  | some .invalid => (.error (.invalidEncoding r.position r.offset), { r with offset := r.offset + 1 })

/-- The text that the bytes between two offsets encode; the offsets are bounds of a slice. -/
def textBetween (r : BareCursor) (first last : Int) : Except Utf8.DecodeError Text :=
  Utf8.decode (r.data.extract (Slice.bound r.data.size first) (Slice.bound r.data.size last)).toList

/-- The answer to a call, and the cursor after it. -/
def perform (r : BareCursor) : Call → Answer × BareCursor
  | .peek => match r.peek with
    | .ok c => (.codePoint c, r)
    | .error f => (.fault f, r)
  | .read => match r.read with
    | (.ok c, r) => (.codePoint c, r)
    | (.error f, r) => (.fault f, r)
  | .textBetween first last => match r.textBetween first last with
    | .ok t => (.text t, r)
    | .error e => (.undecodable e, r)

/-- The answers to calls made one after another, each with the place shown after it. -/
def steps (r : BareCursor) : List Call → List (Answer × Place)
  | [] => []
  | call :: calls => ((r.perform call).1, (r.perform call).2.place) :: steps (r.perform call).2 calls

/-- The cursor after calls made one after another. -/
def after (r : BareCursor) (calls : List Call) : BareCursor := calls.foldl (fun r call => (r.perform call).2) r

theorem after_cons (r : BareCursor) (call : Call) (calls : List Call) :
    r.after (call :: calls) = (r.perform call).2.after calls := rfl

end BareCursor

/-! ### One call on both -/

namespace Cursor

/-- The same place, without the lookahead. -/
def bare (r : Cursor) : BareCursor := ⟨r.data, r.offset, r.position⟩

@[simp] theorem place_bare (r : Cursor) : r.bare.place = r.place := rfl

@[simp] theorem bare_fill (r : Cursor) : r.fill.bare = r.bare := by simp [bare]

/-- A filled lookahead holds what a bare cursor decodes, and an empty one is filled before it is used. -/
theorem lookahead_fill_eq_here (r : Cursor) : r.fill.lookahead = r.bare.here := lookahead_fill r

theorem peek_bare (r : Cursor) : r.peek = (r.bare.peek, r.fill) := by
  unfold peek BareCursor.peek
  split
  · next hlook => rw [lookahead_fill_eq_here] at hlook; rw [hlook]
  · next hlook => rw [lookahead_fill_eq_here] at hlook; rw [hlook]
  · next hlook => rw [lookahead_fill_eq_here] at hlook; rw [hlook]; rfl

theorem read_bare (r : Cursor) : (r.read.1, r.read.2.bare) = r.bare.read := by
  unfold read take BareCursor.read
  split
  · next hlook => rw [lookahead_fill_eq_here] at hlook; rw [hlook, bare_fill]
  · next hlook => rw [lookahead_fill_eq_here] at hlook; rw [hlook]; simp [bare, passing, Decoded.width]
  · next hlook => rw [lookahead_fill_eq_here] at hlook; rw [hlook]; simp [bare, passing, Decoded.width]

/-- **One call.** Both cursors give the same answer, and stand at the same place after it. -/
theorem perform_bare (r : Cursor) (call : Call) :
    ((r.perform call).1, (r.perform call).2.bare) = r.bare.perform call := by
  cases call with
  | peek =>
    rw [perform, BareCursor.perform, peek_bare]
    cases r.bare.peek with
    | ok c => simp
    | error f => simp
  | read =>
    have hread := read_bare r
    rw [perform, BareCursor.perform, ← hread]
    rcases r.read with ⟨c | f, r'⟩ <;> rfl
  | textBetween first last =>
    have htext : r.bare.textBetween first last = r.textBetween first last := rfl
    rw [perform, BareCursor.perform, htext]
    cases r.textBetween first last <;> rfl

/-- **Any calls.** What can be seen of them is the same on both cursors, whatever the lookahead holds at first. -/
theorem steps_bare (r : Cursor) (calls : List Call) : r.steps calls = r.bare.steps calls := by
  induction calls generalizing r with
  | nil => rfl
  | cons call calls ih =>
    rw [steps_cons, BareCursor.steps, ← perform_bare, ih, place_bare]

theorem bare_after (r : Cursor) (calls : List Call) : (r.after calls).bare = r.bare.after calls := by
  induction calls generalizing r with
  | nil => rfl
  | cons call calls ih =>
    rw [BareCursor.after_cons, ← perform_bare]
    exact ih (r.perform call).2

/-! ### Calls that only look -/

/-- Whether a call moves nothing. -/
def Call.looks : Call → Bool
  | .peek | .textBetween _ _ => true
  | .read => false

/-- What is left of a list with one item for each call when calls are deleted: those that are marked and only look. -/
def kept {α : Type} (marked : List (Call × Bool)) (items : List α) : List α :=
  ((marked.zip items).filter fun p => !(p.1.1.looks && p.1.2)).map Prod.snd

section Kept

variable {α : Type} {m : Call × Bool} (marked : List (Call × Bool)) (x : α) (items : List α)

theorem kept_cons_of_deleted (h : (m.1.looks && m.2) = true) :
    kept (m :: marked) (x :: items) = kept marked items := by
  rw [kept, List.zip_cons_cons, List.filter_cons_of_neg (by rw [h]; decide), kept]

theorem kept_cons_of_not_deleted (h : (m.1.looks && m.2) = false) :
    kept (m :: marked) (x :: items) = x :: kept marked items := by
  rw [kept, List.zip_cons_cons, List.filter_cons_of_pos (by rw [h]; decide), List.map_cons, kept]

end Kept

end Cursor

namespace BareCursor

open Cursor (Call Answer Place kept)

theorem perform_of_looks (r : BareCursor) {call : Call} (h : call.looks = true) : (r.perform call).2 = r := by
  cases call with
  | peek =>
    rw [perform]
    cases r.peek <;> rfl
  | read => cases h
  | textBetween first last =>
    rw [perform]
    cases r.textBetween first last <;> rfl

/-- **Deletion.** The steps of the calls that are kept are the steps that are kept of all calls. -/
theorem steps_kept (r : BareCursor) (marked : List (Call × Bool)) :
    r.steps (kept marked (marked.map Prod.fst)) = kept marked (r.steps (marked.map Prod.fst)) := by
  induction marked generalizing r with
  | nil => rfl
  | cons m marked ih =>
    rw [List.map_cons, steps]
    cases h : m.1.looks && m.2 with
    | true =>
      -- The deleted call would have left the cursor where it is.
      have hlooks : m.1.looks = true := (Bool.and_eq_true_iff.1 h).1
      rw [Cursor.kept_cons_of_deleted _ _ _ h, Cursor.kept_cons_of_deleted _ _ _ h, perform_of_looks r hlooks, ih]
    | false =>
      rw [Cursor.kept_cons_of_not_deleted _ _ _ h, Cursor.kept_cons_of_not_deleted _ _ _ h, steps, ih]

theorem after_kept (r : BareCursor) (marked : List (Call × Bool)) :
    r.after (kept marked (marked.map Prod.fst)) = r.after (marked.map Prod.fst) := by
  induction marked generalizing r with
  | nil => rfl
  | cons m marked ih =>
    rw [List.map_cons, after_cons]
    cases h : m.1.looks && m.2 with
    | true =>
      have hlooks : m.1.looks = true := (Bool.and_eq_true_iff.1 h).1
      rw [Cursor.kept_cons_of_deleted _ _ _ h, perform_of_looks r hlooks, ih]
    | false => rw [Cursor.kept_cons_of_not_deleted _ _ _ h, after_cons, ih]

/-- A look gives what reading would give. -/
theorem answer_peek_eq_read (r : BareCursor) : (r.perform .peek).1 = (r.perform .read).1 := by
  unfold perform peek read
  cases r.here with
  | none => rfl
  | some d => cases d <;> rfl

end BareCursor

/-! ### A fresh cursor -/

namespace Cursor

/-- A look gives what the read right after it gives. -/
theorem answer_peek_eq_read (r : Cursor) : (r.perform .peek).1 = ((r.perform .peek).2.perform .read).1 := by
  have hstay : (r.perform .peek).2.bare = r.bare :=
    (congrArg Prod.snd (r.perform_bare .peek)).trans (r.bare.perform_of_looks rfl)
  calc (r.perform .peek).1
    _ = (r.bare.perform .peek).1 := congrArg Prod.fst (r.perform_bare .peek)
    _ = (r.bare.perform .read).1 := r.bare.answer_peek_eq_read
    _ = ((r.perform .peek).2.bare.perform .read).1 := by rw [hstay]
    _ = ((r.perform .peek).2.perform .read).1 :=
      (congrArg Prod.fst ((r.perform .peek).2.perform_bare .read)).symm

/-- **The lookahead cannot be seen.** A text counts as its bytes. Any calls on a fresh cursor give the answers and show
    the places that they would without a lookahead, refusals among them. Calls that only look can be deleted: all other
    steps stay as they are, and so do the place in the end and whatever is called from there. And a look gives what the
    read right after it gives. -/
theorem steps_eq_bare (data : Array UInt8) :
    (∀ t : Text, ofText t = ofBytes t.utf8.toArray) ∧
      (∀ calls, (ofBytes data).steps calls = (BareCursor.ofBytes data).steps calls) ∧
      (∀ marked, (ofBytes data).steps (kept marked (marked.map Prod.fst)) =
          kept marked ((ofBytes data).steps (marked.map Prod.fst)) ∧
        ((ofBytes data).after (kept marked (marked.map Prod.fst))).place =
          ((ofBytes data).after (marked.map Prod.fst)).place ∧
        ∀ more, ((ofBytes data).after (kept marked (marked.map Prod.fst))).steps more =
          ((ofBytes data).after (marked.map Prod.fst)).steps more) ∧
      ∀ calls, (((ofBytes data).after calls).perform .peek).1 =
        ((((ofBytes data).after calls).perform .peek).2.perform .read).1 := by
  have hbare : ∀ calls, (ofBytes data).steps calls = (BareCursor.ofBytes data).steps calls :=
    fun calls => steps_bare _ calls
  refine ⟨fun t => rfl, hbare, ?_, fun calls => answer_peek_eq_read _⟩
  intro marked
  have hafter : ((ofBytes data).after (kept marked (marked.map Prod.fst))).bare =
      ((ofBytes data).after (marked.map Prod.fst)).bare := by
    rw [bare_after, bare_after, BareCursor.after_kept]
  refine ⟨?_, ?_, fun more => ?_⟩
  · rw [hbare, hbare, BareCursor.steps_kept]
  · rw [← place_bare, ← place_bare, hafter]
  · rw [steps_bare, steps_bare, hafter]

-- A byte refused twice by looks is refused once more by the read that passes over it.
example : ((ofBytes #[0xFF, 0x61]).steps [.peek, .peek, .read, .peek]).map Prod.fst =
    [.fault (.invalidEncoding 0 0), .fault (.invalidEncoding 0 0), .fault (.invalidEncoding 0 0),
      .codePoint (some 'a')] := by
  decide +kernel

end Cursor

end ParenTokens
