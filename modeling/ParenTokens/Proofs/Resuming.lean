import ParenTokens.Proofs.Reading

namespace ParenTokens

/-!
# Reading on after a refusal

A cursor that refuses a byte has passed over it, so that it can be asked again.  This file follows such calls of `read`
up to the end of the bytes: what each of them passes over, and that nothing is left out or passed twice.

* `Reading` — one call of `read`; `Cursor.readings` — the calls up to the one that finds the end.
* `Reading.Gives`, `Reading.Refuses` — what a call does that gives a code point, or refuses a byte.
* `Cursor.read_of_end`, `Cursor.read_of_undecodable` — the calls that give none; `Cursor.read_cases` — one call.
* `Cursor.flatMap_passed_readings`, `Cursor.length_readings_le` — the bytes passed, and the number of calls.
* `Cursor.readings_of_before` — the code points in front of the first refusal.
* `Cursor.readings_partition` — all of it for a fresh cursor.
-/

/-! ### Calls -/

/-- One call of `read`: the cursor before it, the answer, and the cursor behind it. -/
structure Reading where
  before : Cursor
  answer : Except Fault (Option CodePoint)
  after : Cursor

namespace Reading

/-- The bytes between the two cursors. -/
def passed (x : Reading) : List UInt8 := (x.before.data.extract x.before.offset x.after.offset).toList

/-- The code point that was given, if one was. -/
def codePoint? (x : Reading) : Option CodePoint := x.answer.toOption.join

/-- The answer as a cursor used by hand gives it. -/
def reply (x : Reading) : Cursor.Answer :=
  match x.answer with
  | .ok c => .codePoint c
  | .error f => .fault f

/-- The call gives a scalar, and passes over exactly its bytes. -/
structure Gives (x : Reading) (c : CodePoint) : Prop where
  scalar : c.isScalar = true
  offset_eq : x.after.offset = x.before.offset + c.utf8.length
  passed_eq : x.passed = c.utf8
  position_eq : x.after.position = x.before.position + 1

/-- The call refuses a byte at the place before it. It passes over that byte alone, and does not count it. -/
structure Refuses (x : Reading) (f : Fault) : Prop where
  fault_eq : f = .invalidEncoding x.before.position x.before.offset
  offset_eq : x.after.offset = x.before.offset + 1
  position_eq : x.after.position = x.before.position

end Reading

namespace Cursor

/-- Each place has a text in front of it, perhaps an empty one, and then bytes that begin with no scalar. -/
theorem exists_before (r : Cursor) : ∃ t rest, r.Before t rest := by
  obtain ⟨t, rest, ht, hrest, hbytes⟩ := Utf8.exists_split (r.data.toList.drop r.offset)
  exact ⟨t, rest, hbytes, ht, hrest⟩

theorem read_of_end {r : Cursor} (h : ¬ r.offset < r.data.size) : r.read = (.ok none, r) := by
  have hlook : r.lookahead = none := by
    cases hl : r.lookahead with
    | none => rfl
    | some d => exact absurd (r.lookahead_eq d hl).1 h
  rw [read, fill_of_end h]
  unfold take
  split
  · rfl
  · next hsome => rw [hlook] at hsome; cases hsome
  · next hsome => rw [hlook] at hsome; cases hsome

/-- Where no scalar stands, the byte there is refused and passed over. -/
theorem read_of_undecodable {r : Cursor} {b : UInt8} {rest : List UInt8} (h : r.Before [] (b :: rest)) :
    ∃ r', r.read = (.error (.invalidEncoding r.position r.offset), r') ∧ r'.data = r.data ∧
      r'.offset = r.offset + 1 ∧ r'.position = r.position := by
  have hlook := lookahead_of_before_nil h
  rw [if_neg (List.cons_ne_nil b rest)] at hlook
  unfold read take
  split
  · next hnone => rw [hlook] at hnone; cases hnone
  · next hsome => rw [hlook] at hsome; cases hsome
  · next hinvalid =>
    refine ⟨_, Prod.ext ?_ rfl, ?_, ?_, ?_⟩
    · simp
    · simp [passing]
    · simp [passing, Decoded.width]
    · simp [passing]

/-- Behind a byte that was refused the next bytes are ahead. -/
theorem Before.bytes_of_refused {r r' : Cursor} {b : UInt8} {rest : List UInt8} (h : r.Before [] (b :: rest))
    (hdata : r'.data = r.data) (hoffset : r'.offset = r.offset + 1) : r'.data.toList.drop r'.offset = rest := by
  have hbytes : r.data.toList.drop r.offset = b :: rest := h.bytes_eq
  rw [hdata, hoffset, ← List.drop_drop, hbytes, List.drop_one, List.tail_cons]

/-- **One call.** It finds the end and stays, gives the scalar in front and passes its bytes, or refuses one byte. -/
theorem read_cases (r : Cursor) :
    (¬ r.offset < r.data.size ∧ r.read = (.ok none, r)) ∨
      (∃ c t rest r', r.Before (c :: t) rest ∧ r.read = (.ok (some c), r') ∧ r.Passes [c] r') ∨
        ∃ b rest r', r.Before [] (b :: rest) ∧ r.read = (.error (.invalidEncoding r.position r.offset), r') ∧
          r'.data = r.data ∧ r'.offset = r.offset + 1 ∧ r'.position = r.position := by
  obtain ⟨t, rest, h⟩ := r.exists_before
  cases t with
  | cons c t =>
    obtain ⟨r', hread, hpass⟩ := read_of_before h
    exact .inr (.inl ⟨c, t, rest, r', h, hread, hpass⟩)
  | nil =>
    cases rest with
    | nil =>
      have hend : ¬ r.offset < r.data.size := by simp [h.offset_lt_iff]
      exact .inl ⟨hend, read_of_end hend⟩
    | cons b rest =>
      obtain ⟨r', hread, hplace⟩ := read_of_undecodable h
      exact .inr (.inr ⟨b, rest, r', h, hread, hplace⟩)

theorem end_of_read {r r' : Cursor} (h : r.read = (.ok none, r')) : ¬ r.offset < r.data.size ∧ r' = r := by
  rcases r.read_cases with ⟨hend, hread⟩ | ⟨c, t, rest, s, -, hread, -⟩ | ⟨b, rest, s, -, hread, -⟩
  · rw [hread] at h
    cases h
    exact ⟨hend, rfl⟩
  · rw [hread] at h
    cases h
  · rw [hread] at h
    cases h

/-- A call that is answered with anything but the end leaves fewer bytes. -/
theorem remaining_read_lt {r : Cursor} (h : r.read.1 ≠ .ok none) : r.read.2.remaining < r.remaining := by
  have hbytes : r.offset < r.data.size := by
    by_contra hend
    exact h (by rw [read_of_end hend])
  have hlook : r.fill.lookahead = some (decodeAt r.data r.offset) := by simp [hbytes]
  simpa [read] using remaining_take_lt hlook

/-- No call changes the bytes, and none goes back in them. -/
theorem place_read (r : Cursor) : r.read.2.data = r.data ∧ r.offset ≤ r.read.2.offset := by
  rcases r.read_cases with ⟨-, hread⟩ | ⟨c, t, rest, r', -, hread, hpass⟩ | ⟨b, rest, r', -, hread, hdata, hoffset, -⟩
  · rw [hread]
    exact ⟨rfl, Nat.le_refl _⟩
  · rw [hread]
    exact ⟨hpass.data_eq, hpass.offset_eq ▸ Nat.le_add_right _ _⟩
  · rw [hread]
    exact ⟨hdata, hoffset ▸ Nat.le_succ _⟩

end Cursor

/-! ### Calls up to the end -/

namespace Reading

/-- The cursors and the answer belong together. -/
def Made (x : Reading) : Prop := x.before.read = (x.answer, x.after)

theorem Made.passed_append {x : Reading} (h : x.Made) :
    x.passed ++ x.after.data.toList.drop x.after.offset = x.before.data.toList.drop x.before.offset := by
  have hplace := x.before.place_read
  rw [h] at hplace
  obtain ⟨hdata, hle⟩ := hplace
  have hdrop : x.before.data.toList.drop x.after.offset =
      (x.before.data.toList.drop x.before.offset).drop (x.after.offset - x.before.offset) := by
    rw [List.drop_drop, Nat.add_sub_cancel' hle]
  rw [passed, Array.toList_extract, List.extract_eq_take_drop, hdata, hdrop, List.take_append_drop]

theorem Made.gives {x : Reading} (h : x.Made) {c : CodePoint} (hc : x.answer = .ok (some c)) : x.Gives c := by
  have happend := h.passed_append
  rw [Made, hc] at h
  rcases x.before.read_cases with ⟨-, hread⟩ | ⟨d, t, rest, r', hbefore, hread, hpass⟩ |
    ⟨b, rest, r', -, hread, -⟩
  · rw [hread] at h
    cases h
  · rw [hread] at h
    obtain ⟨rfl, rfl⟩ : d = c ∧ r' = x.after := by simpa using h
    have hoffset : x.after.offset = x.before.offset + d.utf8.length := by simpa using hpass.offset_eq
    refine ⟨(Text.isScalar_cons.1 hbefore.scalar).1, hoffset, ?_, by simpa using hpass.position_eq⟩
    rw [passed, Array.toList_extract, List.extract_eq_take_drop, hbefore.bytes_eq, hoffset,
      Nat.add_sub_cancel_left, Text.utf8_cons, List.append_assoc, List.take_left]
  · rw [hread] at h
    cases h

theorem Made.refuses {x : Reading} (h : x.Made) {f : Fault} (hf : x.answer = .error f) : x.Refuses f := by
  rw [Made, hf] at h
  rcases x.before.read_cases with ⟨-, hread⟩ | ⟨c, t, rest, r', -, hread, -⟩ |
    ⟨b, rest, r', -, hread, -, hoffset, hposition⟩
  · rw [hread] at h
    cases h
  · rw [hread] at h
    cases h
  · rw [hread] at h
    obtain ⟨rfl, rfl⟩ : _ = f ∧ r' = x.after := by simpa using h
    exact ⟨rfl, hoffset, hposition⟩

end Reading

namespace Cursor

/-- The calls of `read` up to and with the first one that finds the end. A refusal does not stop them. -/
def readings (r : Cursor) : List Reading :=
  match _h : r.read with
  | (.ok none, r') => [⟨r, .ok none, r'⟩]
  | (.ok (some c), r') => ⟨r, .ok (some c), r'⟩ :: readings r'
  | (.error f, r') => ⟨r, .error f, r'⟩ :: readings r'
termination_by r.remaining
decreasing_by
  all_goals
    have hlt := remaining_read_lt (r := r)
    rw [_h] at hlt
    exact hlt (by simp)

theorem readings_of_end {r r' : Cursor} (h : r.read = (.ok none, r')) : r.readings = [⟨r, .ok none, r'⟩] := by
  unfold readings
  split
  · next hread => rw [hread] at h; cases h; rfl
  · next hread => rw [hread] at h; cases h
  · next hread => rw [hread] at h; cases h

theorem readings_of_ne {r r' : Cursor} {a : Except Fault (Option CodePoint)} (h : r.read = (a, r'))
    (ha : a ≠ .ok none) : r.readings = ⟨r, a, r'⟩ :: r'.readings := by
  rw [readings]
  split
  · next hread => rw [hread] at h; cases h; exact absurd rfl ha
  · next hread => rw [hread] at h; cases h; rfl
  · next hread => rw [hread] at h; cases h; rfl

/-- The calls one after another, by what `read` answers. -/
theorem readings_induction {motive : Cursor → List Reading → Prop}
    (finish : ∀ r r', r.read = (.ok none, r') → motive r [⟨r, .ok none, r'⟩])
    (step : ∀ r a r', r.read = (a, r') → a ≠ .ok none → motive r' r'.readings →
      motive r (⟨r, a, r'⟩ :: r'.readings)) (r : Cursor) : motive r r.readings := by
  fun_induction readings r with
  | case1 r r' hread => exact finish r r' hread
  | case2 r c r' hread ih => exact step r _ r' hread (by simp) ih
  | case3 r f r' hread ih => exact step r _ r' hread (by simp) ih

theorem made_of_mem_readings (r : Cursor) : ∀ x ∈ r.readings, x.Made := by
  induction r using readings_induction with
  | finish r r' hread => simpa [Reading.Made] using hread
  | step r a r' hread ha ih => exact List.forall_mem_cons.2 ⟨hread, ih⟩

/-- The passed bytes are those ahead of the cursor, in order. -/
theorem flatMap_passed_readings (r : Cursor) :
    r.readings.flatMap Reading.passed = r.data.toList.drop r.offset := by
  induction r using readings_induction with
  | finish r r' hread =>
    obtain ⟨hend, rfl⟩ := end_of_read hread
    have hdrop : r'.data.toList.drop r'.offset = [] := List.drop_eq_nil_iff.2 (by simpa using hend)
    have happend := Reading.Made.passed_append (x := ⟨r', .ok none, r'⟩) hread
    rw [hdrop, List.append_nil] at happend
    simp [happend, hdrop]
  | step r a r' hread ha ih =>
    rw [List.flatMap_cons, ih]
    exact Reading.Made.passed_append (x := ⟨r, a, r'⟩) hread

/-- Each call but the last passes over at least one byte. -/
theorem length_readings_le (r : Cursor) : r.readings.length ≤ r.remaining + 1 := by
  induction r using readings_induction with
  | finish r r' hread => simp
  | step r a r' hread ha ih =>
    have hlt : r'.remaining < r.remaining := by
      simpa [hread] using remaining_read_lt (r := r) (by rw [hread]; exact ha)
    rw [List.length_cons]
    omega

/-- The last call finds the end, and no call before it does. -/
theorem exists_readings_eq_append (r : Cursor) : ∃ calls last, r.readings = calls ++ [last] ∧
    last.answer = .ok none ∧ ∀ x ∈ calls, x.answer ≠ .ok none := by
  induction r using readings_induction with
  | finish r r' hread => exact ⟨[], _, rfl, rfl, by simp⟩
  | step r a r' hread ha ih =>
    obtain ⟨calls, last, hcalls, hlast, hne⟩ := ih
    exact ⟨⟨r, a, r'⟩ :: calls, last, by rw [hcalls, List.cons_append], hlast, List.forall_mem_cons.2 ⟨ha, hne⟩⟩

/-- These are the calls that reading by hand makes. -/
theorem trace_readings (r : Cursor) :
    r.trace (List.replicate r.readings.length .read) = r.readings.map fun x => (x.reply, x.after) := by
  have hperform : ∀ {r r' : Cursor} {a}, r.read = (a, r') → r.perform .read = ((⟨r, a, r'⟩ : Reading).reply, r') := by
    intro r r' a hread
    cases a with
    | ok c => simp [perform, hread, Reading.reply]
    | error f => simp [perform, hread, Reading.reply]
  induction r using readings_induction with
  | finish r r' hread => simp [trace, hperform hread]
  | step r a r' hread ha ih => simp [List.replicate_succ, trace, hperform hread, ih]

/-- **In front of the first refusal.** The calls before it give the code points that stand there one by one. -/
theorem readings_of_before {r : Cursor} {t : Text} {rest : List UInt8} (h : r.Before t rest) :
    ∃ xs r', r.readings = xs ++ r'.readings ∧ xs.map Reading.answer = t.map (fun c => .ok (some c)) ∧
      r.Passes t r' ∧ r'.Before [] rest := by
  induction t generalizing r with
  | nil => exact ⟨[], r, rfl, rfl, ⟨rfl, by simp, by simp⟩, h⟩
  | cons c t ih =>
    obtain ⟨r₁, hread, hpass⟩ := read_of_before h
    obtain ⟨xs, r', hmore, hanswers, hpass', hbefore⟩ := ih (h.of_passes (u := [c]) hpass)
    refine ⟨⟨r, .ok (some c), r₁⟩ :: xs, r', ?_, by rw [List.map_cons, hanswers, List.map_cons], hpass.trans hpass',
      hbefore⟩
    rw [readings_of_ne hread (by simp), hmore, List.cons_append]

/-- No call is refused iff the bytes ahead are a text in full. -/
theorem forall_not_refused_iff {r : Cursor} {t : Text} {rest : List UInt8} (h : r.Before t rest) :
    (∀ x ∈ r.readings, ∀ f, x.answer ≠ .error f) ↔ rest = [] := by
  obtain ⟨xs, r', hsplit, hanswers, -, hbefore⟩ := readings_of_before h
  constructor
  · intro hnone
    cases rest with
    | nil => rfl
    | cons b rest =>
      obtain ⟨r₁, hread, -⟩ := read_of_undecodable hbefore
      rw [hsplit, readings_of_ne hread (by simp)] at hnone
      exact absurd rfl (hnone _ (List.mem_append_right xs List.mem_cons_self) _)
  · rintro rfl
    have hread := read_of_end (r := r') (by simp [hbefore.offset_lt_iff])
    rw [hsplit, readings_of_end hread]
    intro x hx f hf
    rcases List.mem_append.1 hx with hx | hx
    · have hmem := List.mem_map_of_mem (f := Reading.answer) hx
      rw [hanswers, hf] at hmem
      simp at hmem
    · rw [List.mem_singleton.1 hx] at hf
      cases hf

/-- The calls in front of a text in full give all of it, and end behind it. -/
theorem codePoints_readings {r : Cursor} {t : Text} (h : r.Before t []) :
    r.readings.filterMap Reading.codePoint? = t ∧
      r.readings.getLast?.map (·.after.position) = some (r.position + t.length) := by
  obtain ⟨xs, r', hsplit, hanswers, hpass, hbefore⟩ := readings_of_before h
  have hread := read_of_end (r := r') (by simp [hbefore.offset_lt_iff])
  have hgiven : xs.filterMap Reading.codePoint? = t := by
    have hmap := congrArg (List.filterMap fun a : Except Fault (Option CodePoint) => a.toOption.join) hanswers
    rw [List.filterMap_map, List.filterMap_map] at hmap
    exact hmap.trans (List.filterMap_some)
  rw [hsplit, readings_of_end hread]
  constructor
  · rw [List.filterMap_append, hgiven]
    simp [Reading.codePoint?, Except.toOption]
  · rw [List.getLast?_concat]
    exact congrArg some hpass.position_eq

/-! ### A fresh cursor -/

/-- **Partition.** `read` is called on a fresh cursor until it finds the end, also after refusals. That takes at most
    one call more than there are bytes. Each call that gives a code point passes over exactly its bytes and counts it;
    each refusal names the place before it and passes over one byte, which is not counted; what was passed makes up
    the bytes in order. No call is refused iff the bytes are UTF-8, and then the code points given are those they
    encode, and are all counted in the end. -/
theorem readings_partition (data : Array UInt8) :
    ((ofBytes data).trace (List.replicate (ofBytes data).readings.length .read) =
        (ofBytes data).readings.map fun x => (x.reply, x.after)) ∧
      (∃ calls last, (ofBytes data).readings = calls ++ [last] ∧ last.answer = .ok none ∧
        ∀ x ∈ calls, x.answer ≠ .ok none) ∧
      (ofBytes data).readings.length ≤ data.size + 1 ∧
      (∀ x ∈ (ofBytes data).readings, ∀ c, x.answer = .ok (some c) → x.Gives c) ∧
      (∀ x ∈ (ofBytes data).readings, ∀ f, x.answer = .error f → x.Refuses f) ∧
      (ofBytes data).readings.flatMap Reading.passed = data.toList ∧
      ((∀ x ∈ (ofBytes data).readings, ∀ f, x.answer ≠ .error f) ↔ ∃ t, Utf8.decode data.toList = .ok t) ∧
      ∀ t, Utf8.decode data.toList = .ok t →
        (ofBytes data).readings.filterMap Reading.codePoint? = t ∧
          (ofBytes data).readings.getLast?.map (·.after.position) = some t.length := by
  have hmade := (ofBytes data).made_of_mem_readings
  obtain ⟨t, rest, hbefore⟩ := (ofBytes data).exists_before
  have hbytes : data.toList = t.utf8 ++ rest := hbefore.bytes_eq
  -- The bytes decode iff nothing is left behind the longest text in front of them.
  have hdecode : ∀ u, Utf8.decode data.toList = .ok u → rest = [] ∧ u = t := by
    intro u hu
    obtain ⟨hscalar, hutf8⟩ := Utf8.decode_eq_ok_iff.1 hu
    have hsplit : t.utf8 ++ rest = u.utf8 ++ [] := by rw [← hbytes, hutf8, List.append_nil]
    obtain ⟨htext, hrest⟩ := Utf8.split_unique hbefore.scalar hscalar hbefore.undecodable Utf8.undecodable_nil hsplit
    exact ⟨hrest, htext.symm⟩
  refine ⟨trace_readings _, exists_readings_eq_append _, length_readings_le _, fun x hx c hc => (hmade x hx).gives hc,
    fun x hx f hf => (hmade x hx).refuses hf, flatMap_passed_readings _, ?_, ?_⟩
  · rw [forall_not_refused_iff hbefore]
    constructor
    · rintro rfl
      exact ⟨t, Utf8.decode_eq_ok_iff.2 ⟨hbefore.scalar, by rw [hbytes, List.append_nil]⟩⟩
    · rintro ⟨u, hu⟩
      exact (hdecode u hu).1
  · intro u hu
    obtain ⟨rfl, rfl⟩ := hdecode u hu
    have hgiven := codePoints_readings hbefore
    rwa [show (ofBytes data).position = 0 from rfl, Nat.zero_add] at hgiven

-- A sequence cut short is refused byte by byte, and what follows it is read as if it stood alone.
example : ((ofBytes #[0xE2, 0x82, 0x61]).trace (List.replicate 4 .read)).map (fun p => (p.1, p.2.offset, p.2.position)) =
    [(.fault (.invalidEncoding 0 0), 1, 0), (.fault (.invalidEncoding 0 1), 2, 0),
      (.codePoint (some 'a'), 3, 1), (.codePoint none, 3, 1)] := by
  decide +kernel

end Cursor

end ParenTokens
