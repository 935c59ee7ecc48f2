import Mathlib
import ParenTokens.Proofs.Diagnostics

namespace ParenTokens

/-!
# Lines and columns as coordinates

Line and column of a position are counted in the text before it.  They move with the position by a simple rule, never
meet again, and lead back to the position through the lines of the text.

* `Text.lineColumn_natCast` — line and column by the newlines and the last line before a position.
* `Text.lineColumn_succ` — one position on: a newline begins a line, anything else a column.
* `Text.lineColumn_lt_succ`, `Text.lineColumn_strictMono` — so places come in the order of their positions.
* `Text.splitOn_newline_append` — the lines of a text that is cut at a position; `Text.length_lines_before` counts the
  code points before it.
* `Text.lineColumn_exact` — all of it.
-/

namespace Text

/-! ### One position on -/

theorem takeTo_natCast (t : Text) (p : Nat) : t.takeTo p = t.take p := by
  have hneg : ¬ (p : Int) < 0 := by omega
  rw [takeTo, Slice.bound, if_neg hneg, Int.toNat_natCast, ← List.take_eq_take_min]

/-- Beyond the end of the text the columns go on on the last line. -/
theorem lineColumn_natCast (t : Text) (p : Nat) : t.lineColumn p =
    ((t.take p).count newline + 1, ((p - (t.take p).length + (lastLine (t.take p)).length + 1 : Nat) : Int)) := by
  have hcolumn := throughLastNewline_add (t.take p)
  have hlength : (t.take p).length ≤ p := List.length_take_le p t
  rw [lineColumn, takeTo_natCast, Prod.mk.injEq]
  exact ⟨rfl, by omega⟩

theorem lastLine_concat_newline (t : Text) : lastLine (t ++ [newline]) = [] :=
  List.rtakeWhile_concat_neg _ _ _ (by simp)

theorem lastLine_concat {c : CodePoint} (hc : c ≠ newline) (t : Text) : lastLine (t ++ [c]) = lastLine t ++ [c] :=
  List.rtakeWhile_concat_pos _ _ _ (by simpa using hc)

/-- **One position on.** A newline is the last code point of its line; there is none beyond the end of the text. -/
theorem lineColumn_succ (t : Text) (p : Nat) : t.lineColumn (p + 1) =
    if t[p]? = some newline then ((t.lineColumn p).1 + 1, 1)
    else ((t.lineColumn p).1, (t.lineColumn p).2 + 1) := by
  have hsucc : t.lineColumn (p + 1) = t.lineColumn ((p + 1 : Nat) : Int) := rfl
  rw [hsucc, lineColumn_natCast, lineColumn_natCast, List.take_add_one]
  cases hget : t[p]? with
  | none =>
    -- Nothing is left to be counted.
    have hle : t.length ≤ p := List.getElem?_eq_none_iff.1 hget
    rw [if_neg (by simp), Option.toList_none, List.append_nil, List.take_of_length_le hle, Prod.mk.injEq]
    exact ⟨rfl, by omega⟩
  | some c =>
    have hlength : (t.take p).length = p := by
      obtain ⟨hlt, -⟩ := List.getElem?_eq_some_iff.1 hget
      rw [List.length_take]
      omega
    rw [Option.toList_some, List.count_append, List.length_append, hlength, List.length_singleton]
    by_cases hc : c = newline
    · rw [if_pos (by rw [hc]), hc, lastLine_concat_newline, List.count_singleton_self, Prod.mk.injEq]
      exact ⟨rfl, by simp⟩
    · rw [if_neg (by simpa using hc), lastLine_concat hc, List.count_singleton, Prod.mk.injEq]
      refine ⟨by simp [hc], ?_⟩
      rw [List.length_append, List.length_singleton]
      omega

/-- The next place comes after a place. -/
theorem lineColumn_lt_succ (t : Text) (p : Nat) :
    toLex (t.lineColumn p) < toLex (t.lineColumn ((p + 1 : Nat) : Int)) := by
  have hsucc : t.lineColumn ((p + 1 : Nat) : Int) = t.lineColumn (p + 1) := rfl
  rw [hsucc, lineColumn_succ, Prod.Lex.toLex_lt_toLex]
  split
  · exact .inl (Nat.lt_succ_self _)
  · exact .inr ⟨rfl, Int.lt_succ _⟩

/-- **Order.** Places come in the order of their positions, line before column. -/
theorem lineColumn_strictMono (t : Text) : StrictMono fun p : Nat => toLex (t.lineColumn p) :=
  strictMono_nat_of_lt_succ t.lineColumn_lt_succ

/-! ### Back through the lines -/

theorem splitOn_ne_nil (sep : CodePoint) (t : Text) : t.splitOn sep ≠ [] := by
  cases t with
  | nil => simp [splitOn]
  | cons c t =>
    rw [splitOn]
    split
    · simp
    · split <;> simp

theorem splitOn_cons_self (sep : CodePoint) (t : Text) : splitOn sep (sep :: t) = [] :: t.splitOn sep := by
  rw [splitOn, if_pos rfl]

theorem splitOn_cons_of_ne {sep c : CodePoint} (hc : c ≠ sep) (t : Text) :
    splitOn sep (c :: t) = (t.splitOn sep).modifyHead (c :: ·) := by
  rw [splitOn, if_neg hc]
  cases hparts : t.splitOn sep with
  | nil => exact absurd hparts (t.splitOn_ne_nil sep)
  | cons part parts => rfl

/-- **Lines of a text that is cut in two.** The last line before the cut and the first one behind it are one line; all
    other lines stay as they are. -/
theorem splitOn_newline_append (u v : Text) : splitOn newline (u ++ v) =
    (u.splitOn newline).dropLast ++ (v.splitOn newline).modifyHead (u.lastLine ++ ·) := by
  -- From the end of `u`: its last code point goes over to `v`, where it begins a line or stands in front of one.
  induction u using List.reverseRecOn generalizing v with
  | nil =>
    have hsame : List.modifyHead id (splitOn newline v) = splitOn newline v := by rw [List.modifyHead_id, id]
    exact hsame.symm
  | append_singleton u c ih =>
    have hlines := ih [c]
    obtain ⟨line, lines, hv⟩ := List.exists_cons_of_ne_nil (splitOn_ne_nil newline v)
    rw [List.append_assoc, List.singleton_append, ih (c :: v), hlines]
    by_cases hc : c = newline
    · rw [hc, lastLine_concat_newline, splitOn_cons_self, splitOn_cons_self, hv]
      simp [splitOn]
    · rw [lastLine_concat hc, splitOn_cons_of_ne hc, splitOn_cons_of_ne hc, hv]
      simp [splitOn]

/-- The lines of a text in front of its last one, and the last one. -/
theorem splitOn_newline_eq (t : Text) : t.splitOn newline = (t.splitOn newline).dropLast ++ [t.lastLine] := by
  have happend := splitOn_newline_append t []
  have hnil : (splitOn newline []).modifyHead (t.lastLine ++ ·) = [t.lastLine] := by simp [splitOn]
  rwa [List.append_nil, hnil] at happend

/-- There is one line more than there are newlines. -/
theorem length_dropLast_splitOn (sep : CodePoint) (t : Text) : (t.splitOn sep).dropLast.length = t.count sep := by
  have hlength : (t.splitOn sep).length = t.count sep + 1 := by
    induction t with
    | nil => rfl
    | cons c t ih =>
      by_cases hc : c = sep
      · rw [hc, splitOn_cons_self, List.length_cons, ih, List.count_cons_self]
      · rw [splitOn_cons_of_ne hc, List.length_modifyHead, ih, List.count_cons_of_ne hc]
  rw [List.length_dropLast, hlength, Nat.add_sub_cancel]

/-- All code points stand on lines or between two of them. -/
theorem sum_length_splitOn (sep : CodePoint) (t : Text) :
    ((t.splitOn sep).map List.length).sum + t.count sep = t.length := by
  induction t with
  | nil => rfl
  | cons c t ih =>
    by_cases hc : c = sep
    · rw [hc, splitOn_cons_self, List.map_cons, List.sum_cons, List.count_cons_self, List.length_cons, List.length_nil]
      omega
    · obtain ⟨line, lines, hlines⟩ := List.exists_cons_of_ne_nil (splitOn_ne_nil sep t)
      rw [hlines, List.map_cons, List.sum_cons] at ih
      rw [splitOn_cons_of_ne hc, hlines, List.modifyHead_cons, List.map_cons, List.sum_cons, List.count_cons_of_ne hc,
        List.length_cons, List.length_cons]
      omega

/-- **Counted by lines.** The lines before the last one, their newlines, and what stands on the last one. -/
theorem length_lines_before (t : Text) :
    ((t.splitOn newline).dropLast.map List.length).sum + t.count newline + t.lastLine.length = t.length := by
  have hsum := sum_length_splitOn newline t
  rw [splitOn_newline_eq, List.map_append, List.sum_append] at hsum
  simp only [List.map_cons, List.map_nil, List.sum_cons, List.sum_nil] at hsum
  omega

/-- The line of a position in a text, and the lines before it. -/
theorem exists_line (t : Text) {p : Nat} (hp : p ≤ t.length) :
    ∃ (l k : Nat) (line : Text), t.lineColumn p = (l + 1, ((k + 1 : Nat) : Int)) ∧
      (t.splitOn newline)[l]? = some line ∧ k ≤ line.length ∧
        p = (((t.splitOn newline).take l).map List.length).sum + l + k := by
  have hlength : (t.take p).length = p := List.length_take_of_le hp
  have hlines := splitOn_newline_append (t.take p) (t.drop p)
  rw [List.take_append_drop] at hlines
  obtain ⟨line, lines, hdrop⟩ := List.exists_cons_of_ne_nil (splitOn_ne_nil newline (t.drop p))
  rw [hdrop, List.modifyHead_cons] at hlines
  have hcount := length_dropLast_splitOn newline (t.take p)
  refine ⟨(t.take p).count newline, (lastLine (t.take p)).length, lastLine (t.take p) ++ line, ?_, ?_, ?_, ?_⟩
  · rw [lineColumn_natCast, hlength, Nat.sub_self, Nat.zero_add]
  · rw [hlines, ← hcount, List.getElem?_append_right (Nat.le_refl _), Nat.sub_self, List.getElem?_cons_zero]
  · rw [List.length_append]
    exact Nat.le_add_right _ _
  · have hbefore := length_lines_before (t.take p)
    rw [hlines, ← hcount, List.take_left, hcount]
    omega

/-- **Lines and columns are coordinates.** Position zero is the first column of the first line.  From a position to the
    next one, in the text or beyond its end, a newline leads to the first column of the next line, and everything else
    to the next column.  So places come in the order of their positions, and different positions have different places.
    Within the text, a position is regained from its place: the lines before it with one newline each, and as many code
    points as it stands behind the start of its line, which are no more than that line has. -/
theorem lineColumn_exact (t : Text) :
    t.lineColumn 0 = (1, 1) ∧
      (∀ p : Nat, t.lineColumn (p + 1) =
        if t[p]? = some newline then ((t.lineColumn p).1 + 1, 1)
        else ((t.lineColumn p).1, (t.lineColumn p).2 + 1)) ∧
      (StrictMono fun p : Nat => toLex (t.lineColumn p)) ∧
      (Function.Injective fun p : Nat => t.lineColumn p) ∧
      ∀ p : Nat, p ≤ t.length → ∃ (l k : Nat) (line : Text),
        t.lineColumn p = (l + 1, ((k + 1 : Nat) : Int)) ∧ (t.splitOn newline)[l]? = some line ∧ k ≤ line.length ∧
          p = (((t.splitOn newline).take l).map List.length).sum + l + k := by
  refine ⟨t.lineColumn_natCast 0, t.lineColumn_succ, t.lineColumn_strictMono, ?_, fun p hp => t.exists_line hp⟩
  intro p q hpq
  exact t.lineColumn_strictMono.injective (congrArg toLex hpq)

-- At a newline, behind it, at the end of the text and two places beyond that.
example : ([1, 2, 3, 5].map fun p : Nat => lineColumn "a\nb" p) = [(1, 2), (2, 1), (2, 2), (2, 4)] := by decide

end Text

end ParenTokens
