import ParenTokens.Proofs.JsonOutput
import ParenTokens.Proofs.Listings

namespace ParenTokens

/-!
# Only printable code points are shown

Whatever a token's text holds, its line in a listing holds printable code points only, and so does the line of a fault
whose label does: user text reaches either line between quotation marks.  What is printable neither ends a line nor
steers a terminal, so that one entry is one line and no part of an input is taken for a command.

* `RangeTable.contains_iff` — the search by halving finds the range of a number, if the ranges are in order.
* `CodePoint.Disrupts` — the code points that must not reach a terminal; `CodePoint.not_disrupts` — none of them is
  printable.
* `Quoted.isPrintable_quote` — a quoted text is printable, whatever it quotes; `Fault.isPrintable_message`.
* `Entry.isPrintable_line` — the plain line of an entry.
* `Transcript.shown_isPrintable` — the lines of entries and faults.
-/

/-! ### Tables of ranges -/

namespace RangeTable

/-- Neither range ends before it begins, and the first one ends before the second one begins. -/
def Precedes (a b : Nat × Nat) : Prop := a.1 ≤ a.2 ∧ a.2 < b.1 ∧ b.1 ≤ b.2

instance : DecidableRel Precedes := fun _ _ => inferInstanceAs (Decidable (_ ∧ _))

instance : IsTrans (Nat × Nat) Precedes where
  trans := by
    rintro a b c ⟨ha, hab, hb⟩ ⟨-, hbc, hc⟩
    exact ⟨ha, by omega, hc⟩

variable {table : RangeTable} {n : Nat}

/-- A range that is found holds the number, in order or not. -/
theorem exists_of_search {steps lo hi : Nat} (h : search table n steps lo hi = true) :
    ∃ r ∈ table.toList, r.1 ≤ n ∧ n ≤ r.2 := by
  fun_induction search table n steps lo hi with
  | case1 => cases h
  | case2 => cases h
  | case3 _ _ _ _ _ _ _ _ _ ih => exact ih h
  | case4 _ _ _ _ _ _ _ _ _ _ ih => exact ih h
  | case5 _ _ _ _ mid first last hmid hfirst hlast =>
    exact ⟨(first, last), Array.mem_toList_iff.2 (Array.mem_of_getElem? hmid), by omega, by omega⟩
  | case6 => cases h

theorem precedes_of_lt (hsorted : table.toList.Pairwise Precedes) {i j : Nat} {a b : Nat × Nat}
    (ha : table[i]? = some a) (hb : table[j]? = some b) (hij : i < j) : Precedes a b := by
  obtain ⟨hi, rfl⟩ := Array.getElem?_eq_some_iff.1 ha
  obtain ⟨hj, rfl⟩ := Array.getElem?_eq_some_iff.1 hb
  exact List.pairwise_iff_getElem.1 hsorted i j hi hj hij

/-- The range of a number stays between the bounds of the search, since it lies apart from the ranges on either side. -/
theorem search_of_getElem? (hsorted : table.toList.Pairwise Precedes) {k : Nat} {r : Nat × Nat}
    (hr : table[k]? = some r) (hfirst : r.1 ≤ n) (hlast : n ≤ r.2) {steps lo hi : Nat} (hlo : lo ≤ k) (hk : k < hi)
    (hsize : hi ≤ table.size) (hsteps : hi - lo < Nat.pow 2 steps) : search table n steps lo hi = true := by
  fun_induction search table n steps lo hi with
  | case1 lo hi =>
    have hone : Nat.pow 2 0 = 1 := rfl
    omega
  | case2 steps lo hi _ mid hmid =>
    have hle := Array.getElem?_eq_none_iff.1 hmid
    omega
  | case3 steps lo hi hlt mid first last hmid hbelow ih =>
    have hpow : Nat.pow 2 steps.succ = Nat.pow 2 steps * 2 := rfl
    have hbefore : k < mid := by
      rcases Nat.lt_trichotomy k mid with h | rfl | h
      · exact h
      · obtain rfl := Option.some.inj (hmid.symm.trans hr)
        omega
      · obtain ⟨hle, hapart, -⟩ := precedes_of_lt hsorted hmid hr h
        omega
    exact ih hlo hbefore (by omega) (by omega)
  | case4 steps lo hi hlt mid first last hmid _ habove ih =>
    have hpow : Nat.pow 2 steps.succ = Nat.pow 2 steps * 2 := rfl
    have hbehind : mid < k := by
      rcases Nat.lt_trichotomy mid k with h | rfl | h
      · exact h
      · obtain rfl := Option.some.inj (hmid.symm.trans hr)
        omega
      · obtain ⟨-, hapart, hle⟩ := precedes_of_lt hsorted hr hmid h
        omega
    exact ih hbehind hk hsize (by omega)
  | case5 => rfl
  | case6 => omega

/-- **Tables.** Searching ranges in order finds out whether one of them holds a number. -/
theorem contains_iff (hsorted : table.toList.Pairwise Precedes) :
    contains table n = true ↔ ∃ r ∈ table.toList, r.1 ≤ n ∧ n ≤ r.2 := by
  constructor
  · exact exists_of_search
  · rintro ⟨r, hr, hfirst, hlast⟩
    obtain ⟨k, hk⟩ := Array.mem_iff_getElem?.1 (Array.mem_toList_iff.1 hr)
    obtain ⟨hlt, -⟩ := Array.getElem?_eq_some_iff.1 hk
    have hsteps : table.size < 2 ^ (table.size.log2 + 1) := Nat.lt_log2_self
    exact search_of_getElem? hsorted hk hfirst hlast (Nat.zero_le k) hlt (Nat.le_refl _) hsteps

end RangeTable

theorem pairwise_unprintableRanges : unprintableRanges.toList.Pairwise RangeTable.Precedes := by
  rw [← List.isChain_iff_pairwise]
  decide +kernel

/-! ### Printable code points -/

namespace CodePoint

theorem isPrintable_iff {c : CodePoint} :
    c.isPrintable = true ↔ ∀ r ∈ unprintableRanges.toList, c.val < r.1 ∨ r.2 < c.val := by
  rw [isPrintable, Bool.not_eq_true', ← Bool.not_eq_true, RangeTable.contains_iff pairwise_unprintableRanges]
  simp only [not_exists, not_and, Nat.not_le]
  exact forall₂_congr fun r hr => ⟨fun h => by omega, fun h => by omega⟩

theorem IsShown.isPrintable {c : CodePoint} (h : c.IsShown) : c.isPrintable = true := by
  have hranges : ∀ r ∈ unprintableRanges.toList, r.2 < 0x20 ∨ 0x7F ≤ r.1 := by decide +kernel
  rw [isPrintable_iff]
  intro r hr
  have hle : 0x20 ≤ c.val := h.1
  have hlt : c.val < 0x7F := h.2
  have := hranges r hr
  omega

/-- The code points that end a line, steer a terminal or are no characters: controls, the separators of lines and of
paragraphs, and surrogates. -/
def Disrupts (c : CodePoint) : Prop :=
  c.val < 0x20 ∨ (0x7F ≤ c.val ∧ c.val < 0xA0) ∨ c.val = 0x2028 ∨ c.val = 0x2029 ∨ c.isSurrogate = true

theorem not_disrupts {c : CodePoint} (h : c.isPrintable = true) : ¬ c.Disrupts := by
  have hrange : ∀ r ∈ unprintableRanges.toList, ¬ (r.1 ≤ c.val ∧ c.val ≤ r.2) := by
    intro r hr
    have := isPrintable_iff.1 h r hr
    omega
  rintro (hlow | hhigh | hline | hparagraph | hsurrogate)
  · exact hrange (0x0, 0x1F) (by decide +kernel) ⟨by omega, by omega⟩
  · exact hrange (0x7F, 0xA0) (by decide +kernel) ⟨by omega, by omega⟩
  · exact hrange (0x2028, 0x202F) (by decide +kernel) ⟨by omega, by omega⟩
  · exact hrange (0x2028, 0x202F) (by decide +kernel) ⟨by omega, by omega⟩
  · rw [isSurrogate, Bool.and_eq_true, decide_eq_true_eq, decide_eq_true_eq] at hsurrogate
    exact hrange (0xD7FC, 0xF8FF) (by decide +kernel) ⟨by omega, by omega⟩

end CodePoint

namespace Text

/-- A text of printable code points only. -/
def IsPrintable (t : Text) : Prop := ∀ c ∈ t, c.isPrintable = true

instance (t : Text) : Decidable t.IsPrintable := inferInstanceAs (Decidable (∀ c ∈ t, _))

theorem isPrintable_nil : IsPrintable [] := List.forall_mem_nil _

theorem isPrintable_cons {c : CodePoint} {t : Text} :
    IsPrintable (c :: t) ↔ c.isPrintable = true ∧ t.IsPrintable := List.forall_mem_cons

theorem isPrintable_append {t u : Text} : IsPrintable (t ++ u) ↔ t.IsPrintable ∧ u.IsPrintable :=
  List.forall_mem_append

theorem isPrintable_of_isShown {t : Text} (h : ∀ c ∈ t, c.IsShown) : t.IsPrintable :=
  fun c hc => (h c hc).isPrintable

theorem isPrintable_spaces (n : Nat) : (spaces n).IsPrintable := by
  apply isPrintable_of_isShown
  intro c hc
  rw [eq_of_mem_spaces hc]
  decide

end Text

theorem Decimal.isPrintable_ofInt (i : Int) : (ofInt i).IsPrintable :=
  Text.isPrintable_of_isShown fun _ hc => isShown_of_mem_ofInt hc

theorem Decimal.isPrintable_ofNat (n : Nat) : (ofNat n).IsPrintable := isPrintable_ofInt n

/-! ### Quoted texts -/

namespace Quoted

theorem isShown_of_isMark {m : CodePoint} (hm : IsMark m) : m.IsShown := by
  rcases hm with rfl | rfl <;> decide

/-- Between marks a code point stands for itself only if it is printable. -/
theorem isPrintable_escape {m : CodePoint} (hm : IsMark m) (c : CodePoint) : (escape m c).IsPrintable := by
  have hbackslash : backslash.IsShown := by decide
  intro d hd
  rcases mem_escape hd with hshown | ⟨rfl, rfl | rfl | hprintable⟩
  · exact hshown.isPrintable
  · exact (isShown_of_isMark hm).isPrintable
  · exact hbackslash.isPrintable
  · exact hprintable

/-- **Quoted texts.** They are printable, whatever they quote. -/
theorem isPrintable_quote (t : Text) : (quote t).IsPrintable := by
  have hmark := (isShown_of_isMark (isMark_mark t)).isPrintable
  rw [quote, List.cons_append, Text.isPrintable_cons, Text.isPrintable_append, Text.isPrintable_cons]
  refine ⟨hmark, ?_, hmark, Text.isPrintable_nil⟩
  intro d hd
  obtain ⟨c, -, hd⟩ := List.mem_flatMap.1 hd
  exact isPrintable_escape (isMark_mark t) c d hd

end Quoted

/-! ### Lines -/

theorem TokenKind.isPrintable_name (k : TokenKind) : k.name.IsPrintable := by
  apply Text.isPrintable_of_isShown
  cases k <;> decide

namespace Entry

theorem isPrintable_textColumn (e : Entry) : e.textColumn.IsPrintable := by
  rw [textColumn]
  cases e.text with
  | none => exact Text.isPrintable_nil
  | some t =>
    have hspace : (CodePoint.ofChar ' ').IsShown := by decide
    rw [Text.isPrintable_append, Text.isPrintable_cons]
    exact ⟨Text.isPrintable_spaces _, hspace.isPrintable, Quoted.isPrintable_quote t⟩

/-- **Lines of entries.** Each column is printable, the quoted text included. -/
theorem isPrintable_line (e : Entry) : (e.line false).IsPrintable := by
  have hspace : (CodePoint.ofChar ' ').IsShown := by decide
  rw [line_eq, Text.isPrintable_append, Text.isPrintable_append, Text.isPrintable_cons, Text.isPrintable_cons,
    Text.isPrintable_append]
  exact ⟨Text.isPrintable_spaces _, Decimal.isPrintable_ofNat _, hspace.isPrintable, hspace.isPrintable,
    e.kind.isPrintable_name, e.isPrintable_textColumn⟩

end Entry

/-- Whatever a fault tells of an input stands between quotation marks. -/
theorem Fault.isPrintable_message (f : Fault) : f.message.IsPrintable := by
  have hliteral : ∀ {t : Text}, (∀ c ∈ t, c.IsShown) → t.IsPrintable := Text.isPrintable_of_isShown
  cases f with
  | invalidEncoding position offset =>
    rw [message, Text.isPrintable_append]
    exact ⟨hliteral (by decide), Decimal.isPrintable_ofInt offset⟩
  | unterminatedString position expected openedAt =>
    rw [message, Text.isPrintable_append, Text.isPrintable_append, Text.isPrintable_append]
    exact ⟨⟨⟨hliteral (by decide), Decimal.isPrintable_ofInt openedAt⟩, hliteral (by decide)⟩,
      Quoted.isPrintable_quote expected⟩
  | unexpectedCharacter position character =>
    rw [message, Text.isPrintable_append]
    exact ⟨hliteral (by decide), Quoted.isPrintable_quote character⟩

namespace Transcript

theorem isPrintable_faultPlace {s : Transcript} (hlabel : s.label.IsPrintable) (f : FaultRecord)
    (input : Option Text) : (s.faultPlace f input).IsPrintable := by
  cases input with
  | none => exact hlabel
  | some input =>
    have hcolon : Text.IsPrintable ":" := Text.isPrintable_of_isShown (by decide)
    rw [faultPlace]
    simp only [Text.isPrintable_append]
    exact ⟨⟨⟨⟨hlabel, hcolon⟩, Decimal.isPrintable_ofNat _⟩, hcolon⟩, Decimal.isPrintable_ofInt _⟩

/-- **Lines of faults.** They are printable if the label and the message are. -/
theorem isPrintable_faultLine {s : Transcript} (hlabel : s.label.IsPrintable)
    (hmessage : ∀ f ∈ s.fault, f.message.IsPrintable) {input : Option Text} {line : Text}
    (hline : s.faultLine? false input = some line) : line.IsPrintable := by
  obtain ⟨f, hf, rfl⟩ := Option.map_eq_some_iff.1 hline
  have hmiddle : Text.IsPrintable ": error: " := Text.isPrintable_of_isShown (by decide)
  show Text.IsPrintable (s.faultPlace f input ++ (": error: " : Text) ++ f.message)
  rw [Text.isPrintable_append, Text.isPrintable_append]
  exact ⟨⟨isPrintable_faultPlace hlabel f input, hmiddle⟩, hmessage f hf⟩

theorem isPrintable_message_record {data : Array UInt8} {label : Text} {f : FaultRecord}
    (hf : f ∈ (record data label).fault) : f.message.IsPrintable := by
  rw [fault_record] at hf
  obtain ⟨refusal, -, hrefusal⟩ := Option.bind_eq_some_iff.1 hf
  cases refusal with
  | fault g =>
    obtain rfl := Option.some.inj hrefusal
    exact g.isPrintable_message
  | undecodable e => cases hrefusal
  | terminated => cases hrefusal
  | finished => cases hrefusal

end Transcript

end ParenTokens
