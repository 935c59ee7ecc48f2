import ParenTokens.Text.Quoted
import ParenTokens.Proofs.JsonText

namespace ParenTokens

/-!
# Reading quoted texts back

A quoted text ends where its mark stands for the second time, and each code point between the marks can be told from
what it is shown by.  So a quoted text determines the text, and also where it ends in what follows it.

* `Decimal.ofHex_hex` — hexadecimal numerals of a fixed width.
* `Quoted.readEscape?` — the code point that stands in front of a text, escaped or not; `Quoted.readEscape?_escape`
  reads back what `Quoted.escape` shows, whatever follows.
* `Quoted.escaped_append_unique` — texts between marks, by induction from one code point.
* `Quoted.quote_append_unique` — quoted texts.
-/

/-! ### Hexadecimal numerals -/

namespace Decimal

/-- The number that hexadecimal digits denote; a code point that is none of them counts as zero. -/
def ofHex (t : Text) : Nat := ofDigitsIn 16 (t.map fun c => c.hexValue?.getD 0)

theorem length_hex (width n : Nat) : (hex width n).length = width := by
  induction width generalizing n with
  | zero => rfl
  | succ width ih => rw [hex, List.length_append, ih, List.length_singleton]

theorem ofHex_hex {width n : Nat} (h : n < Nat.pow 16 width) : ofHex (hex width n) = n := by
  induction width generalizing n with
  | zero =>
    have hzero : n < 1 := h
    rw [Nat.lt_one_iff.1 hzero]
    rfl
  | succ width ih =>
    have hmore : n < Nat.pow 16 width * 16 := h
    have hdigit : (hexDigit (n % 16)).hexValue? = some (n % 16) := hexValue?_hexDigit (Nat.mod_lt _ (by decide))
    have hhigh := ih (n := n / 16) (by omega)
    rw [ofHex, ofDigitsIn] at hhigh
    rw [ofHex, ofDigitsIn, hex, List.map_append, List.foldl_append, hhigh, List.map_singleton, hdigit]
    show 16 * (n / 16) + n % 16 = n
    omega

end Decimal

namespace Quoted

/-! ### One code point -/

/-- What a letter behind a backslash stands for, unless a numeral follows it. -/
def ofLetter (c : CodePoint) : CodePoint :=
  if c = 'n' then '\n' else if c = 'r' then '\r' else if c = 't' then '\t' else c

/-- How many hexadecimal digits follow a letter behind a backslash, if any do. -/
def hexWidth? (c : CodePoint) : Option Nat :=
  if c = 'x' then some 2 else if c = 'u' then some 4 else if c = 'U' then some 8 else none

/-- The code point that stands in front of a text, escaped or not, and what follows it. -/
def readEscape? : Text → Option (CodePoint × Text)
  | [] => none
  | c :: t =>
    if c ≠ backslash then some (c, t)
    else match t with
    | [] => none
    | e :: t => match hexWidth? e with
      | none => some (ofLetter e, t)
      | some width => some (CodePoint.ofNat (Decimal.ofHex (t.take width)), t.drop width)

theorem readEscape?_of_ne {c : CodePoint} (hc : c ≠ backslash) (t : Text) : readEscape? (c :: t) = some (c, t) :=
  if_pos hc

theorem readEscape?_letter {e : CodePoint} (he : hexWidth? e = none) (t : Text) :
    readEscape? (backslash :: e :: t) = some (ofLetter e, t) := by
  rw [readEscape?, if_neg (not_not_intro rfl)]
  simp only [he]

theorem readEscape?_hex {e : CodePoint} {width n : Nat} (he : hexWidth? e = some width) (hn : n < Nat.pow 16 width)
    (t : Text) : readEscape? (backslash :: e :: (Decimal.hex width n ++ t)) = some (CodePoint.ofNat n, t) := by
  have hlength := Decimal.length_hex width n
  rw [readEscape?, if_neg (not_not_intro rfl)]
  simp only [he, List.take_left' hlength, List.drop_left' hlength, Decimal.ofHex_hex hn]

/-- A code point that may stand at both ends of a quoted text. -/
def IsMark (m : CodePoint) : Prop := m = apostrophe ∨ m = doubleQuote

theorem isMark_mark (t : Text) : IsMark (mark t) := by
  rw [mark]
  split
  · exact .inr rfl
  · exact .inl rfl

variable {m : CodePoint}

/-- **One code point.** It is read back from what it is shown by, and what follows is left. -/
theorem readEscape?_escape (hm : IsMark m) (c : CodePoint) (rest : Text) :
    readEscape? (escape m c ++ rest) = some (c, rest) := by
  -- One case for each way to show a code point.
  rw [escape]
  by_cases hself : c = m ∨ c = backslash
  · have hkept : hexWidth? c = none ∧ ofLetter c = c := by
      rcases hself with rfl | rfl
      · rcases hm with rfl | rfl <;> decide
      · decide
    rw [if_pos hself]
    exact (readEscape?_letter hkept.1 rest).trans (by rw [hkept.2])
  rw [if_neg hself]
  by_cases hn : c = CodePoint.ofChar '\n'
  · rw [if_pos hn, hn]
    exact readEscape?_letter (by decide) rest
  rw [if_neg hn]
  by_cases hr : c = CodePoint.ofChar '\r'
  · rw [if_pos hr, hr]
    exact readEscape?_letter (by decide) rest
  rw [if_neg hr]
  by_cases ht : c = CodePoint.ofChar '\t'
  · rw [if_pos ht, ht]
    exact readEscape?_letter (by decide) rest
  rw [if_neg ht]
  by_cases hshown : c.isPrintable = true
  · rw [if_pos hshown]
    exact readEscape?_of_ne (fun h => hself (.inr h)) rest
  rw [if_neg hshown]
  have hnumber : ∀ {e : CodePoint} {width : Nat}, hexWidth? e = some width → c.val < Nat.pow 16 width →
      readEscape? (backslash :: e :: Decimal.hex width c.val ++ rest) = some (c, rest) := by
    intro e width he hlt
    exact (readEscape?_hex he hlt rest).trans (by rw [CodePoint.ofNat_val])
  by_cases hbyte : c.val < 0x100
  · rw [if_pos hbyte]
    exact hnumber (by decide) hbyte
  rw [if_neg hbyte]
  by_cases hfour : c.val < 0x10000
  · rw [if_pos hfour]
    exact hnumber (by decide) hfour
  rw [if_neg hfour]
  have hlt : c.val < 0x100000000 := Nat.lt_trans c.isLt (by decide)
  exact hnumber (by decide) hlt

/-- What a code point is shown by does not start with the mark. -/
theorem exists_escape_eq_cons (hm : IsMark m) (c : CodePoint) : ∃ d u, escape m c = d :: u ∧ d ≠ m := by
  have hbackslash : backslash ≠ m := by rcases hm with rfl | rfl <;> decide
  rw [escape]
  by_cases hself : c = m ∨ c = backslash
  · exact ⟨_, _, if_pos hself, hbackslash⟩
  rw [if_neg hself]
  split
  · exact ⟨_, _, rfl, hbackslash⟩
  split
  · exact ⟨_, _, rfl, hbackslash⟩
  split
  · exact ⟨_, _, rfl, hbackslash⟩
  split
  · exact ⟨_, _, rfl, fun h => hself (.inl h)⟩
  split
  · exact ⟨_, _, rfl, hbackslash⟩
  split
  · exact ⟨_, _, rfl, hbackslash⟩
  · exact ⟨_, _, rfl, hbackslash⟩

/-! ### Texts -/

/-- **Between marks.** A text is regained from what it is shown by, up to the mark that ends it. -/
theorem escaped_append_unique (hm : IsMark m) {t u rest rest' : Text}
    (h : t.flatMap (escape m) ++ m :: rest = u.flatMap (escape m) ++ m :: rest') : t = u ∧ rest = rest' := by
  -- The mark cannot be taken for a code point of the other text.
  have hne : ∀ (c : CodePoint) (more more' : Text), m :: more ≠ escape m c ++ more' := by
    intro c more more' heq
    obtain ⟨d, v, hd, hdm⟩ := exists_escape_eq_cons hm c
    rw [hd] at heq
    exact hdm (List.cons.inj heq).1.symm
  induction t generalizing u with
  | nil =>
    cases u with
    | nil => exact ⟨rfl, (List.cons.inj h).2⟩
    | cons d u =>
      rw [List.flatMap_cons, List.append_assoc] at h
      exact absurd h (hne d _ _)
  | cons c t ih =>
    rw [List.flatMap_cons, List.append_assoc] at h
    cases u with
    | nil => exact absurd h.symm (hne c _ _)
    | cons d u =>
      rw [List.flatMap_cons, List.append_assoc] at h
      have hread := congrArg readEscape? h
      rw [readEscape?_escape hm, readEscape?_escape hm, Option.some.injEq, Prod.mk.injEq] at hread
      obtain ⟨rfl, hmore⟩ := hread
      obtain ⟨rfl, hrest⟩ := ih hmore
      exact ⟨rfl, hrest⟩

/-- **Quoted texts.** No quoted text begins another one; equal ones quote the same text. -/
theorem quote_append_unique {t u rest rest' : Text} (h : quote t ++ rest = quote u ++ rest') :
    t = u ∧ rest = rest' := by
  simp only [quote, List.cons_append, List.append_assoc, List.nil_append, List.cons.injEq] at h
  obtain ⟨hmark, hbody⟩ := h
  rw [← hmark] at hbody
  exact escaped_append_unique (isMark_mark t) hbody

end Quoted

end ParenTokens
