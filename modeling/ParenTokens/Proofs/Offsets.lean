import ParenTokens.Proofs.Encoding

namespace ParenTokens

/-!
# Decoding at an offset

At any offset of any bytes, inside a sequence or cut short by the end, a code point is seen iff the encoding of a scalar
stands there.  Scalars are the characters of the core library here, and their encoding is the one of the core library.

* `Utf8.utf8_ofChar` — the two encodings agree; `CodePoint.exists_ofChar_eq` — every scalar is a character.
* `Utf8.sequenceLength_of_utf8` — the first byte of an encoding announces its length, which is four at most.
* `Utf8.eq_singleton_of_decode_take` — the bytes that are announced hold one code point, or nothing that decodes.
* `decodeAt_congr` — the four bytes from an offset on decide what is seen there.
* `decodeAt_exact` — all of this together.
-/

/-! ### Scalars as characters -/

namespace CodePoint

@[simp] theorem val_ofChar (c : Char) : (ofChar c).val = c.val.toNat := rfl

theorem isScalar_ofChar (c : Char) : (ofChar c).isScalar = true := by
  have hvalid := c.valid
  simp only [UInt32.isValidChar, Nat.isValidChar] at hvalid
  rw [isScalar_iff, val_ofChar]
  omega

theorem exists_ofChar_eq {c : CodePoint} (hc : c.isScalar = true) : ∃ d : Char, ofChar d = c := by
  have hlt := c.isLt
  rw [isScalar_iff] at hc
  have hvalid : c.val.isValidChar := by
    simp only [Nat.isValidChar]
    omega
  refine ⟨Char.ofNat c.val, ext_val ?_⟩
  rw [val_ofChar, Char.ofNat, dif_pos hvalid]
  rfl

end CodePoint

namespace Utf8

/-- The encoding is the one of the core library. -/
theorem utf8_ofChar (c : Char) : (CodePoint.ofChar c).utf8 = String.utf8EncodeChar c := by
  have hval : (CodePoint.ofChar c).val = c.val.toNat := rfl
  have hlt := (CodePoint.ofChar c).isLt
  -- The core library cuts the first group of bits to its width, which the bounds of the case make needless.
  by_cases h₁ : (CodePoint.ofChar c).val < 0x80
  · rw [CodePoint.utf8, if_pos h₁, String.utf8EncodeChar, if_pos (by omega)]
    rfl
  by_cases h₂ : (CodePoint.ofChar c).val < 0x800
  · have hlead : c.val.toNat / 64 < 32 := by omega
    rw [CodePoint.utf8, if_neg h₁, if_pos h₂, String.utf8EncodeChar, if_neg (by omega), if_pos (by omega),
      Nat.mod_eq_of_lt hlead, hval, Nat.add_comm 0xC0, Nat.add_comm 0x80]
  by_cases h₃ : (CodePoint.ofChar c).val < 0x10000
  · have hlead : c.val.toNat / 4096 < 16 := by omega
    rw [CodePoint.utf8, if_neg h₁, if_neg h₂, if_pos h₃, String.utf8EncodeChar, if_neg (by omega), if_neg (by omega),
      if_pos (by omega), Nat.mod_eq_of_lt hlead, hval, Nat.add_comm 0xE0, Nat.add_comm 0x80, Nat.add_comm 0x80]
  · have hlead : c.val.toNat / 262144 < 8 := by omega
    rw [CodePoint.utf8, if_neg h₁, if_neg h₂, if_neg h₃, String.utf8EncodeChar, if_neg (by omega), if_neg (by omega),
      if_neg (by omega), Nat.mod_eq_of_lt hlead, hval, Nat.add_comm 0xF0, Nat.add_comm 0x80, Nat.add_comm 0x80,
      Nat.add_comm 0x80]

/-! ### The announced length -/

/-- The first byte of an encoding announces its length. -/
theorem sequenceLength_of_utf8 {c : CodePoint} (hc : c.isScalar = true) {lead : UInt8} {tail : List UInt8}
    (h : c.utf8 = lead :: tail) : sequenceLength lead = c.utf8.length := by
  obtain ⟨lead', tail', heq, hstep⟩ := step_utf8 c hc
  obtain ⟨rfl, rfl⟩ := List.cons.inj (heq.symm.trans h)
  exact (width_of_step_eq_codePoint (hstep [])).1.symm

theorem length_utf8_le (c : CodePoint) : c.utf8.length ≤ 4 := by
  rw [CodePoint.utf8]
  split_ifs <;> simp

/-- The bytes that are announced do not hold more than one code point, and not a part of one. -/
theorem eq_singleton_of_decode_take {lead : UInt8} {tail : List UInt8} {t : Text} (hpos : 0 < sequenceLength lead)
    (h : decode ((lead :: tail).take (sequenceLength lead)) = .ok t) :
    ∃ c : CodePoint, c.isScalar = true ∧ t = [c] ∧ (lead :: tail).take (sequenceLength lead) = c.utf8 ∧
      c.utf8.length = sequenceLength lead := by
  obtain ⟨ht, hu⟩ := decode_eq_ok_iff.1 h
  obtain ⟨n, hn⟩ := Nat.exists_eq_succ_of_ne_zero (Nat.pos_iff_ne_zero.1 hpos)
  have hbound := List.length_take_le (sequenceLength lead) (lead :: tail)
  rw [← hu] at hbound ⊢
  rw [hn, List.take_succ_cons] at hu
  cases t with
  | nil => cases hu
  | cons c t =>
    obtain ⟨hc, ht⟩ := Text.isScalar_cons.1 ht
    obtain ⟨lead', tail', heq, -⟩ := step_utf8 c hc
    have hlength := sequenceLength_of_utf8 hc heq
    rw [Text.utf8_cons, heq, List.cons_append, List.cons.injEq] at hu
    rw [hu.1] at hlength
    -- The first code point takes all the bytes that are announced.
    rw [Text.utf8_cons, List.length_append] at hbound
    have hrest := Text.length_le_length_utf8 ht
    obtain rfl : t = [] := List.length_eq_zero_iff.1 (by omega)
    exact ⟨c, hc, rfl, by simp, hlength.symm⟩

/-- Whether an encoding stands in front can be told from four bytes. -/
theorem utf8_prefix_take_iff {c : CodePoint} {bs : List UInt8} : c.utf8 <+: bs.take 4 ↔ c.utf8 <+: bs := by
  rw [List.prefix_take_iff]
  exact and_iff_left (length_utf8_le c)

/-- In terms of characters. -/
theorem undecodable_iff {bs : List UInt8} : Undecodable bs ↔ ∀ c : Char, ¬ String.utf8EncodeChar c <+: bs := by
  constructor
  · intro h c hp
    rw [← utf8_ofChar] at hp
    exact h _ (CodePoint.isScalar_ofChar c) hp
  · intro h c hc hp
    obtain ⟨d, rfl⟩ := CodePoint.exists_ofChar_eq hc
    rw [utf8_ofChar] at hp
    exact h d hp

end Utf8

/-! ### What is seen -/

section

variable {data other : Array UInt8} {offset place : Nat}

theorem decodeAt_of_stands {c : CodePoint} (hc : c.isScalar = true) (h : c.utf8 <+: data.toList.drop offset) :
    decodeAt data offset = .codePoint c c.utf8.length := by
  obtain ⟨rest, hrest⟩ := h
  exact decodeAt_utf8 hc hrest.symm

/-- **Four bytes.** What is seen depends on no others. -/
theorem decodeAt_congr (h : (other.toList.drop place).take 4 = (data.toList.drop offset).take 4) :
    decodeAt other place = decodeAt data offset := by
  have hiff : ∀ c : CodePoint, c.utf8 <+: other.toList.drop place ↔ c.utf8 <+: data.toList.drop offset := by
    intro c
    rw [← Utf8.utf8_prefix_take_iff, h, Utf8.utf8_prefix_take_iff]
  by_cases hstands : ∃ c : CodePoint, c.isScalar = true ∧ c.utf8 <+: data.toList.drop offset
  · obtain ⟨c, hc, hp⟩ := hstands
    rw [decodeAt_of_stands hc hp, decodeAt_of_stands hc ((hiff c).2 hp)]
  · have hundecodable : Utf8.Undecodable (data.toList.drop offset) := fun c hc hp => hstands ⟨c, hc, hp⟩
    have hundecodable' : Utf8.Undecodable (other.toList.drop place) := fun c hc hp => hstands ⟨c, hc, (hiff c).1 hp⟩
    rw [decodeAt_undecodable hundecodable, decodeAt_undecodable hundecodable']

/-- **Decoding at an offset.** If the encoding of a character stands at an offset, then that character is seen there, in
    the length of its encoding; if none does, then a byte is seen that starts none.  Either depends on the four bytes
    from the offset on.  In as many bytes as the first one announces, if it announces any, the strict decoder finds just
    one character, and all of it, or refuses them. -/
theorem decodeAt_exact (h : offset < data.size) :
    (∀ c : Char, String.utf8EncodeChar c <+: data.toList.drop offset →
        decodeAt data offset = .codePoint c (String.utf8EncodeChar c).length) ∧
      ((¬ ∃ c : Char, String.utf8EncodeChar c <+: data.toList.drop offset) →
        decodeAt data offset = .invalid ∧ (decodeAt data offset).width = 1) ∧
      (∀ (other : Array UInt8) (place : Nat),
        (other.toList.drop place).take 4 = (data.toList.drop offset).take 4 →
          decodeAt other place = decodeAt data offset) ∧
      ∀ n t, n = Utf8.sequenceLength data[offset] → Utf8.decode (data.extract offset (offset + n)).toList = .ok t →
        (n = 0 ∧ t = []) ∨
          (offset + n ≤ data.size ∧
            ∃ c : Char, t = [↑c] ∧ (data.extract offset (offset + n)).toList = String.utf8EncodeChar c) := by
  refine ⟨?_, ?_, fun _ _ => decodeAt_congr, ?_⟩
  · intro c hp
    rw [← Utf8.utf8_ofChar] at hp ⊢
    exact decodeAt_of_stands (CodePoint.isScalar_ofChar c) hp
  · intro hnone
    have hinvalid := decodeAt_undecodable (Utf8.undecodable_iff.2 (not_exists.1 hnone))
    rw [hinvalid]
    exact ⟨rfl, rfl⟩
  · rintro n t rfl hdecode
    have hsize : offset < data.toList.length := by simpa using h
    have hdrop : data.toList.drop offset = data[offset] :: data.toList.drop (offset + 1) := by
      rw [List.drop_eq_getElem_cons hsize, Array.getElem_toList]
    rw [Array.toList_extract, List.extract_eq_take_drop, Nat.add_sub_cancel_left] at hdecode ⊢
    rcases Nat.eq_zero_or_pos (Utf8.sequenceLength data[offset]) with hzero | hpos
    · rw [hzero, List.take_zero] at hdecode
      exact .inl ⟨hzero, Except.ok.inj (hdecode.symm.trans (Utf8.decodeFrom_utf8 Text.isScalar_nil 0))⟩
    · rw [hdrop] at hdecode
      obtain ⟨c, hc, rfl, htake, hlength⟩ := Utf8.eq_singleton_of_decode_take hpos hdecode
      obtain ⟨d, rfl⟩ := CodePoint.exists_ofChar_eq hc
      rw [← hdrop] at htake
      refine .inr ⟨?_, d, rfl, by rw [htake, Utf8.utf8_ofChar]⟩
      have hbytes := congrArg List.length htake
      rw [List.length_take, List.length_drop, Array.length_toList, hlength] at hbytes
      omega

/-- A euro sign, seen at its first byte and not inside; and four bytes announced where two are left. -/
theorem decodeAt_exact_euro :
    let data : Array UInt8 := #[0x28, 0xE2, 0x82, 0xAC, 0xF0, 0x9F]
    1 < data.size ∧ decodeAt data 1 = .codePoint '€' 3 ∧ (decodeAt data 2).width = 1 ∧
      Utf8.sequenceLength data[4] = 4 ∧ decodeAt data 4 = .invalid := by
  intro data
  have hfirst : 1 < data.size := by decide
  have hmiddle : 2 < data.size := by decide
  have hlast : 4 < data.size := by decide
  have hinside : Utf8.Undecodable [0x82, 0xAC, 0xF0, 0x9F] := Utf8.undecodable_of_isContinuation (by decide) _
  have hshort : Utf8.step 0xF0 [0x9F] = .malformed 2 .unexpectedEnd := by decide
  refine ⟨hfirst, ?_, ?_, by decide, ?_⟩
  · exact (decodeAt_exact hfirst).1 '€' ⟨[0xF0, 0x9F], by decide⟩
  · exact ((decodeAt_exact hmiddle).2.1 (not_exists.2 (Utf8.undecodable_iff.1 hinside))).2
  · have hnone := Utf8.undecodable_iff.1 (Utf8.undecodable_of_step hshort)
    exact ((decodeAt_exact hlast).2.1 (not_exists.2 hnone)).1

end

end ParenTokens
