import ParenTokens.Lexing.Cursor
import Mathlib.Data.List.Basic

namespace ParenTokens

/-!
# Decoding is the inverse of encoding

`Utf8.step` reads one code point off the front of some bytes.  This file ties it to `CodePoint.utf8`: a step reads
exactly the scalars whose bytes stand there, in exactly their bytes.

* `Text.IsScalar` — a text that UTF-8 can carry.
* `Utf8.step_utf8` / `Utf8.utf8_of_step` — the two directions for a single code point.
* `Utf8.decode_eq_ok_iff` — a whole byte string decodes to a text iff it is the encoding of that text.
* `Utf8.Undecodable` — bytes at whose front no scalar stands; `Utf8.undecodable_of_step` and
  `Utf8.undecodable_of_isContinuation`: bytes of which this can be seen.
* `Utf8.exists_split` and `Utf8.split_unique` — all bytes are, in one way, the encoding of a text followed by such bytes.
* `Text.IsLongestIn` — the text in front of that cut, named by its being longest; `Text.isLongestIn_iff` says so.
* `decodeAt_utf8` / `decodeAt_undecodable` — what a cursor sees in both cases.
-/

/-- A text of scalars, which has an encoding in the sense of the standard. -/
def Text.IsScalar (t : Text) : Prop := ∀ c ∈ t, c.isScalar = true

instance (t : Text) : Decidable t.IsScalar := inferInstanceAs (Decidable (∀ c ∈ t, c.isScalar = true))

namespace Text

@[simp] theorem isScalar_nil : IsScalar [] := by simp [IsScalar]

@[simp] theorem isScalar_cons {c : CodePoint} {t : Text} :
    IsScalar (c :: t) ↔ c.isScalar = true ∧ IsScalar t := by simp [IsScalar]

@[simp] theorem isScalar_append {t u : Text} : IsScalar (t ++ u) ↔ IsScalar t ∧ IsScalar u := by
  simp [IsScalar, or_imp, forall_and]

@[simp] theorem utf8_nil : utf8 [] = [] := rfl

@[simp] theorem utf8_cons (c : CodePoint) (t : Text) : utf8 (c :: t) = c.utf8 ++ utf8 t := rfl

@[simp] theorem utf8_append (t u : Text) : utf8 (t ++ u) = utf8 t ++ utf8 u := by simp [utf8]

end Text

theorem CodePoint.isScalar_iff (c : CodePoint) : c.isScalar = true ↔ c.val < 0xD800 ∨ 0xE000 ≤ c.val := by
  simp only [isScalar, isSurrogate, Bool.not_eq_true', Bool.and_eq_false_iff, decide_eq_false_iff_not]
  omega

namespace Utf8

/-! ### Bytes as numbers -/

theorem toNat_toUInt8 {n : Nat} (h : n < 256) : n.toUInt8.toNat = n := by
  simp only [Nat.toUInt8, UInt8.toNat_ofNat']
  exact Nat.mod_eq_of_lt h

theorem toUInt8_eq_of_toNat {n : Nat} (b : UInt8) (h : n = b.toNat) : n.toUInt8 = b := by
  subst h
  exact UInt8.ofNat_toNat

theorem sequenceLength_eq (b : UInt8) : sequenceLength b =
    if b.toNat < 0x80 then 1 else if b.toNat < 0xC2 then 0 else if b.toNat < 0xE0 then 2
    else if b.toNat < 0xF0 then 3 else if b.toNat < 0xF5 then 4 else 0 := by
  simp only [sequenceLength, UInt8.lt_iff_toNat_lt]
  rfl

theorem isContinuation_iff (b : UInt8) : isContinuation b = true ↔ 0x80 ≤ b.toNat ∧ b.toNat < 0xC0 := by
  simp only [isContinuation, Bool.and_eq_true, decide_eq_true_eq, UInt8.le_iff_toNat_le, UInt8.lt_iff_toNat_lt]
  rfl

theorem maySecond_iff (lead b : UInt8) : maySecond lead b = true ↔
    0x80 ≤ b.toNat ∧ b.toNat < 0xC0 ∧ (lead.toNat = 0xE0 → 0xA0 ≤ b.toNat) ∧
      (lead.toNat = 0xED → b.toNat < 0xA0) ∧ (lead.toNat = 0xF0 → 0x90 ≤ b.toNat) ∧
      (lead.toNat = 0xF4 → b.toNat < 0x90) := by
  have hne : ∀ n : UInt8, (lead != n) = true ↔ lead.toNat ≠ n.toNat := by
    intro n
    rw [bne_iff_ne, ne_eq, ne_eq, UInt8.toNat_inj]
  simp only [maySecond, Bool.and_eq_true, Bool.or_eq_true, decide_eq_true_eq, isContinuation_iff, hne,
    UInt8.le_iff_toNat_le, UInt8.lt_iff_toNat_lt, ← imp_iff_not_or, ne_eq, UInt8.reduceToNat]
  tauto

/-! ### One step, by the width its lead byte announces -/

theorem step_one {lead : UInt8} (h : lead.toNat < 0x80) (tail : List UInt8) :
    step lead tail = .codePoint (CodePoint.ofNat lead.toNat) 1 := by
  have hlen : sequenceLength lead = 1 := by rw [sequenceLength_eq, if_pos h]
  simp [step, hlen]

theorem step_two {lead b : UInt8} (h : 0xC2 ≤ lead.toNat ∧ lead.toNat < 0xE0)
    (hb : maySecond lead b = true) (tail : List UInt8) :
    step lead (b :: tail) = .codePoint (CodePoint.ofNat (lead.toNat % 0x20 * 0x40 + payload b)) 2 := by
  have hlen : sequenceLength lead = 2 := by
    rw [sequenceLength_eq, if_neg (by omega), if_neg (by omega), if_pos h.2]
  simp [step, hlen, hb, continuations]

theorem step_three {lead b b' : UInt8} (h : 0xE0 ≤ lead.toNat ∧ lead.toNat < 0xF0)
    (hb : maySecond lead b = true) (hb' : isContinuation b' = true) (tail : List UInt8) :
    step lead (b :: b' :: tail) =
      .codePoint (CodePoint.ofNat ((lead.toNat % 0x10 * 0x40 + payload b) * 0x40 + payload b')) 3 := by
  have hlen : sequenceLength lead = 3 := by
    rw [sequenceLength_eq, if_neg (by omega), if_neg (by omega), if_neg (by omega), if_pos h.2]
  simp [step, hlen, hb, hb', continuations]

theorem step_four {lead b b' b'' : UInt8} (h : 0xF0 ≤ lead.toNat ∧ lead.toNat < 0xF5)
    (hb : maySecond lead b = true) (hb' : isContinuation b' = true) (hb'' : isContinuation b'' = true)
    (tail : List UInt8) :
    step lead (b :: b' :: b'' :: tail) =
      .codePoint (CodePoint.ofNat
        (((lead.toNat % 8 * 0x40 + payload b) * 0x40 + payload b') * 0x40 + payload b'')) 4 := by
  have hlen : sequenceLength lead = 4 := by
    rw [sequenceLength_eq, if_neg (by omega), if_neg (by omega), if_neg (by omega), if_neg (by omega),
      if_pos h.2]
  simp [step, hlen, hb, hb', hb'', continuations]

/-- A continuation byte for each scalar's low bits. -/
theorem isContinuation_toUInt8 (n : Nat) : isContinuation (0x80 + n % 0x40).toUInt8 = true := by
  rw [isContinuation_iff, toNat_toUInt8 (by omega)]
  omega

theorem payload_toUInt8 (n : Nat) : payload (0x80 + n % 0x40).toUInt8 = n % 0x40 := by
  rw [payload, toNat_toUInt8 (by omega)]
  omega

/-- **Encoding, then a step.** The bytes of a scalar are read as that scalar, whatever follows them. -/
theorem step_utf8 (c : CodePoint) (hc : c.isScalar = true) :
    ∃ lead tail, c.utf8 = lead :: tail ∧
      ∀ rest, step lead (tail ++ rest) = .codePoint c c.utf8.length := by
  -- One case for each length of the encoding; omega puts the six-bit groups together again.
  have hlt := c.isLt
  rw [CodePoint.isScalar_iff] at hc
  have hval : ∀ n, n = c.val → CodePoint.ofNat n = c := by
    rintro n rfl
    exact CodePoint.ofNat_val c
  by_cases h₁ : c.val < 0x80
  · refine ⟨_, [], by rw [CodePoint.utf8, if_pos h₁], fun rest => ?_⟩
    have hlead : c.val.toUInt8.toNat = c.val := toNat_toUInt8 (by omega)
    rw [step_one (by omega), hval _ hlead]
    simp [CodePoint.utf8, h₁]
  by_cases h₂ : c.val < 0x800
  · refine ⟨_, _, by rw [CodePoint.utf8, if_neg h₁, if_pos h₂], fun rest => ?_⟩
    have hlead : (0xC0 + c.val / 0x40).toUInt8.toNat = 0xC0 + c.val / 0x40 := toNat_toUInt8 (by omega)
    have hsecond : maySecond (0xC0 + c.val / 0x40).toUInt8 (0x80 + c.val % 0x40).toUInt8 = true := by
      rw [maySecond_iff, hlead, toNat_toUInt8 (by omega)]
      omega
    rw [List.cons_append, step_two (by omega) hsecond, hlead, payload_toUInt8, hval _ (by omega)]
    simp [CodePoint.utf8, h₁, h₂]
  by_cases h₃ : c.val < 0x10000
  · refine ⟨_, _, by rw [CodePoint.utf8, if_neg h₁, if_neg h₂, if_pos h₃], fun rest => ?_⟩
    have hlead : (0xE0 + c.val / 0x1000).toUInt8.toNat = 0xE0 + c.val / 0x1000 := toNat_toUInt8 (by omega)
    have hsecond : maySecond (0xE0 + c.val / 0x1000).toUInt8 (0x80 + c.val / 0x40 % 0x40).toUInt8 = true := by
      rw [maySecond_iff, hlead, toNat_toUInt8 (by omega)]
      omega
    rw [List.cons_append, List.cons_append, step_three (by omega) hsecond (isContinuation_toUInt8 _), hlead,
      payload_toUInt8, payload_toUInt8, hval _ (by omega)]
    simp [CodePoint.utf8, h₁, h₂, h₃]
  · refine ⟨_, _, by rw [CodePoint.utf8, if_neg h₁, if_neg h₂, if_neg h₃], fun rest => ?_⟩
    have hlead : (0xF0 + c.val / 0x40000).toUInt8.toNat = 0xF0 + c.val / 0x40000 := toNat_toUInt8 (by omega)
    have hsecond :
        maySecond (0xF0 + c.val / 0x40000).toUInt8 (0x80 + c.val / 0x1000 % 0x40).toUInt8 = true := by
      rw [maySecond_iff, hlead, toNat_toUInt8 (by omega)]
      omega
    rw [List.cons_append, List.cons_append, List.cons_append, step_four (by omega) hsecond
      (isContinuation_toUInt8 _) (isContinuation_toUInt8 _), hlead, payload_toUInt8, payload_toUInt8,
      payload_toUInt8, hval _ (by omega)]
    simp [CodePoint.utf8, h₁, h₂, h₃]

theorem continuations_succ {more width value w : Nat} {bs : List UInt8} {c : CodePoint}
    (h : continuations (more + 1) width value bs = .codePoint c w) :
    ∃ b bs', bs = b :: bs' ∧ isContinuation b = true ∧
      continuations more (width + 1) (value * 0x40 + payload b) bs' = .codePoint c w := by
  cases bs with
  | nil => simp [continuations] at h
  | cons b bs' =>
    simp only [continuations] at h
    split at h
    · next hb => exact ⟨b, bs', rfl, hb, h⟩
    · cases h

theorem step_succ {lead : UInt8} {tail : List UInt8} {c : CodePoint} {w more : Nat}
    (hlen : sequenceLength lead = more + 2) (h : step lead tail = .codePoint c w) :
    ∃ b bs, tail = b :: bs ∧ maySecond lead b = true ∧
      continuations more 2 (lead.toNat % Nat.pow 2 (5 - more) * 0x40 + payload b) bs = .codePoint c w := by
  simp only [step, hlen] at h
  cases tail with
  | nil => cases h
  | cons b bs =>
    simp only at h
    split at h
    · next hb => exact ⟨b, bs, rfl, hb, h⟩
    · cases h

/-- The encoding of the number that a lead byte below `0x80` stands for. -/
theorem utf8_ofNat_one {n : Nat} {b : UInt8} (h : n = b.toNat) (hb : b.toNat < 0x80) :
    (CodePoint.ofNat n).isScalar = true ∧ (CodePoint.ofNat n).utf8 = [b] := by
  have hval : (CodePoint.ofNat n).val = n := CodePoint.val_ofNat (by omega)
  refine ⟨by rw [CodePoint.isScalar_iff, hval]; omega, ?_⟩
  rw [CodePoint.utf8, hval, if_pos (by omega), toUInt8_eq_of_toNat b h]

theorem utf8_ofNat_two {n : Nat} {lead b : UInt8} (h : 0xC2 ≤ lead.toNat ∧ lead.toNat < 0xE0)
    (hb : 0x80 ≤ b.toNat ∧ b.toNat < 0xC0) (hn : n = lead.toNat % 0x20 * 0x40 + payload b) :
    (CodePoint.ofNat n).isScalar = true ∧ (CodePoint.ofNat n).utf8 = [lead, b] := by
  rw [payload] at hn
  have hval : (CodePoint.ofNat n).val = n := CodePoint.val_ofNat (by omega)
  refine ⟨by rw [CodePoint.isScalar_iff, hval]; omega, ?_⟩
  rw [CodePoint.utf8, hval, if_neg (by omega), if_pos (by omega), toUInt8_eq_of_toNat lead (by omega),
    toUInt8_eq_of_toNat b (by omega)]

theorem utf8_ofNat_three {n : Nat} {lead b b' : UInt8} (h : 0xE0 ≤ lead.toNat ∧ lead.toNat < 0xF0)
    (hb : maySecond lead b = true) (hb' : 0x80 ≤ b'.toNat ∧ b'.toNat < 0xC0)
    (hn : n = (lead.toNat % 0x10 * 0x40 + payload b) * 0x40 + payload b') :
    (CodePoint.ofNat n).isScalar = true ∧ (CodePoint.ofNat n).utf8 = [lead, b, b'] := by
  rw [payload, payload] at hn
  rw [maySecond_iff] at hb
  have hval : (CodePoint.ofNat n).val = n := CodePoint.val_ofNat (by omega)
  refine ⟨by rw [CodePoint.isScalar_iff, hval]; omega, ?_⟩
  rw [CodePoint.utf8, hval, if_neg (by omega), if_neg (by omega), if_pos (by omega),
    toUInt8_eq_of_toNat lead (by omega), toUInt8_eq_of_toNat b (by omega),
    toUInt8_eq_of_toNat b' (by omega)]

theorem utf8_ofNat_four {n : Nat} {lead b b' b'' : UInt8} (h : 0xF0 ≤ lead.toNat ∧ lead.toNat < 0xF5)
    (hb : maySecond lead b = true) (hb' : 0x80 ≤ b'.toNat ∧ b'.toNat < 0xC0)
    (hb'' : 0x80 ≤ b''.toNat ∧ b''.toNat < 0xC0)
    (hn : n = ((lead.toNat % 8 * 0x40 + payload b) * 0x40 + payload b') * 0x40 + payload b'') :
    (CodePoint.ofNat n).isScalar = true ∧ (CodePoint.ofNat n).utf8 = [lead, b, b', b''] := by
  rw [payload, payload, payload] at hn
  rw [maySecond_iff] at hb
  have hval : (CodePoint.ofNat n).val = n := CodePoint.val_ofNat (by omega)
  refine ⟨by rw [CodePoint.isScalar_iff, hval]; omega, ?_⟩
  rw [CodePoint.utf8, hval, if_neg (by omega), if_neg (by omega), if_neg (by omega),
    toUInt8_eq_of_toNat lead (by omega), toUInt8_eq_of_toNat b (by omega),
    toUInt8_eq_of_toNat b' (by omega), toUInt8_eq_of_toNat b'' (by omega)]

/-- **A step, then encoding.** What a step reads is a scalar, and it stands in front in its own encoding. -/
theorem utf8_of_step {lead : UInt8} {tail : List UInt8} {c : CodePoint} {w : Nat}
    (h : step lead tail = .codePoint c w) :
    c.isScalar = true ∧ w = c.utf8.length ∧ c.utf8 <+: lead :: tail := by
  -- The lead byte says how many bytes are read; `maySecond` rules out the longer forms and the surrogates.
  have hlen := sequenceLength_eq lead
  by_cases h₁ : lead.toNat < 0x80
  · rw [step_one h₁] at h
    cases h
    obtain ⟨hs, hu⟩ := utf8_ofNat_one rfl h₁
    rw [hu]
    exact ⟨hs, rfl, tail, rfl⟩
  rw [if_neg h₁] at hlen
  by_cases h₂ : lead.toNat < 0xC2
  · rw [if_pos h₂] at hlen
    simp [step, hlen] at h
  rw [if_neg h₂] at hlen
  by_cases h₃ : lead.toNat < 0xE0
  · rw [if_pos h₃] at hlen
    obtain ⟨b, bs, rfl, hb, h⟩ := step_succ hlen h
    cases h
    rw [maySecond_iff] at hb
    have hlead : 0xC2 ≤ lead.toNat ∧ lead.toNat < 0xE0 := by omega
    obtain ⟨hs, hu⟩ := utf8_ofNat_two hlead ⟨hb.1, hb.2.1⟩ rfl
    rw [hu]
    exact ⟨hs, rfl, bs, rfl⟩
  rw [if_neg h₃] at hlen
  by_cases h₄ : lead.toNat < 0xF0
  · rw [if_pos h₄] at hlen
    obtain ⟨b, bs, rfl, hb, h⟩ := step_succ hlen h
    obtain ⟨b', bs', rfl, hb', h⟩ := continuations_succ h
    cases h
    obtain ⟨hs, hu⟩ := utf8_ofNat_three (by omega) hb ((isContinuation_iff b').1 hb') rfl
    rw [hu]
    exact ⟨hs, rfl, bs', rfl⟩
  rw [if_neg h₄] at hlen
  by_cases h₅ : lead.toNat < 0xF5
  · rw [if_pos h₅] at hlen
    obtain ⟨b, bs, rfl, hb, h⟩ := step_succ hlen h
    obtain ⟨b', bs', rfl, hb', h⟩ := continuations_succ h
    obtain ⟨b'', bs'', rfl, hb'', h⟩ := continuations_succ h
    cases h
    obtain ⟨hs, hu⟩ := utf8_ofNat_four (by omega) hb ((isContinuation_iff b').1 hb')
      ((isContinuation_iff b'').1 hb'') rfl
    rw [hu]
    exact ⟨hs, rfl, bs'', rfl⟩
  · rw [if_neg h₅] at hlen
    simp [step, hlen] at h

theorem utf8_ne_nil {c : CodePoint} (hc : c.isScalar = true) : c.utf8 ≠ [] := by
  obtain ⟨lead, tail, heq, _⟩ := step_utf8 c hc
  simp [heq]

/-- No encoding of a scalar begins another one. -/
theorem eq_of_utf8_prefix {c d : CodePoint} (hc : c.isScalar = true) (hd : d.isScalar = true)
    {bs : List UInt8} (h : c.utf8 <+: bs) (h' : d.utf8 <+: bs) : c = d := by
  obtain ⟨lead, tail, heq, hstep⟩ := step_utf8 c hc
  obtain ⟨lead', tail', heq', hstep'⟩ := step_utf8 d hd
  obtain ⟨rest, rfl⟩ := h
  obtain ⟨rest', h'⟩ := h'
  rw [heq, heq', List.cons_append, List.cons_append, List.cons.injEq] at h'
  have hsame := hstep' rest'
  rw [h'.1, h'.2, hstep rest, Step.codePoint.injEq] at hsame
  exact hsame.1

/-! ### Whole byte strings -/

theorem decodeFrom_utf8_append {c : CodePoint} (hc : c.isScalar = true) (start : Nat) (rest : List UInt8) :
    decodeFrom start (c.utf8 ++ rest) = (decodeFrom (start + c.utf8.length) rest).map (c :: ·) := by
  obtain ⟨lead, tail, heq, hstep⟩ := step_utf8 c hc
  have hdrop : (lead :: (tail ++ rest)).drop c.utf8.length = rest := by
    rw [heq, ← List.cons_append, List.drop_left]
  have hsplit : c.utf8 ++ rest = lead :: (tail ++ rest) := by rw [heq, List.cons_append]
  rw [hsplit, decodeFrom]
  split
  · next c' w h =>
    rw [hstep rest] at h
    cases h
    rw [hdrop]
    cases decodeFrom (start + c.utf8.length) rest <;> rfl
  · next w reason h =>
    rw [hstep rest] at h
    cases h

theorem decodeFrom_utf8 {t : Text} (ht : t.IsScalar) (start : Nat) : decodeFrom start t.utf8 = .ok t := by
  induction t generalizing start with
  | nil => simp [decodeFrom]
  | cons c t ih =>
    rw [Text.isScalar_cons] at ht
    rw [Text.utf8_cons, decodeFrom_utf8_append ht.1, ih ht.2]
    rfl

theorem utf8_of_decodeFrom {start : Nat} {bs : List UInt8} {t : Text} (h : decodeFrom start bs = .ok t) :
    t.IsScalar ∧ t.utf8 = bs := by
  induction t generalizing start bs with
  | nil =>
    unfold decodeFrom at h
    split at h
    · simp
    · split at h
      · split at h <;> cases h
      · cases h
  | cons c t ih =>
    unfold decodeFrom at h
    split at h
    · cases h
    · split at h
      · next b bs c' w hstep =>
        split at h
        · next t' hrest =>
          cases h
          obtain ⟨hs, hw, rest, hrest'⟩ := utf8_of_step hstep
          obtain ⟨ht, hu⟩ := ih hrest
          refine ⟨by simp [hs, ht], ?_⟩
          rw [Text.utf8_cons, hu, hw, ← hrest', List.drop_left]
        · cases h
      · cases h

/-- **Decoding is exact.** Bytes decode to a text iff they are its encoding and it holds no surrogate. -/
theorem decode_eq_ok_iff {bs : List UInt8} {t : Text} : decode bs = .ok t ↔ t.IsScalar ∧ t.utf8 = bs := by
  constructor
  · exact utf8_of_decodeFrom
  · rintro ⟨ht, rfl⟩
    exact decodeFrom_utf8 ht 0

theorem utf8_injective {t u : Text} (ht : t.IsScalar) (hu : u.IsScalar) (h : t.utf8 = u.utf8) : t = u := by
  have hdec := decodeFrom_utf8 ht 0
  rw [h, decodeFrom_utf8 hu 0] at hdec
  exact (Except.ok.inj hdec).symm

/-! ### Where decoding stops -/

/-- No scalar stands at the front of these bytes; none does where there are no bytes at all. -/
def Undecodable (bs : List UInt8) : Prop := ∀ c : CodePoint, c.isScalar = true → ¬ c.utf8 <+: bs

theorem undecodable_nil : Undecodable [] := by
  intro c hc h
  exact utf8_ne_nil hc (List.prefix_nil.1 h)

/-- Where a step fails, no scalar stands. -/
theorem undecodable_of_step {lead : UInt8} {tail : List UInt8} {width : Nat} {reason : Reason}
    (h : step lead tail = .malformed width reason) : Undecodable (lead :: tail) := by
  intro c hc hp
  obtain ⟨b, bs, heq, hstep⟩ := step_utf8 c hc
  obtain ⟨rest, hrest⟩ := hp
  rw [heq, List.cons_append, List.cons.injEq] at hrest
  obtain ⟨rfl, rfl⟩ := hrest
  rw [hstep rest] at h
  cases h

/-- A continuation byte leads nothing. -/
theorem undecodable_of_isContinuation {b : UInt8} (h : isContinuation b = true) (bs : List UInt8) :
    Undecodable (b :: bs) := by
  rw [isContinuation_iff] at h
  have hlen : sequenceLength b = 0 := by
    rw [sequenceLength_eq, if_neg (by omega), if_pos (by omega)]
  have hstep : step b bs = .malformed 1 .invalidStart := by simp [step, hlen]
  exact undecodable_of_step hstep

/-- Bytes can be cut where no further scalar stands. -/
theorem exists_split (bs : List UInt8) :
    ∃ (t : Text) (rest : List UInt8), t.IsScalar ∧ Undecodable rest ∧ bs = t.utf8 ++ rest := by
  -- As long as a scalar stands in front, it goes into the text.
  by_cases h : ∃ c : CodePoint, c.isScalar = true ∧ c.utf8 <+: bs
  · obtain ⟨c, hc, bs', rfl⟩ := h
    have hpos : 0 < c.utf8.length := List.length_pos_iff.2 (utf8_ne_nil hc)
    obtain ⟨t, rest, ht, hrest, hsplit⟩ := exists_split bs'
    exact ⟨c :: t, rest, by simp [hc, ht], hrest, by simp [← hsplit]⟩
  · exact ⟨[], bs, Text.isScalar_nil, fun c hc hp => h ⟨c, hc, hp⟩, rfl⟩
termination_by bs.length
decreasing_by
  rename_i hb
  subst hb
  simp only [List.length_append]
  omega

/-- There is one such cut. -/
theorem split_unique {t u : Text} {rest rest' : List UInt8} (ht : t.IsScalar) (hu : u.IsScalar)
    (hr : Undecodable rest) (hr' : Undecodable rest') (h : t.utf8 ++ rest = u.utf8 ++ rest') :
    t = u ∧ rest = rest' := by
  induction t generalizing u with
  | nil =>
    cases u with
    | nil => exact ⟨rfl, h⟩
    | cons d u =>
      rw [Text.isScalar_cons] at hu
      exact absurd ⟨Text.utf8 u ++ rest', by simpa using h.symm⟩ (hr d hu.1)
  | cons c t ih =>
    rw [Text.isScalar_cons] at ht
    rw [Text.utf8_cons, List.append_assoc] at h
    cases u with
    | nil => exact absurd ⟨Text.utf8 t ++ rest, by simpa using h⟩ (hr' c ht.1)
    | cons d u =>
      rw [Text.isScalar_cons] at hu
      rw [Text.utf8_cons, List.append_assoc] at h
      obtain rfl : c = d := eq_of_utf8_prefix ht.1 hu.1 ⟨_, rfl⟩ ⟨_, h.symm⟩
      obtain ⟨rfl, hrest⟩ := ih ht.2 hu.2 (List.append_cancel_left h)
      exact ⟨rfl, hrest⟩

end Utf8

/-- A scalar takes at least one byte. -/
theorem Text.length_le_length_utf8 {t : Text} (ht : t.IsScalar) : t.length ≤ t.utf8.length := by
  induction t with
  | nil => exact Nat.le_refl 0
  | cons c t ih =>
    obtain ⟨hc, ht⟩ := isScalar_cons.1 ht
    have hpos := List.length_pos_of_ne_nil (Utf8.utf8_ne_nil hc)
    have hmore := ih ht
    rw [utf8_cons, List.length_append, List.length_cons]
    omega

/-- The longest text whose encoding stands in front of some bytes. -/
structure Text.IsLongestIn (v : Text) (bs : List UInt8) : Prop where
  scalar : v.IsScalar
  stands : v.utf8 <+: bs
  longest : ∀ w : Text, w.IsScalar → w.utf8 <+: bs → w.utf8.length ≤ v.utf8.length

/-- It ends where no further scalar stands. -/
theorem Text.isLongestIn_iff {v : Text} {bs : List UInt8} :
    v.IsLongestIn bs ↔ v.IsScalar ∧ ∃ rest, Utf8.Undecodable rest ∧ bs = v.utf8 ++ rest := by
  constructor
  · -- A scalar behind the longest text would make a longer one.
    rintro ⟨hv, ⟨rest, rfl⟩, hlongest⟩
    refine ⟨hv, rest, fun c hc hp => ?_, rfl⟩
    have hpos : 0 < c.utf8.length := List.length_pos_iff.2 (Utf8.utf8_ne_nil hc)
    have hle := hlongest (v ++ [c]) (by simp [hv, hc]) (by simpa using hp)
    simp only [utf8_append, utf8_cons, utf8_nil, List.append_nil, List.length_append] at hle
    omega
  · -- Any other text goes on up to the one cut there is.
    rintro ⟨hv, rest, hrest, rfl⟩
    refine ⟨hv, ⟨rest, rfl⟩, fun w hw hp => ?_⟩
    obtain ⟨bs', hbs'⟩ := hp
    obtain ⟨w', rest', hw', hrest', rfl⟩ := Utf8.exists_split bs'
    rw [← List.append_assoc, ← utf8_append] at hbs'
    obtain ⟨rfl, _⟩ := Utf8.split_unique (isScalar_append.2 ⟨hw, hw'⟩) hv hrest' hrest hbs'
    simp

/-! ### Decoding at an offset -/

theorem decodeAt_of_drop {data : Array UInt8} {offset : Nat} {lead : UInt8} {tail : List UInt8}
    (h : data.toList.drop offset = lead :: tail) :
    decodeAt data offset = match Utf8.decode ((lead :: tail).take (Utf8.sequenceLength lead)) with
      | .ok [c] => .codePoint c (Utf8.sequenceLength lead)
      | _ => .invalid := by
  have hget : data[offset]? = some lead := by
    rw [← Array.getElem?_toList, ← List.head?_drop, h, List.head?_cons]
  have hextract : (data.extract offset (offset + Utf8.sequenceLength lead)).toList =
      (lead :: tail).take (Utf8.sequenceLength lead) := by
    rw [Array.toList_extract, List.extract_eq_take_drop, h, Nat.add_sub_cancel_left]
  rw [decodeAt, hget]
  exact congrArg (fun bytes => match Utf8.decode bytes with
    | .ok [c] => Decoded.codePoint c (Utf8.sequenceLength lead)
    | _ => .invalid) hextract

/-- A scalar is seen in the length of its encoding; what follows it is not looked at. -/
theorem decodeAt_utf8 {data : Array UInt8} {offset : Nat} {c : CodePoint} {rest : List UInt8}
    (hc : c.isScalar = true) (h : data.toList.drop offset = c.utf8 ++ rest) :
    decodeAt data offset = .codePoint c c.utf8.length := by
  obtain ⟨lead, tail, heq, hstep⟩ := Utf8.step_utf8 c hc
  have hlen : c.utf8.length = Utf8.sequenceLength lead := (Utf8.width_of_step_eq_codePoint (hstep rest)).1
  have hdecode : Utf8.decode c.utf8 = .ok [c] := Utf8.decode_eq_ok_iff.2 ⟨by simp [hc], by simp⟩
  rw [heq, List.cons_append] at h
  rw [decodeAt_of_drop h, ← hlen, ← List.cons_append, ← heq, List.take_left, hdecode]

/-- Where no scalar stands, a cursor sees a byte that starts none. -/
theorem decodeAt_undecodable {data : Array UInt8} {offset : Nat}
    (h : Utf8.Undecodable (data.toList.drop offset)) : decodeAt data offset = .invalid := by
  cases hdrop : data.toList.drop offset with
  | nil =>
    have hget : data[offset]? = none := by
      rw [← Array.getElem?_toList, ← List.head?_drop, hdrop, List.head?_nil]
    simp [decodeAt, hget]
  | cons lead tail =>
    rw [decodeAt_of_drop hdrop]
    split
    · next c hdecode =>
      obtain ⟨hs, hu⟩ := Utf8.decode_eq_ok_iff.1 hdecode
      have hprefix : c.utf8 <+: lead :: tail := ⟨_, by
        rw [show c.utf8 = Text.utf8 [c] by simp, hu, List.take_append_drop]⟩
      rw [hdrop] at h
      exact absurd hprefix (h c (by simpa using hs))
    · rfl

end ParenTokens
