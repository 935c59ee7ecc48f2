import ParenTokens.Json.Read
import ParenTokens.Json.Write
import Mathlib.Data.List.Basic

namespace ParenTokens

/-!
# Reading back what was written as JSON

* `Json.Plain` — the values that their text determines: no floating-point numbers, no integers longer than are read,
  and no key twice in one object.
* `Json.readString_write`, `Json.readNumber_write` — the two scalars with a grammar of their own are read back up to
  what follows them.
* `Json.readItems_write`, `Json.readPairs_write` — so are the items of an array and the fields of an object, if their
  values are.
* `Json.read_write` — **the round trip**, by induction on the value; `Json.read_write_append` lets spaces follow.

Reading a value needs two steps for each nested value; `Json.ReadsBack` asks for two for each code point of its text,
which is never less.
-/

namespace Decimal

/-! ### Numerals -/

theorem lt_of_mem_digits {n d : Nat} (h : d ∈ digits n) : d < 10 := by
  induction n using digits.induct with
  | case1 n hn =>
    rw [digits, if_pos hn, List.mem_singleton] at h
    omega
  | case2 n hn ih =>
    rw [digits, if_neg hn, List.mem_append, List.mem_singleton] at h
    rcases h with h | rfl
    · exact ih h
    · omega

/-- The first digit is a zero only in the numeral of zero. -/
theorem exists_digits_eq_cons (n : Nat) : ∃ d ds, digits n = d :: ds ∧ (d = 0 → n = 0 ∧ ds = []) := by
  induction n using digits.induct with
  | case1 n hn => exact ⟨n, [], by rw [digits, if_pos hn], fun h => ⟨h, rfl⟩⟩
  | case2 n hn ih =>
    obtain ⟨d, ds, hds, hzero⟩ := ih
    refine ⟨d, ds ++ [n % 10], by rw [digits, if_neg hn, hds, List.cons_append], fun h => ?_⟩
    have hquotient := (hzero h).1
    omega

/-- An integer starts with a digit, or with a sign and a digit. -/
theorem exists_ofInt_eq (i : Int) : ∃ d < 10, ∃ t : Text,
    ofInt i = CodePoint.ofDigit d :: t ∨ ofInt i = CodePoint.ofChar '-' :: CodePoint.ofDigit d :: t := by
  obtain ⟨d, ds, hds, -⟩ := exists_digits_eq_cons i.natAbs
  refine ⟨d, lt_of_mem_digits (n := i.natAbs) (by simp [hds]), ds.map CodePoint.ofDigit, ?_⟩
  have hnumeral : ofNat i.natAbs = CodePoint.ofDigit d :: ds.map CodePoint.ofDigit := by
    rw [ofNat, hds, List.map_cons]
  cases i with
  | ofNat n => exact .inl hnumeral
  | negSucc n => exact .inr (congrArg (CodePoint.ofChar '-' :: ·) hnumeral)

theorem val_ofDigit {d : Nat} (h : d < 10) : (CodePoint.ofDigit d).val = 0x30 + d :=
  CodePoint.val_ofNat (by omega)

theorem hexValue?_hexDigit {d : Nat} (h : d < 16) : (hexDigit d).hexValue? = some d := by
  have htable : ∀ d < 16, (hexDigit d).hexValue? = some d := by decide
  exact htable d h

end Decimal

namespace Json

open Quoted (doubleQuote backslash)

/-! ### Strings -/

theorem hex4?_hex {n : Nat} (h : n < 0x10000) :
    ∃ a b c d, Decimal.hex 4 n = [a, b, c, d] ∧ hex4? a b c d = some n := by
  refine ⟨_, _, _, _, rfl, ?_⟩
  have hdigit : ∀ m, (Decimal.hexDigit (m % 16)).hexValue? = some (m % 16) :=
    fun m => Decimal.hexValue?_hexDigit (by omega)
  simp only [hex4?, hdigit, Option.bind_eq_bind, Option.bind_some, Option.pure_def, Option.some.injEq]
  omega

theorem readString_mark (opened : Nat) (rest : Text) :
    readString opened (doubleQuote :: rest) = .ok ([], rest) := by
  unfold readString
  exact if_pos rfl

theorem readString_plain {opened : Nat} {c : CodePoint} {more t left : Text} (hmark : c ≠ doubleQuote)
    (hbackslash : c ≠ backslash) (hcontrol : ¬ c.val < 0x20) (h : readString opened more = .ok (t, left)) :
    readString opened (c :: more) = .ok (c :: t, left) := by
  unfold readString
  rw [if_neg hmark, if_neg hbackslash, if_neg hcontrol, h]
  rfl

theorem readString_short {opened : Nat} {e d : CodePoint} {more t left : Text} (hu : e ≠ CodePoint.ofChar 'u')
    (hd : shortEscape? e = some d) (h : readString opened more = .ok (t, left)) :
    readString opened (backslash :: e :: more) = .ok (d :: t, left) := by
  have hmark : backslash ≠ doubleQuote := by decide
  unfold readString
  rw [if_neg hmark, if_pos rfl]
  simp only [if_neg hu, hd, h]
  rfl

theorem readString_control {opened n : Nat} {more t left : Text} (hn : n < 0x20)
    (h : readString opened more = .ok (t, left)) :
    readString opened (backslash :: CodePoint.ofChar 'u' :: (Decimal.hex 4 n ++ more)) =
      .ok (CodePoint.ofNat n :: t, left) := by
  have hmark : backslash ≠ doubleQuote := by decide
  obtain ⟨a, b, c, d, hdigits, hvalue⟩ := hex4?_hex (n := n) (by omega)
  have hsurrogate : (CodePoint.ofNat n).isHighSurrogate = false := by
    have hval : (CodePoint.ofNat n).val = n := CodePoint.val_ofNat (by omega)
    simp [CodePoint.isHighSurrogate, hval]
    omega
  -- The digits are looked at only if something follows them, as the closing mark does at the latest.
  obtain ⟨next, more, rfl⟩ : ∃ next more', more = next :: more' := by
    cases more with
    | nil =>
      unfold readString at h
      cases h
    | cons next more => exact ⟨next, more, rfl⟩
  rw [hdigits]
  unfold readString
  rw [if_neg hmark, if_pos rfl]
  simp only [List.cons_append, List.nil_append, if_pos, hvalue, hsurrogate, Bool.false_and, Bool.false_eq_true,
    if_false, h]
  rfl

/-- A code point is written with a short escape, with four digits, or as it is. -/
theorem writeCodePoint_cases (c : CodePoint) :
    (∃ e, writeCodePoint c = [backslash, e] ∧ e ≠ CodePoint.ofChar 'u' ∧ shortEscape? e = some c) ∨
      (c.val < 0x20 ∧ writeCodePoint c = backslash :: CodePoint.ofChar 'u' :: Decimal.hex 4 c.val) ∨
        (c ≠ doubleQuote ∧ c ≠ backslash ∧ ¬ c.val < 0x20 ∧ writeCodePoint c = [c]) := by
  by_cases hself : c = doubleQuote ∨ c = backslash
  · have hu : c ≠ CodePoint.ofChar 'u' := by rcases hself with rfl | rfl <;> decide
    have hd : shortEscape? c = some c := by rcases hself with rfl | rfl <;> rfl
    exact .inl ⟨c, by rw [writeCodePoint, if_pos hself], hu, hd⟩
  rw [writeCodePoint, if_neg hself]
  by_cases hn : c = CodePoint.ofChar '\n'
  · exact .inl ⟨CodePoint.ofChar 'n', if_pos hn, by decide, by rw [hn]; decide⟩
  rw [if_neg hn]
  by_cases hr : c = CodePoint.ofChar '\r'
  · exact .inl ⟨CodePoint.ofChar 'r', if_pos hr, by decide, by rw [hr]; decide⟩
  rw [if_neg hr]
  by_cases ht : c = CodePoint.ofChar '\t'
  · exact .inl ⟨CodePoint.ofChar 't', if_pos ht, by decide, by rw [ht]; decide⟩
  rw [if_neg ht]
  by_cases hb : c.val = 0x08
  · obtain rfl : c = CodePoint.ofChar '\x08' := CodePoint.ext_val hb
    exact .inl ⟨CodePoint.ofChar 'b', if_pos hb, by decide, by decide⟩
  rw [if_neg hb]
  by_cases hf : c.val = 0x0C
  · obtain rfl : c = CodePoint.ofChar '\x0c' := CodePoint.ext_val hf
    exact .inl ⟨CodePoint.ofChar 'f', if_pos hf, by decide, by decide⟩
  rw [if_neg hf]
  by_cases hcontrol : c.val < 0x20
  · exact .inr (.inl ⟨hcontrol, if_pos hcontrol⟩)
  · rw [not_or] at hself
    exact .inr (.inr ⟨hself.1, hself.2, hcontrol, if_neg hcontrol⟩)

/-- What is written for a code point is read as that code point. -/
theorem readString_writeCodePoint {opened : Nat} (c : CodePoint) {more t left : Text}
    (h : readString opened more = .ok (t, left)) :
    readString opened (writeCodePoint c ++ more) = .ok (c :: t, left) := by
  rcases writeCodePoint_cases c with ⟨e, hwrite, hu, he⟩ | ⟨hcontrol, hwrite⟩ |
    ⟨hmark, hbackslash, hcontrol, hwrite⟩
  · rw [hwrite]
    exact readString_short hu he h
  · have hread := readString_control hcontrol h
    rw [CodePoint.ofNat_val] at hread
    rw [hwrite]
    exact hread
  · rw [hwrite]
    exact readString_plain hmark hbackslash hcontrol h

/-- **Strings.** A written string is read back up to its closing mark. -/
theorem readString_write (opened : Nat) (t rest : Text) :
    readString opened (t.flatMap writeCodePoint ++ doubleQuote :: rest) = .ok (t, rest) := by
  induction t with
  | nil => exact readString_mark opened rest
  | cons c t ih =>
    rw [List.flatMap_cons, List.append_assoc]
    exact readString_writeCodePoint c ih

theorem writeString_append (t rest : Text) :
    writeString t ++ rest = doubleQuote :: (t.flatMap writeCodePoint ++ doubleQuote :: rest) := by
  simp [writeString]

/-! ### Integers -/

/-- What may stand behind a value that was written: nothing, or the mark that follows an item or a field. -/
def Ends (rest : Text) : Prop :=
  ∀ c ∈ rest.head?, c = CodePoint.ofChar ',' ∨ c = CodePoint.ofChar ']' ∨ c = CodePoint.ofChar '\x7d'

theorem ends_nil : Ends [] := by
  intro c hc
  cases hc

theorem ends_cons {c : CodePoint}
    (h : c = CodePoint.ofChar ',' ∨ c = CodePoint.ofChar ']' ∨ c = CodePoint.ofChar '\x7d') (rest : Text) :
    Ends (c :: rest) := by
  intro d hd
  obtain rfl : c = d := by simpa using hd
  exact h

theorem spanDigits_digits {ds : List Nat} (hds : ∀ d ∈ ds, d < 10) {rest : Text} (hrest : Ends rest) :
    spanDigits (ds.map CodePoint.ofDigit ++ rest) = (ds, rest) := by
  induction ds with
  | nil =>
    cases rest with
    | nil => rfl
    | cons c rest =>
      have hc : c.isAsciiDigit = false := by
        rcases hrest c rfl with rfl | rfl | rfl <;> decide
      simp [spanDigits, hc]
  | cons d ds ih =>
    have hval := Decimal.val_ofDigit (hds d (by simp))
    have hlt := hds d (by simp)
    have hdigit : (CodePoint.ofDigit d).isAsciiDigit = true := by
      simp [CodePoint.isAsciiDigit, hval]
      omega
    have hmore := ih fun e he => hds e (by simp [he])
    simp only [spanDigits, Prod.mk.injEq] at hmore
    simp [spanDigits, hdigit, hval, hmore]

theorem readWhole?_digits (n : Nat) {rest : Text} (hrest : Ends rest) :
    readWhole? ((Decimal.digits n).map CodePoint.ofDigit ++ rest) = some (Decimal.digits n, rest) := by
  have hlt : ∀ d ∈ Decimal.digits n, d < 10 := fun d hd => Decimal.lt_of_mem_digits hd
  have hspan := spanDigits_digits hlt hrest
  obtain ⟨d, ds, hds, hzero⟩ := Decimal.exists_digits_eq_cons n
  rw [hds] at hspan hlt ⊢
  rw [List.map_cons, List.cons_append] at hspan ⊢
  have hval := Decimal.val_ofDigit (hlt d (by simp))
  rw [readWhole?]
  -- A zero ends the whole part at once, so it must be the only digit.
  by_cases hd : d = 0
  · obtain ⟨-, rfl⟩ := hzero hd
    subst hd
    rw [if_pos (by decide)]
    rfl
  · have hne : CodePoint.ofDigit d ≠ CodePoint.ofChar '0' := by
      intro h
      rw [h] at hval
      have : (CodePoint.ofChar '0').val = 0x30 := by decide
      omega
    rw [if_neg hne, hspan]

theorem readFraction?_of_ends {rest : Text} (hrest : Ends rest) : readFraction? rest = none := by
  cases rest with
  | nil => rfl
  | cons c rest =>
    have hne : c ≠ CodePoint.ofChar '.' := by
      rcases hrest c rfl with rfl | rfl | rfl <;> decide
    rw [readFraction?, if_neg hne]

theorem readExponent?_of_ends {rest : Text} (hrest : Ends rest) : readExponent? rest = none := by
  cases rest with
  | nil => rfl
  | cons c rest =>
    have hne : ¬ (c = CodePoint.ofChar 'e' ∨ c = CodePoint.ofChar 'E') := by
      rcases hrest c rfl with rfl | rfl | rfl <;> decide
    unfold readExponent?
    exact if_neg hne

/-- **Integers.** A written integer is read back, unless it has too many digits. -/
theorem readNumber_write {i : Int} (hi : (Decimal.digits i.natAbs).length ≤ Decimal.digitLimit) {rest : Text}
    (hrest : Ends rest) : readNumber (Decimal.ofInt i ++ rest) = .ok (.int i, rest) := by
  have hlimit : ¬ Decimal.digitLimit < (Decimal.digits i.natAbs).length := by omega
  have hwhole := readWhole?_digits i.natAbs hrest
  have hfraction := readFraction?_of_ends hrest
  have hexponent := readExponent?_of_ends hrest
  cases i with
  | ofNat n =>
    obtain ⟨d, ds, hds, -⟩ := Decimal.exists_digits_eq_cons n
    have hval := Decimal.val_ofDigit (Decimal.lt_of_mem_digits (n := n) (d := d) (by simp [hds]))
    have hne : CodePoint.ofDigit d ≠ CodePoint.ofChar '-' := by
      intro h
      rw [h] at hval
      have : (CodePoint.ofChar '-').val = 0x2D := by decide
      omega
    have hvalue : Binary64.signed false (Decimal.ofDigits (Decimal.digits n)) = Int.ofNat n := by
      rw [Decimal.ofDigits_digits]
      rfl
    show readNumber ((Decimal.digits n).map CodePoint.ofDigit ++ rest) = _
    rw [Int.natAbs_ofNat'] at hwhole hlimit
    rw [hds] at hwhole hlimit hvalue ⊢
    rw [List.map_cons, List.cons_append] at hwhole ⊢
    unfold readNumber
    simp only [if_neg hne, hwhole, hfraction, Option.getD_none, hexponent, List.isEmpty_nil, Option.isNone_none,
      Bool.and_true, if_pos, if_neg hlimit, hvalue]
  | negSucc n =>
    have hvalue : Binary64.signed true (Decimal.ofDigits (Decimal.digits (n + 1))) = Int.negSucc n := by
      rw [Decimal.ofDigits_digits]
      rfl
    show readNumber (CodePoint.ofChar '-' :: ((Decimal.digits (n + 1)).map CodePoint.ofDigit ++ rest)) = _
    rw [Int.natAbs_negSucc] at hwhole hlimit
    unfold readNumber
    simp only [if_pos, hwhole, hfraction, Option.getD_none, hexponent, List.isEmpty_nil, Option.isNone_none,
      Bool.and_true, if_neg hlimit, hvalue]

/-! ### Values -/

/-- A value that its text determines: without floating-point numbers and integers of too many digits, and with each
    key once in an object. -/
inductive Plain : Json → Prop
  | null : Plain .null
  | bool (b : Bool) : Plain (.bool b)
  | int (i : Int) (h : (Decimal.digits i.natAbs).length ≤ Decimal.digitLimit) : Plain (.int i)
  | string (t : Text) : Plain (.string t)
  | array (items : List Json) (h : ∀ x ∈ items, Plain x) : Plain (.array items)
  | object (fields : List (Text × Json)) (distinct : (fields.map Prod.fst).Nodup)
      (h : ∀ f ∈ fields, Plain f.2) : Plain (.object fields)

/-- The first code point of a value is none that reading would skip or take for the end of an array. -/
theorem exists_write_eq_cons {x : Json} (hx : Plain x) :
    ∃ c u, x.write = c :: u ∧ isSpace c = false ∧ c ≠ CodePoint.ofChar ']' ∧ c.val < 0x80 := by
  cases hx with
  | null => exact ⟨_, _, rfl, by decide, by decide, by decide⟩
  | bool b =>
    cases b with
    | false => exact ⟨_, _, rfl, by decide, by decide, by decide⟩
    | true => exact ⟨_, _, rfl, by decide, by decide, by decide⟩
  | int i hi =>
    obtain ⟨d, hlt, t, ht⟩ := Decimal.exists_ofInt_eq i
    rcases ht with ht | ht
    · have htable : ∀ d < 10, isSpace (CodePoint.ofDigit d) = false ∧
          CodePoint.ofDigit d ≠ CodePoint.ofChar ']' ∧ (CodePoint.ofDigit d).val < 0x80 := by decide
      exact ⟨_, _, ht, htable d hlt⟩
    · exact ⟨_, _, ht, by decide, by decide, by decide⟩
  | string t => exact ⟨_, _, rfl, by decide, by decide, by decide⟩
  | array items h => exact ⟨_, _, rfl, by decide, by decide, by decide⟩
  | object fields distinct h => exact ⟨_, _, rfl, by decide, by decide, by decide⟩

theorem after?_eq_some {word t rest : Text} (h : after? word t = some rest) : t = word ++ rest := by
  induction word generalizing t with
  | nil => exact Option.some.inj h
  | cons w word ih =>
    cases t with
    | nil => cases h
    | cons c t =>
      rw [after?] at h
      split at h
      · next hw => rw [hw, ih h, List.cons_append]
      · cases h

/-- An integer starts like none of the words. -/
theorem readWord?_int (i : Int) (rest : Text) : readWord? (Decimal.ofInt i ++ rest) = none := by
  have hafter : ∀ p ∈ words, after? p.1 (Decimal.ofInt i ++ rest) = none := by
    intro p hp
    cases h : after? p.1 (Decimal.ofInt i ++ rest) with
    | none => rfl
    | some left =>
      have happend := after?_eq_some h
      -- Two code points tell a word from a numeral, the first from one without a sign.
      obtain ⟨d, hlt, t, ht⟩ := Decimal.exists_ofInt_eq i
      have htable : ∀ d < 10, ∀ p ∈ words, 2 ≤ p.1.length ∧ p.1.take 1 ≠ [CodePoint.ofDigit d] ∧
          p.1.take 2 ≠ [CodePoint.ofChar '-', CodePoint.ofDigit d] := by decide
      obtain ⟨hlength, hdigit, hsign⟩ := htable d hlt p hp
      rcases ht with ht | ht
      · refine absurd ?_ hdigit
        rw [← List.take_append_of_le_length (by omega), ← happend, ht]
        rfl
      · refine absurd ?_ hsign
        rw [← List.take_append_of_le_length hlength, ← happend, ht]
        rfl
  rw [readWord?, List.findSome?_eq_none_iff]
  intro p hp
  show (after? p.1 (Decimal.ofInt i ++ rest)).map _ = none
  rw [hafter p hp, Option.map_none]

theorem readValue_int {i : Int} (hi : (Decimal.digits i.natAbs).length ≤ Decimal.digitLimit) {rest : Text}
    (hrest : Ends rest) (steps : Nat) : readValue (steps + 1) (Decimal.ofInt i ++ rest) = .ok (.int i, rest) := by
  have hword := readWord?_int i rest
  have hnumber := readNumber_write hi hrest
  obtain ⟨c, u, hc, hmark, hbracket, hbrace⟩ : ∃ c u, Decimal.ofInt i ++ rest = c :: u ∧
      c ≠ doubleQuote ∧ c ≠ CodePoint.ofChar '[' ∧ c ≠ CodePoint.ofChar '\x7b' := by
    obtain ⟨d, hlt, t, ht⟩ := Decimal.exists_ofInt_eq i
    rcases ht with ht | ht
    · have htable : ∀ d < 10, CodePoint.ofDigit d ≠ doubleQuote ∧
          CodePoint.ofDigit d ≠ CodePoint.ofChar '[' ∧ CodePoint.ofDigit d ≠ CodePoint.ofChar '\x7b' := by decide
      exact ⟨_, _, by rw [ht, List.cons_append], htable d hlt⟩
    · exact ⟨_, _, by rw [ht, List.cons_append], by decide⟩
  rw [hc] at hword hnumber ⊢
  rw [readValue, if_neg hmark, if_neg hbracket, if_neg hbrace, hword]
  exact hnumber

theorem readValue_null (rest : Text) (steps : Nat) :
    readValue (steps + 1) (write .null ++ rest) = .ok (.null, rest) := rfl

theorem readValue_bool (b : Bool) (rest : Text) (steps : Nat) :
    readValue (steps + 1) (write (.bool b) ++ rest) = .ok (.bool b, rest) := by
  cases b <;> rfl

theorem readValue_string (t rest : Text) (steps : Nat) :
    readValue (steps + 1) (writeString t ++ rest) = .ok (.string t, rest) := by
  rw [writeString_append, readValue, if_pos rfl, readString_write]
  rfl

/-! ### Texts of arrays and objects -/

theorem skipSpace_cons {c : CodePoint} (h : isSpace c = false) (t : Text) : skipSpace (c :: t) = c :: t := by
  rw [skipSpace, List.dropWhile_cons_of_neg (by simp [h])]

theorem skipSpace_write {x : Json} (hx : Plain x) (t : Text) : skipSpace (x.write ++ t) = x.write ++ t := by
  obtain ⟨c, u, hc, hspace, -⟩ := exists_write_eq_cons hx
  rw [hc, List.cons_append, skipSpace_cons hspace]

/-- What is to be shown of a value: it is read back from its text, given steps enough. -/
def ReadsBack (x : Json) : Prop :=
  ∀ (steps : Nat) (rest : Text), 2 * x.write.length ≤ steps → Ends rest →
    readValue steps (x.write ++ rest) = .ok (x, rest)

theorem join_cons_cons (sep t u : Text) (ts : List Text) :
    Text.join sep (t :: u :: ts) = t ++ sep ++ Text.join sep (u :: ts) := rfl

theorem exists_join_eq_append (sep t : Text) (ts : List Text) : ∃ u, Text.join sep (t :: ts) = t ++ u := by
  cases ts with
  | nil => exact ⟨[], (List.append_nil t).symm⟩
  | cons u ts => exact ⟨sep ++ Text.join sep (u :: ts), by rw [join_cons_cons, List.append_assoc]⟩

/-! ### Items -/

theorem join_writeItems_cons (x y : Json) (items : List Json) : Text.join "," (writeItems (x :: y :: items)) =
    x.write ++ CodePoint.ofChar ',' :: Text.join "," (writeItems (y :: items)) := by
  simp only [writeItems, join_cons_cons, List.append_assoc]
  rfl

theorem skipSpace_items {x : Json} (hx : Plain x) (items : List Json) (t : Text) :
    skipSpace (Text.join "," (writeItems (x :: items)) ++ t) = Text.join "," (writeItems (x :: items)) ++ t := by
  obtain ⟨u, hu⟩ := exists_join_eq_append "," x.write (writeItems items)
  rw [writeItems, hu, List.append_assoc, skipSpace_write hx]

theorem readItems_last {steps : Nat} {x : Json} {t rest : Text}
    (h : readValue steps t = .ok (x, CodePoint.ofChar ']' :: rest)) :
    readItems (steps + 1) t = .ok ([x], rest) := by
  rw [readItems, h]
  rfl

theorem readItems_more {steps : Nat} {x : Json} {xs : List Json} {t more rest : Text}
    (h : readValue steps t = .ok (x, CodePoint.ofChar ',' :: more))
    (hmore : readItems steps (skipSpace more) = .ok (xs, rest)) :
    readItems (steps + 1) t = .ok (x :: xs, rest) := by
  have hspace : skipSpace (CodePoint.ofChar ',' :: more) = CodePoint.ofChar ',' :: more :=
    skipSpace_cons (by decide) more
  have hne : CodePoint.ofChar ',' ≠ CodePoint.ofChar ']' := by decide
  rw [readItems, h]
  simp only [bind, Except.bind, hspace, if_neg hne, if_pos, hmore]
  rfl

/-- **Items.** The written items of an array are read back up to the closing bracket. -/
theorem readItems_write {items : List Json} (hne : items ≠ []) (hplain : ∀ x ∈ items, Plain x)
    (hread : ∀ x ∈ items, ReadsBack x) (steps : Nat)
    (hsteps : 2 * (Text.join "," (writeItems items)).length + 1 ≤ steps) (rest : Text) :
    readItems steps (Text.join "," (writeItems items) ++ CodePoint.ofChar ']' :: rest) = .ok (items, rest) := by
  induction items generalizing steps with
  | nil => exact absurd rfl hne
  | cons x items ih =>
    have hx : ReadsBack x := hread x (by simp)
    -- One step for this item and its mark; the rest is enough for its value, and for the items behind it.
    obtain ⟨steps, rfl⟩ : ∃ n, steps = n + 1 := ⟨steps - 1, by omega⟩
    cases items with
    | nil =>
      have hsingle : Text.join "," (writeItems [x]) = x.write := rfl
      rw [hsingle] at hsteps ⊢
      exact readItems_last (hx steps _ (by omega) (ends_cons (by simp) rest))
    | cons y items =>
      have hy : Plain y := hplain y (by simp)
      rw [join_writeItems_cons, List.length_append, List.length_cons] at hsteps
      have hmore := ih (by simp) (fun z hz => hplain z (by simp [hz])) (fun z hz => hread z (by simp [hz]))
        steps (by omega)
      rw [join_writeItems_cons, List.append_assoc, List.cons_append]
      refine readItems_more (hx steps _ (by omega) (ends_cons (by simp) _)) ?_
      rw [skipSpace_items hy, hmore]

/-! ### Fields -/

theorem join_writeFields_singleton (key : Text) (x : Json) : Text.join "," (writeFields [(key, x)]) =
    writeString key ++ CodePoint.ofChar ':' :: x.write := by
  simp only [writeFields, Text.join, List.append_assoc]
  rfl

theorem join_writeFields_cons (key : Text) (x : Json) (f : Text × Json) (fields : List (Text × Json)) :
    Text.join "," (writeFields ((key, x) :: f :: fields)) = writeString key ++ CodePoint.ofChar ':' ::
      (x.write ++ CodePoint.ofChar ',' :: Text.join "," (writeFields (f :: fields))) := by
  simp only [writeFields, join_cons_cons, List.append_assoc]
  rfl

theorem exists_join_writeFields_eq_cons (f : Text × Json) (fields : List (Text × Json)) :
    ∃ u, Text.join "," (writeFields (f :: fields)) = doubleQuote :: u := by
  obtain ⟨u, hu⟩ := exists_join_eq_append "," (writeString f.1 ++ (":" : Text) ++ f.2.write) (writeFields fields)
  exact ⟨_, hu⟩

theorem skipSpace_fields (f : Text × Json) (fields : List (Text × Json)) (t : Text) :
    skipSpace (Text.join "," (writeFields (f :: fields)) ++ t) = Text.join "," (writeFields (f :: fields)) ++ t := by
  obtain ⟨u, hu⟩ := exists_join_writeFields_eq_cons f fields
  rw [hu]
  exact skipSpace_cons (by decide) _

theorem readPairs_last {steps : Nat} {key t rest : Text} {x : Json}
    (h : readValue steps (skipSpace t) = .ok (x, CodePoint.ofChar '\x7d' :: rest)) :
    readPairs (steps + 1) (writeString key ++ CodePoint.ofChar ':' :: t) = .ok ([(key, x)], rest) := by
  have hcolon : skipSpace (CodePoint.ofChar ':' :: t) = CodePoint.ofChar ':' :: t := skipSpace_cons (by decide) t
  have hbrace : skipSpace (CodePoint.ofChar '\x7d' :: rest) = CodePoint.ofChar '\x7d' :: rest :=
    skipSpace_cons (by decide) rest
  rw [writeString_append, readPairs, if_pos rfl, readString_write]
  simp only [bind, Except.bind, hcolon, hbrace, if_pos, h]
  rfl

theorem readPairs_more {steps : Nat} {key t more rest : Text} {x : Json} {pairs : List (Text × Json)}
    (h : readValue steps (skipSpace t) = .ok (x, CodePoint.ofChar ',' :: more))
    (hmore : readPairs steps (skipSpace more) = .ok (pairs, rest)) :
    readPairs (steps + 1) (writeString key ++ CodePoint.ofChar ':' :: t) = .ok ((key, x) :: pairs, rest) := by
  have hcolon : skipSpace (CodePoint.ofChar ':' :: t) = CodePoint.ofChar ':' :: t := skipSpace_cons (by decide) t
  have hcomma : skipSpace (CodePoint.ofChar ',' :: more) = CodePoint.ofChar ',' :: more :=
    skipSpace_cons (by decide) more
  have hne : CodePoint.ofChar ',' ≠ CodePoint.ofChar '\x7d' := by decide
  rw [writeString_append, readPairs, if_pos rfl, readString_write]
  simp only [bind, Except.bind, hcolon, hcomma, if_neg hne, if_pos, h, hmore]
  rfl

/-- **Fields.** The written fields of an object are read back up to the closing brace. -/
theorem readPairs_write {fields : List (Text × Json)} (hne : fields ≠ []) (hplain : ∀ f ∈ fields, Plain f.2)
    (hread : ∀ f ∈ fields, ReadsBack f.2) (steps : Nat)
    (hsteps : 2 * (Text.join "," (writeFields fields)).length + 1 ≤ steps) (rest : Text) :
    readPairs steps (Text.join "," (writeFields fields) ++ CodePoint.ofChar '\x7d' :: rest) =
      .ok (fields, rest) := by
  induction fields generalizing steps with
  | nil => exact absurd rfl hne
  | cons f fields ih =>
    obtain ⟨key, x⟩ := f
    have hx : Plain x := hplain (key, x) (by simp)
    have hreads : ReadsBack x := hread (key, x) (by simp)
    obtain ⟨steps, rfl⟩ : ∃ n, steps = n + 1 := ⟨steps - 1, by omega⟩
    cases fields with
    | nil =>
      rw [join_writeFields_singleton] at hsteps ⊢
      rw [List.length_append, List.length_cons] at hsteps
      rw [List.append_assoc, List.cons_append]
      refine readPairs_last ?_
      rw [skipSpace_write hx]
      exact hreads steps _ (by omega) (ends_cons (by simp) rest)
    | cons g fields =>
      rw [join_writeFields_cons, List.length_append, List.length_cons, List.length_append, List.length_cons] at hsteps
      have hmore := ih (by simp) (fun f hf => hplain f (by simp [hf])) (fun f hf => hread f (by simp [hf]))
        steps (by omega)
      rw [← skipSpace_fields] at hmore
      rw [join_writeFields_cons, List.append_assoc, List.cons_append, List.append_assoc, List.cons_append]
      refine readPairs_more ?_ hmore
      rw [skipSpace_write hx]
      exact hreads steps _ (by omega) (ends_cons (by simp) _)

theorem put_of_not_mem {key : Text} {value : Json} {fields : List (Text × Json)}
    (h : key ∉ fields.map Prod.fst) : Fields.put key value fields = fields ++ [(key, value)] := by
  induction fields with
  | nil => rfl
  | cons f fields ih =>
    obtain ⟨k, v⟩ := f
    rw [List.map_cons, List.mem_cons, not_or] at h
    rw [Fields.put, if_neg (Ne.symm h.1), ih h.2, List.cons_append]

/-- Pairs with distinct keys are the fields of an object as they stand. -/
theorem ofPairs_of_nodup {pairs : List (Text × Json)} (h : (pairs.map Prod.fst).Nodup) :
    Fields.ofPairs pairs = pairs := by
  have hfold : ∀ (pairs fields : List (Text × Json)), ((fields ++ pairs).map Prod.fst).Nodup →
      pairs.foldl (fun fields (p : Text × Json) => Fields.put p.1 p.2 fields) fields = fields ++ pairs := by
    intro pairs
    induction pairs with
    | nil => intro fields _; simp
    | cons p pairs ih =>
      intro fields hnodup
      have hnew : p.1 ∉ fields.map Prod.fst := by
        rw [List.map_append, List.nodup_append] at hnodup
        intro hmem
        exact hnodup.2.2 _ hmem _ (by simp) rfl
      rw [List.foldl_cons, put_of_not_mem hnew, ih, List.append_assoc, List.singleton_append]
      rwa [List.append_assoc, List.singleton_append]
  exact hfold pairs [] h

/-! ### The round trip -/

theorem write_array (items : List Json) : write (.array items) =
    CodePoint.ofChar '[' :: (Text.join "," (writeItems items) ++ [CodePoint.ofChar ']']) := by
  rw [write]
  rfl

theorem write_object (fields : List (Text × Json)) : write (.object fields) =
    CodePoint.ofChar '\x7b' :: (Text.join "," (writeFields fields) ++ [CodePoint.ofChar '\x7d']) := by
  rw [write]
  rfl

theorem readValue_array {items : List Json} (hplain : ∀ x ∈ items, Plain x) (hread : ∀ x ∈ items, ReadsBack x) :
    ReadsBack (.array items) := by
  intro steps rest hsteps hrest
  rw [write_array, List.length_cons, List.length_append, List.length_singleton] at hsteps
  -- One step for the brackets, and one that `readItems` takes.
  obtain ⟨steps, rfl⟩ : ∃ n, steps = n + 1 := ⟨steps - 1, by omega⟩
  have hmark : CodePoint.ofChar '[' ≠ doubleQuote := by decide
  rw [write_array, List.cons_append, List.append_assoc, List.singleton_append, readValue, if_neg hmark, if_pos rfl]
  cases items with
  | nil => rfl
  | cons x items =>
    have hitems := readItems_write (List.cons_ne_nil x items) hplain hread steps (by omega) rest
    obtain ⟨u, hu⟩ := exists_join_eq_append "," x.write (writeItems items)
    obtain ⟨c, v, hc, hspace, hbracket, -⟩ := exists_write_eq_cons (hplain x (by simp))
    rw [writeItems, hu, hc, List.append_assoc, List.cons_append] at hitems ⊢
    rw [skipSpace_cons hspace]
    simp only [if_neg hbracket, hitems]
    rfl

/-- An object ends with its brace, so that anything may stand behind it. -/
theorem readValue_object {fields : List (Text × Json)} (distinct : (fields.map Prod.fst).Nodup)
    (hplain : ∀ f ∈ fields, Plain f.2) (hread : ∀ f ∈ fields, ReadsBack f.2) {steps : Nat}
    (hsteps : 2 * (write (.object fields)).length ≤ steps) (rest : Text) :
    readValue steps (write (.object fields) ++ rest) = .ok (.object fields, rest) := by
  rw [write_object, List.length_cons, List.length_append, List.length_singleton] at hsteps
  obtain ⟨steps, rfl⟩ : ∃ n, steps = n + 1 := ⟨steps - 1, by omega⟩
  have hmark : CodePoint.ofChar '\x7b' ≠ doubleQuote := by decide
  have hbracket : CodePoint.ofChar '\x7b' ≠ CodePoint.ofChar '[' := by decide
  rw [write_object, List.cons_append, List.append_assoc, List.singleton_append, readValue, if_neg hmark,
    if_neg hbracket, if_pos rfl]
  cases fields with
  | nil => rfl
  | cons f fields =>
    have hpairs := readPairs_write (List.cons_ne_nil f fields) hplain hread steps (by omega) rest
    obtain ⟨u, hu⟩ := exists_join_writeFields_eq_cons f fields
    have hspace : isSpace doubleQuote = false := by decide
    have hbrace : doubleQuote ≠ CodePoint.ofChar '\x7d' := by decide
    rw [hu, List.cons_append] at hpairs ⊢
    rw [skipSpace_cons hspace]
    simp only [if_neg hbrace, hpairs, bind, Except.bind, ofPairs_of_nodup distinct]
    rfl

/-- Plain values are read back, one case for each kind of value. -/
theorem readsBack {x : Json} (hx : Plain x) : ReadsBack x := by
  -- A value is never written as nothing, so there is a step for it.
  have hpositive : ∀ {x : Json} {steps : Nat}, Plain x → 2 * x.write.length ≤ steps → ∃ n, steps = n + 1 := by
    intro x steps hx hsteps
    obtain ⟨c, u, hc, -⟩ := exists_write_eq_cons hx
    rw [hc, List.length_cons] at hsteps
    exact ⟨steps - 1, by omega⟩
  induction hx with
  | null =>
    intro steps rest hsteps hrest
    obtain ⟨steps, rfl⟩ := hpositive .null hsteps
    exact readValue_null rest steps
  | bool b =>
    intro steps rest hsteps hrest
    obtain ⟨steps, rfl⟩ := hpositive (.bool b) hsteps
    exact readValue_bool b rest steps
  | int i hi =>
    intro steps rest hsteps hrest
    obtain ⟨steps, rfl⟩ := hpositive (.int i hi) hsteps
    exact readValue_int hi hrest steps
  | string t =>
    intro steps rest hsteps hrest
    obtain ⟨steps, rfl⟩ := hpositive (.string t) hsteps
    exact readValue_string t rest steps
  | array items h ih => exact readValue_array h ih
  | object fields distinct h ih =>
    intro steps rest hsteps hrest
    exact readValue_object distinct h ih hsteps rest

theorem head_write_ne_mark {x : Json} (hx : Plain x) (t : Text) :
    ¬ (x.write ++ t).head?.any (·.val == 0xFEFF) := by
  obtain ⟨c, u, hc, -, -, hval⟩ := exists_write_eq_cons hx
  rw [hc]
  simp
  omega

/-- **The round trip.** The text of a plain value is read back as that value. -/
theorem read_write {x : Json} (hx : Plain x) : read x.write = .ok x := by
  have hvalue : readValue (2 * x.write.length + 2) (x.write ++ []) = .ok (x, []) :=
    readsBack hx _ [] (by omega) ends_nil
  have hskip : skipSpace (x.write ++ []) = x.write ++ [] := skipSpace_write hx []
  have hmark := head_write_ne_mark hx []
  rw [List.append_nil] at hvalue hskip hmark
  rw [read, if_neg hmark, hskip, hvalue]
  rfl

/-- An object is read back when spaces follow its text, too. -/
theorem read_write_append {fields : List (Text × Json)} (hx : Plain (.object fields)) {spaces : Text}
    (hspaces : skipSpace spaces = []) : read ((object fields).write ++ spaces) = .ok (.object fields) := by
  obtain ⟨distinct, hplain⟩ : (fields.map Prod.fst).Nodup ∧ ∀ f ∈ fields, Plain f.2 := by
    cases hx with
    | object _ distinct h => exact ⟨distinct, h⟩
  have hsteps : 2 * (object fields).write.length ≤ 2 * ((object fields).write ++ spaces).length + 2 := by
    rw [List.length_append]
    omega
  have hvalue := readValue_object distinct hplain (fun f hf => readsBack (hplain f hf)) hsteps spaces
  rw [read, if_neg (head_write_ne_mark hx spaces), skipSpace_write hx spaces, hvalue]
  simp only [hspaces]

end Json

end ParenTokens
