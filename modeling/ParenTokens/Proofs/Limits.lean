import ParenTokens.Proofs.Schema
import ParenTokens.Proofs.Recording
import Mathlib.Data.List.Induction

namespace ParenTokens

/-!
# Integers of limited length

Integers with more than `Decimal.digitLimit` digits are neither read nor written.  What is read keeps that limit, and
so does what is made of it, in whichever way a position was given.

* `Json.fits`, `Json.write?` — whether all integers in a value keep the limit, and the text of a value that does.
* `Json.fits_of_read` — values that are read do, by induction on the steps of reading.
* `Json.fits_of_toInteger` — so do the integers that such values give.
* `Transcript.storable_of_describes` — so does each transcript that such a value describes.
* `Transcript.write?_toJson` — and a transcript that does can be written.
-/

/-! ### Digits -/

theorem Decimal.ofDigits_concat (ds : List Nat) (d : Nat) : ofDigits (ds ++ [d]) = 10 * ofDigits ds + d := by
  rw [ofDigits, ofDigitsIn, List.foldl_append]
  rfl

/-- A number has no more digits than it was given with. -/
theorem Decimal.length_digits_ofDigits_le {ds : List Nat} (hne : ds ≠ []) (hds : ∀ d ∈ ds, d < 10) :
    (digits (ofDigits ds)).length ≤ ds.length := by
  induction ds using List.reverseRecOn with
  | nil => exact absurd rfl hne
  | append_singleton ds d ih =>
    have hd : d < 10 := hds d (by simp)
    rw [ofDigits_concat, List.length_append, List.length_singleton]
    by_cases hsmall : 10 * ofDigits ds + d < 10
    · rw [digits_of_lt hsmall, List.length_singleton]
      omega
    · -- The last digit is cut off again; what is left of the digits cannot be nothing.
      have hquotient : (10 * ofDigits ds + d) / 10 = ofDigits ds := by omega
      have hmore : ds ≠ [] := by
        rintro rfl
        exact hsmall (by simpa [ofDigits, ofDigitsIn] using hd)
      have hle := ih hmore fun e he => hds e (by simp [he])
      rw [length_digits_of_not_lt hsmall, hquotient]
      omega

namespace Json

/-! ### Values that keep the limit -/

mutual

/-- Whether no integer in a value has more digits than are read. -/
def fits : Json → Bool
  | null | bool _ | float _ | string _ => true
  | int i => (Decimal.digits i.natAbs).length ≤ Decimal.digitLimit
  | array items => itemsFit items
  | object fields => fieldsFit fields

def itemsFit : List Json → Bool
  | [] => true
  | x :: items => x.fits && itemsFit items

def fieldsFit : List (Text × Json) → Bool
  | [] => true
  | (_, x) :: fields => x.fits && fieldsFit fields

end

/-- The text of a value, unless an integer in it is too long to be written. -/
def write? (x : Json) : Option Text := if x.fits then some x.write else none

theorem fits_int {i : Int} : (int i).fits = true ↔ (Decimal.digits i.natAbs).length ≤ Decimal.digitLimit := by
  rw [fits, decide_eq_true_eq]

theorem itemsFit_iff {items : List Json} : itemsFit items = true ↔ ∀ x ∈ items, x.fits = true := by
  induction items with
  | nil => simp [itemsFit]
  | cons x items ih => simp [itemsFit, ih]

theorem fieldsFit_iff {fields : List (Text × Json)} : fieldsFit fields = true ↔ ∀ f ∈ fields, f.2.fits = true := by
  induction fields with
  | nil => simp [fieldsFit]
  | cons f fields ih => simp [fieldsFit, ih]

theorem Plain.fits {x : Json} (hx : Plain x) : x.fits = true := by
  induction hx with
  | null => rfl
  | bool b => rfl
  | int i hi => exact fits_int.2 hi
  | string t => rfl
  | array items h ih => exact itemsFit_iff.2 ih
  | object fields distinct h ih => exact fieldsFit_iff.2 ih

/-! ### Numbers -/

theorem natAbs_signed (negative : Bool) (m : Nat) : (Binary64.signed negative m).natAbs = m := by
  cases negative <;> simp [Binary64.signed]

theorem fits_signed (negative : Bool) {ds : List Nat} (hne : ds ≠ []) (hds : ∀ d ∈ ds, d < 10)
    (h : ds.length ≤ Decimal.digitLimit) : (int (Binary64.signed negative (Decimal.ofDigits ds))).fits = true := by
  have hle := Decimal.length_digits_ofDigits_le hne hds
  rw [fits_int, natAbs_signed]
  omega

theorem lt_of_mem_spanDigits (t : Text) : ∀ d ∈ (spanDigits t).1, d < 10 := by
  intro d hd
  obtain ⟨c, hc, rfl⟩ := List.mem_map.1 hd
  have hdigit := List.mem_takeWhile_imp hc
  simp only [CodePoint.isAsciiDigit, Bool.and_eq_true, decide_eq_true_eq] at hdigit
  omega

/-- A whole part has digits, and nothing else. -/
theorem digits_of_readWhole? {t rest : Text} {ds : List Nat} (h : readWhole? t = some (ds, rest)) :
    ds ≠ [] ∧ ∀ d ∈ ds, d < 10 := by
  cases t with
  | nil => cases h
  | cons c t =>
    have hdigits := lt_of_mem_spanDigits (c :: t)
    rw [readWhole?] at h
    by_cases hzero : c = CodePoint.ofChar '0'
    · rw [if_pos hzero] at h
      cases h
      exact ⟨by simp, by simp⟩
    · rw [if_neg hzero] at h
      generalize spanDigits (c :: t) = span at h hdigits
      obtain ⟨_ | ⟨e, es⟩, left⟩ := span
      · cases h
      · cases h
        exact ⟨List.cons_ne_nil e es, hdigits⟩

/-- A number with a fraction or an exponent is a float; the digits of any other are counted. -/
theorem readNumber_cases {t left : Text} {x : Json} (h : readNumber t = .ok (x, left)) :
    (∃ y, x = .float y) ∨ ∃ negative ds, ds ≠ [] ∧ (∀ d ∈ ds, d < 10) ∧ ds.length ≤ Decimal.digitLimit ∧
      x = .int (Binary64.signed negative (Decimal.ofDigits ds)) := by
  unfold readNumber at h
  simp only at h
  split at h
  · cases h
  · next whole rest hwhole =>
    obtain ⟨hne, hds⟩ := digits_of_readWhole? hwhole
    split at h
    · split at h
      · next hnone => simp at hnone
      · obtain ⟨rfl, -⟩ := Prod.mk.inj (Except.ok.inj h)
        exact .inl ⟨_, rfl⟩
    · split at h
      · split at h
        · exact nomatch h
        · next hlength =>
          obtain ⟨rfl, -⟩ := Prod.mk.inj (Except.ok.inj h)
          exact .inr ⟨_, whole, hne, hds, Nat.le_of_not_lt hlength, rfl⟩
      · obtain ⟨rfl, -⟩ := Prod.mk.inj (Except.ok.inj h)
        exact .inl ⟨_, rfl⟩

theorem fits_of_readNumber {t left : Text} {x : Json} (h : readNumber t = .ok (x, left)) : x.fits = true := by
  rcases readNumber_cases h with ⟨y, rfl⟩ | ⟨negative, ds, hne, hds, hlength, rfl⟩
  · rfl
  · exact fits_signed negative hne hds hlength

/-! ### Values that are read -/

theorem fits_of_readWord? {t left : Text} {x : Json} (h : readWord? t = some (x, left)) : x.fits = true := by
  rw [readWord?] at h
  obtain ⟨p, hp, hx⟩ := List.exists_of_findSome?_eq_some h
  obtain ⟨rest, -, hx⟩ := Option.map_eq_some_iff.1 hx
  obtain ⟨rfl, -⟩ := Prod.mk.inj hx
  have htable : ∀ p ∈ words, p.2.fits = true := by decide
  exact htable p hp

theorem fits_put {key : Text} {x : Json} (hx : x.fits = true) {fields : List (Text × Json)}
    (h : ∀ f ∈ fields, f.2.fits = true) : ∀ f ∈ Fields.put key x fields, f.2.fits = true := by
  induction fields with
  | nil => simpa [Fields.put] using hx
  | cons f fields ih =>
    rw [List.forall_mem_cons] at h
    obtain ⟨k, v⟩ := f
    rw [Fields.put]
    split
    · exact List.forall_mem_cons.2 ⟨hx, h.2⟩
    · exact List.forall_mem_cons.2 ⟨h.1, ih h.2⟩

theorem fits_ofPairs {pairs : List (Text × Json)} (h : ∀ f ∈ pairs, f.2.fits = true) :
    ∀ f ∈ Fields.ofPairs pairs, f.2.fits = true := by
  -- Over whatever fields earlier pairs have given.
  have hfold : ∀ fields : List (Text × Json), (∀ f ∈ fields, f.2.fits = true) →
      ∀ f ∈ pairs.foldl (fun fields (p : Text × Json) => Fields.put p.1 p.2 fields) fields, f.2.fits = true := by
    induction pairs with
    | nil => exact fun fields hfields => hfields
    | cons p pairs ih =>
      intro fields hfields
      rw [List.forall_mem_cons] at h
      exact ih h.2 _ (fits_put h.1 hfields)
  exact hfold [] (List.forall_mem_nil _)

/-- What is to be shown of the three reading functions with some steps: they give values that keep the limit. -/
structure ReadsFitting (steps : Nat) : Prop where
  value : ∀ {t left : Text} {x : Json}, readValue steps t = .ok (x, left) → x.fits = true
  items : ∀ {t left : Text} {items : List Json}, readItems steps t = .ok (items, left) → ∀ x ∈ items, x.fits = true
  pairs : ∀ {t left : Text} {pairs : List (Text × Json)}, readPairs steps t = .ok (pairs, left) →
    ∀ f ∈ pairs, f.2.fits = true

theorem ReadsFitting.value_succ {steps : Nat} (ih : ReadsFitting steps) {t left : Text} {x : Json}
    (h : readValue (steps + 1) t = .ok (x, left)) : x.fits = true := by
  cases t with
  | nil =>
    rw [readValue] at h
    cases h
  | cons c rest =>
    rw [readValue] at h
    -- The first code point tells strings, arrays and objects; all else is a word or a number.
    split at h
    · obtain ⟨⟨u, v⟩, -, h⟩ := bind_eq_ok_iff.1 h
      cases h
      rfl
    · split at h
      · split at h
        · cases h
        · split at h
          · cases h
            rfl
          · obtain ⟨⟨items, v⟩, hitems, h⟩ := bind_eq_ok_iff.1 h
            cases h
            exact itemsFit_iff.2 (ih.items hitems)
      · split at h
        · split at h
          · cases h
          · split at h
            · cases h
              rfl
            · obtain ⟨⟨pairs, v⟩, hpairs, h⟩ := bind_eq_ok_iff.1 h
              cases h
              exact fieldsFit_iff.2 (fits_ofPairs (ih.pairs hpairs))
        · split at h
          · next hword =>
            cases h
            exact fits_of_readWord? hword
          · exact fits_of_readNumber h

theorem ReadsFitting.items_succ {steps : Nat} (ih : ReadsFitting steps) {t left : Text} {items : List Json}
    (h : readItems (steps + 1) t = .ok (items, left)) : ∀ x ∈ items, x.fits = true := by
  rw [readItems] at h
  obtain ⟨⟨x, u⟩, hx, h⟩ := bind_eq_ok_iff.1 h
  have hfits := ih.value hx
  simp only at h
  split at h
  · cases h
  · split at h
    · cases h
      simpa using hfits
    · split at h
      · obtain ⟨⟨more, v⟩, hmore, h⟩ := bind_eq_ok_iff.1 h
        cases h
        exact List.forall_mem_cons.2 ⟨hfits, ih.items hmore⟩
      · cases h

theorem ReadsFitting.pairs_succ {steps : Nat} (ih : ReadsFitting steps) {t left : Text} {pairs : List (Text × Json)}
    (h : readPairs (steps + 1) t = .ok (pairs, left)) : ∀ f ∈ pairs, f.2.fits = true := by
  cases t with
  | nil =>
    rw [readPairs] at h
    cases h
  | cons c rest =>
    rw [readPairs] at h
    split at h
    · obtain ⟨⟨key, u⟩, -, h⟩ := bind_eq_ok_iff.1 h
      simp only at h
      split at h
      · cases h
      · split at h
        · obtain ⟨⟨x, v⟩, hx, h⟩ := bind_eq_ok_iff.1 h
          have hfits := ih.value hx
          simp only at h
          split at h
          · cases h
          · split at h
            · cases h
              simpa using hfits
            · split at h
              · obtain ⟨⟨more, w⟩, hmore, h⟩ := bind_eq_ok_iff.1 h
                cases h
                exact List.forall_mem_cons.2 ⟨hfits, ih.pairs hmore⟩
              · cases h
        · cases h
    · cases h

theorem readsFitting (steps : Nat) : ReadsFitting steps := by
  induction steps with
  | zero =>
    -- Without steps nothing is read.
    constructor
    · intro t left x h
      rw [readValue] at h
      cases h
    · intro t left items h
      rw [readItems] at h
      cases h
    · intro t left pairs h
      rw [readPairs] at h
      cases h
  | succ steps ih => exact ⟨ih.value_succ, ih.items_succ, ih.pairs_succ⟩

/-- **Reading.** The value of a text keeps the limit. -/
theorem fits_of_read {t : Text} {x : Json} (h : read t = .ok x) : x.fits = true := by
  unfold read at h
  split at h
  · cases h
  · split at h
    · cases h
    · cases h
    · next hvalue =>
      split at h
      · cases h
        exact (readsFitting _).value hvalue
      · cases h

/-! ### Integers that values give -/

theorem fits_of_integerOfText {t : Text} {i : Int} (h : integerOfText t = .ok i) : (int i).fits = true := by
  unfold integerOfText at h
  split at h
  · cases h
  · simp only at h
    split at h
    · cases h
    · next ds hdigits =>
      split at h
      · cases h
      · next hlength =>
        -- However much was dropped from the text, what is left was read as a whole part.
        obtain ⟨u, -, hu⟩ := Option.bind_eq_some_iff.1 hdigits
        unfold plainDigits? at hu
        split at hu
        · next hwhole =>
          obtain rfl := Option.some.inj hu
          obtain rfl := Except.ok.inj h
          obtain ⟨hne, hds⟩ := digits_of_readWhole? hwhole
          exact fits_signed _ hne hds (Nat.le_of_not_lt hlength)
        · cases hu

/-- Integers of 64 bits are far within the limit. -/
theorem fits_int_of_lt {i : Int} (hlow : -0x8000000000000000 < i) (hhigh : i < 0x8000000000000000) :
    (int i).fits = true := by
  have hle : i.natAbs ≤ 0x8000000000000000 := by omega
  have hlength := Decimal.length_digits_le hle
  have hlimit : (Decimal.digits 0x8000000000000000).length ≤ Decimal.digitLimit := by decide +kernel
  exact fits_int.2 (Nat.le_trans hlength hlimit)

/-- **Conversion.** The integer that a value gives keeps the limit if the value does. -/
theorem fits_of_toInteger {x : Json} {i : Int} (hx : x.fits = true) (h : x.toInteger = .ok i) :
    (int i).fits = true := by
  cases x with
  | null => cases h
  | bool b =>
    obtain rfl := Except.ok.inj h
    cases b
    · exact fits_int_of_lt (by decide) (by decide)
    · exact fits_int_of_lt (by decide) (by decide)
  | int j =>
    obtain rfl := Except.ok.inj h
    exact hx
  | float y =>
    cases y with
    | nan => cases h
    | infinite negative => cases h
    | finite negative m q =>
      rw [toInteger] at h
      split at h
      · cases h
      · split at h
        · next hrange =>
          obtain rfl := Except.ok.inj h
          exact fits_int_of_lt hrange.1 hrange.2
        · cases h
  | string t => exact fits_of_integerOfText h
  | array items => cases h
  | object fields => cases h

theorem fits_of_get? {fields : List (Text × Json)} (h : (object fields).fits = true) {key : Text} {x : Json}
    (hx : Fields.get? key fields = some x) : x.fits = true := by
  rw [Fields.get?, List.lookup_eq_some_iff] at hx
  obtain ⟨before, after, rfl, -⟩ := hx
  exact fieldsFit_iff.1 h (key, x) (by simp)

end Json

/-! ### Transcripts -/

namespace Transcript

theorem PositionField.fits {fields : List (Text × Json)} (h : (Json.object fields).fits = true) {key : Text} {n : Nat}
    (hposition : PositionField (Json.Fields.get? key fields) n) :
    (Decimal.digits n).length ≤ Decimal.digitLimit := by
  obtain ⟨x, hx, hn⟩ := hposition
  exact Json.fits_int.1 (Json.fits_of_toInteger (Json.fits_of_get? h hx) hn)

theorem Listed.fits {fields : List (Text × Json)} (h : (Json.object fields).fits = true) {key : Text}
    {entries : List Entry} (hlisted : Listed (Json.Fields.get? key fields) entries) :
    ∀ e ∈ entries, (Decimal.digits e.position).length ≤ Decimal.digitLimit := by
  generalize hfield : Json.Fields.get? key fields = field at hlisted
  cases hlisted with
  | absent => simp
  | @array items entries hall =>
    -- Items and entries are gone through together, each entry beside its own item.
    have hitems := Json.itemsFit_iff.1 (Json.fits_of_get? h hfield)
    clear hfield
    induction hall with
    | nil => simp
    | cons hentry _ ih =>
      rw [List.forall_mem_cons] at hitems ⊢
      obtain ⟨fields, rfl, hentry⟩ := hentry
      exact ⟨hentry.position.fits hitems.1, ih hitems.2⟩

theorem OptionalFault.fits {fields : List (Text × Json)} (h : (Json.object fields).fits = true) {key : Text}
    {fault : Option FaultRecord} (hfault : OptionalFault (Json.Fields.get? key fields) fault) :
    ∀ f ∈ fault, (Decimal.digits f.position).length ≤ Decimal.digitLimit := by
  generalize hfield : Json.Fields.get? key fields = field at hfault
  cases hfault with
  | absent => simp
  | null => simp
  | @fault x f hx =>
    have hfits := Json.fits_of_get? h hfield
    obtain ⟨fields, rfl, hx⟩ := hx
    simpa using hx.position.fits hfits

/-- **Descriptions.** What a value that keeps the limit describes can be stored. -/
theorem storable_of_describes {x : Json} (hx : x.fits = true) {s : Transcript}
    (h : Describes x s ∨ DescribesHollow x s) : s.Storable := by
  rcases h with ⟨fields, rfl, hheading, hlisted⟩ | ⟨fields, rfl, hheading, hnone, -⟩
  · exact ⟨hlisted.fits hx, hheading.fault.fits hx⟩
  · exact ⟨by simp [hnone], hheading.fault.fits hx⟩

theorem write?_toJson {s : Transcript} (h : s.Storable) : s.toJson.write? = some s.dump := by
  have hfits := (plain_toJson h).fits
  rw [Json.write?, if_pos hfits, dump]

end Transcript

end ParenTokens
