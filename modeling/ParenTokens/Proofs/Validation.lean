import ParenTokens.Proofs.DistinctKeys
import ParenTokens.Proofs.Loading
import Mathlib.Data.List.Lex
import Mathlib.Data.List.Perm.Basic

namespace ParenTokens

/-!
# What documents denote settings

Settings are denoted by nothing at all, or by a mapping of known fields with values of the right kind; anything else is
told, unknown fields first.  This says nothing of the order of entries, which therefore does not matter.

* `Text.lt_iff_map_val_lt` — texts are ordered by the numbers of their code points.
* `Settings.unknownFields?_eq_some_iff` — the texts of the unknown keys in order, told from the keys as a collection.
* `Settings.Reads` — a field that is read, by the values that it may have; `Settings.reads_format`,
  `Settings.reads_color`.
* `Settings.Denotes`, `Settings.Objects` — the settings of a document, and why it has none; `Settings.ofDocument_eq_ok_iff`,
  `Settings.ofDocument_eq_error_iff`.
* `Yaml.Document.SameEntries` — mappings with the same entries in another order.
* `Settings.ofText_validates` — the settings in a text, and what is told of it.
-/

open Yaml (Scalar Value Document)

/-! ### The order of texts -/

namespace Text

theorem lt_iff_map_val_lt {s t : Text} : lt s t = true ↔ s.map CodePoint.val < t.map CodePoint.val := by
  induction s generalizing t with
  | nil =>
    cases t with
    | nil => simp [lt]
    | cons b t => simp [lt]
  | cons a s ih =>
    cases t with
    | nil => simp [lt]
    | cons b t => simp [lt, ih, List.cons_lt_cons_iff]

/-- Texts that come in order. -/
abbrev Ordered (names : List Text) : Prop := names.Pairwise fun a b => lt b a = false

theorem lt_eq_false_iff {s t : Text} : lt t s = false ↔ s.map CodePoint.val ≤ t.map CodePoint.val := by
  rw [← Bool.not_eq_true, lt_iff_map_val_lt, not_lt]

theorem ordered_mergeSort (names : List Text) : Ordered (names.mergeSort fun a b => !lt b a) := by
  have hle : ∀ s t : Text, (!lt t s) = true ↔ s.map CodePoint.val ≤ t.map CodePoint.val := by
    intro s t
    rw [Bool.not_eq_true', lt_eq_false_iff]
  have htrans : ∀ s t u : Text, (!lt t s) = true → (!lt u t) = true → (!lt u s) = true := by
    intro s t u hst htu
    rw [hle] at hst htu ⊢
    exact le_trans hst htu
  have htotal : ∀ s t : Text, ((!lt t s) || (!lt s t)) = true := by
    intro s t
    rw [Bool.or_eq_true, hle, hle]
    exact le_total _ _
  exact (List.pairwise_mergeSort htrans htotal names).imp fun h => by simpa using h

theorem eq_of_perm_of_ordered {names names' : List Text} (h : names.Perm names') (hnames : Ordered names)
    (hnames' : Ordered names') : names = names' := by
  refine h.eq_of_pairwise ?_ hnames hnames'
  intro s t _ _ hst hts
  rw [lt_eq_false_iff] at hst hts
  have hval : Function.Injective CodePoint.val := fun _ _ => CodePoint.ext_val
  exact (List.map_injective_iff.2 hval) (le_antisymm hst hts)

end Text

namespace Settings

/-! ### Unknown fields -/

/-- The keys that name no field. -/
def unknownKeys (entries : List (Scalar × Value)) : List Scalar :=
  (entries.map Prod.fst).filter (· ∉ [Scalar.text formatField, Scalar.text colorField])

theorem unknownKeys_eq_filter (entries : List (Scalar × Value)) :
    unknownKeys entries = (entries.map Prod.fst).filter (!isField ·) := by
  apply List.filter_congr
  intro key _
  simp [isField, beq_eq_decide]

/-- The texts that show some keys, in order. -/
structure Shown (keys : List Scalar) (names : List Text) : Prop where
  perm : (names.map some).Perm (keys.map Scalar.display?)
  ordered : Text.Ordered names

theorem mapM_eq_some_iff {α β : Type} {f : α → Option β} {l : List α} {l' : List β} :
    l.mapM f = some l' ↔ l.map f = l'.map some := by
  induction l generalizing l' with
  | nil => cases l' <;> simp
  | cons a l ih =>
    rw [List.mapM_cons]
    cases l' with
    | nil => cases f a <;> simp [Option.bind_eq_some_iff]
    | cons b l' => simp [← ih, Option.bind_eq_some_iff]

/-- **Unknown fields.** What is told of them depends on the keys as a collection only. -/
theorem unknownFields?_eq_some_iff {entries : List (Scalar × Value)} {names : List Text} :
    unknownFields? entries = some names ↔ Shown (unknownKeys entries) names := by
  unfold unknownFields?
  rw [← unknownKeys_eq_filter, Option.map_eq_some_iff]
  constructor
  · rintro ⟨shown, hshown, rfl⟩
    rw [mapM_eq_some_iff] at hshown
    refine ⟨?_, Text.ordered_mergeSort shown⟩
    rw [hshown]
    exact (List.mergeSort_perm _ _).map some
  · rintro ⟨hperm, hordered⟩
    cases hshown : (unknownKeys entries).mapM Scalar.display? with
    | none =>
      -- A key that cannot be shown would have a name.
      obtain ⟨key, hkey, hnone⟩ := mapM_eq_none_iff.1 hshown
      have hmem : none ∈ names.map some := hperm.mem_iff.2 (hnone ▸ List.mem_map_of_mem hkey)
      simp at hmem
    | some shown =>
      rw [mapM_eq_some_iff.1 hshown] at hperm
      have hnames := (List.map_perm_map_iff fun _ _ => Option.some.inj).1 hperm
      exact ⟨shown, rfl, Text.eq_of_perm_of_ordered ((List.mergeSort_perm _ _).trans hnames.symm)
        (Text.ordered_mergeSort shown) hordered⟩

/-! ### Known fields -/

/-- The keys of a mapping are apart from each other. -/
abbrev KeysApart (entries : List (Scalar × Value)) : Prop := (entries.map Prod.fst).Pairwise Scalar.Apart

theorem field?_eq_some_iff {name : Text} {entries : List (Scalar × Value)} (hkeys : KeysApart entries) {v : Value} :
    field? name entries = some v ↔ (.text name, v) ∈ entries := by
  unfold field?
  rw [List.lookup_eq_some_iff]
  constructor
  · rintro ⟨before, after, rfl, -⟩
    exact List.mem_append_right _ List.mem_cons_self
  · intro hmem
    obtain ⟨before, after, rfl⟩ := List.append_of_mem hmem
    refine ⟨before, after, rfl, ?_⟩
    rintro ⟨key, u⟩ hbefore
    rw [KeysApart, List.map_append, List.map_cons, List.pairwise_append] at hkeys
    have hapart := hkeys.2.2 key (List.mem_map_of_mem hbefore) (.text name) List.mem_cons_self
    rw [bne_iff_ne]
    rintro rfl
    exact hapart.ne_of_text rfl

theorem field?_eq_none_iff {name : Text} {entries : List (Scalar × Value)} :
    field? name entries = none ↔ Scalar.text name ∉ entries.map Prod.fst := by
  unfold field?
  rw [List.lookup_eq_none_iff]
  constructor
  · intro h hmem
    obtain ⟨entry, hentry, hkey⟩ := List.mem_map.1 hmem
    simpa [hkey] using h entry hentry
  · intro h entry hentry
    rw [bne_iff_ne]
    rintro hkey
    exact h (hkey ▸ List.mem_map_of_mem hentry)

section

variable {α : Type}

/-- How a field is read: `write` gives the values that it may have, `default` is meant if it is missing, and `c` is the
complaint about all other values. -/
structure Reads (read : Option Value → Except Complaint α) (write : α → Scalar) (default : α) (c : Complaint) : Prop where
  absent : read none = .ok default
  present (v : Value) (a : α) : read (some v) = .ok a ↔ v = .scalar (write a)
  wrong (v : Option Value) (c' : Complaint) : read v = .error c' → c' = c

/-- A mapping sets a field to a value, or has no such field and the default is meant. -/
def Sets (entries : List (Scalar × Value)) (name : Text) (write : α → Scalar) (default a : α) : Prop :=
  (.text name, .scalar (write a)) ∈ entries ∨ (Scalar.text name ∉ entries.map Prod.fst ∧ a = default)

/-- A mapping sets a field to something else than the values that it may have. -/
def Missets (entries : List (Scalar × Value)) (name : Text) (write : α → Scalar) : Prop :=
  ∃ v, (.text name, v) ∈ entries ∧ ∀ a, v ≠ .scalar (write a)

variable {read : Option Value → Except Complaint α} {write : α → Scalar} {default : α} {c : Complaint}
  {entries : List (Scalar × Value)} {name : Text}

theorem Reads.field_eq_ok_iff (h : Reads read write default c) (hkeys : KeysApart entries) {a : α} :
    read (field? name entries) = .ok a ↔ Sets entries name write default a := by
  unfold Sets
  cases hfield : field? name entries with
  | none =>
    have habsent := field?_eq_none_iff.1 hfield
    have hnot : (Scalar.text name, Value.scalar (write a)) ∉ entries :=
      fun hmem => habsent (List.mem_map_of_mem hmem)
    rw [h.absent]
    simp only [hnot, habsent, Except.ok.injEq, false_or, not_false_eq_true, true_and, eq_comm]
  | some v =>
    have hmem := (field?_eq_some_iff hkeys).1 hfield
    rw [h.present]
    constructor
    · rintro rfl
      exact .inl hmem
    · rintro (hmem' | ⟨habsent, -⟩)
      · -- One value stands under the name.
        rw [(field?_eq_some_iff hkeys).2 hmem'] at hfield
        exact (Option.some.inj hfield).symm
      · exact (habsent (List.mem_map_of_mem hmem)).elim

theorem Reads.field_eq_error_iff (h : Reads read write default c) (hkeys : KeysApart entries) {c' : Complaint} :
    read (field? name entries) = .error c' ↔ c' = c ∧ Missets entries name write := by
  constructor
  · intro hread
    refine ⟨h.wrong _ _ hread, ?_⟩
    cases hfield : field? name entries with
    | none =>
      rw [hfield, h.absent] at hread
      cases hread
    | some v =>
      refine ⟨v, (field?_eq_some_iff hkeys).1 hfield, ?_⟩
      intro a hv
      rw [hfield, (h.present v a).2 hv] at hread
      cases hread
  · rintro ⟨rfl, v, hmem, hwrong⟩
    rw [(field?_eq_some_iff hkeys).2 hmem]
    cases hread : read (some v) with
    | ok a => exact (hwrong a ((h.present v a).1 hread)).elim
    | error c'' => rw [h.wrong _ _ hread]

end

theorem reads_format : Reads readFormat (fun format => .text format.name) .text .format := by
  have hback : ∀ format, OutputFormat.all.find? (fun f => f.name == format.name) = some format := by
    intro format
    cases format <;> rfl
  refine ⟨rfl, ?_, ?_⟩
  · intro v format
    unfold readFormat
    split
    · next hnone => cases hnone
    · next t hsome =>
      obtain rfl := Option.some.inj hsome
      have hname : OutputFormat.ofName? t = some format ↔ t = format.name := find?_name_eq_some_iff hback
      cases hread : OutputFormat.ofName? t with
      | none => simpa [hread] using hname
      | some format' => simpa [hread] using hname
    · next hother hsome =>
      refine iff_of_false nofun ?_
      rintro rfl
      exact hother _ (Option.some.inj hsome).symm
  · intro v c hread
    unfold readFormat at hread
    split at hread
    · cases hread
    · split at hread
      · cases hread
      · exact (Except.error.inj hread).symm
    · exact (Except.error.inj hread).symm

theorem reads_color : Reads readColor .truthValue true .color := by
  refine ⟨rfl, ?_, ?_⟩
  · intro v b
    unfold readColor
    split
    · next hnone => cases hnone
    · next b' hsome =>
      obtain rfl := Option.some.inj hsome
      simp
    · next hother hsome =>
      refine iff_of_false nofun ?_
      rintro rfl
      exact hother _ (Option.some.inj hsome).symm
  · intro v c hread
    unfold readColor at hread
    split at hread
    · cases hread
    · cases hread
    · exact (Except.error.inj hread).symm

/-- The format that a mapping has. -/
abbrev SetsFormat (entries : List (Scalar × Value)) (format : OutputFormat) : Prop :=
  Sets entries formatField (fun format : OutputFormat => .text format.name) .text format

/-- The colour that a mapping has. -/
abbrev SetsColor (entries : List (Scalar × Value)) (color : Bool) : Prop :=
  Sets entries colorField .truthValue true color

abbrev MissetsFormat (entries : List (Scalar × Value)) : Prop :=
  Missets entries formatField fun format : OutputFormat => .text format.name

abbrev MissetsColor (entries : List (Scalar × Value)) : Prop := Missets entries colorField .truthValue

theorem ofFields_eq_ok_iff {entries : List (Scalar × Value)} (hkeys : KeysApart entries) {s : Settings} :
    ofFields entries = .ok s ↔ SetsFormat entries s.format ∧ SetsColor entries s.color := by
  unfold ofFields
  simp only [bind_eq_ok_iff, reads_format.field_eq_ok_iff hkeys, reads_color.field_eq_ok_iff hkeys]
  constructor
  · rintro ⟨format, hformat, color, hcolor, hs⟩
    obtain rfl := Except.ok.inj hs
    exact ⟨hformat, hcolor⟩
  · rintro ⟨hformat, hcolor⟩
    exact ⟨s.format, hformat, s.color, hcolor, rfl⟩

theorem bind_eq_error_iff {ε β γ : Type} {x : Except ε β} {f : β → Except ε γ} {e : ε} :
    (x >>= f) = .error e ↔ x = .error e ∨ ∃ b, x = .ok b ∧ f b = .error e := by
  cases x with
  | error e' => simp [bind, Except.bind]
  | ok b => simp [bind, Except.bind]

/-- The format is told before the colour. -/
theorem ofFields_eq_error_iff {entries : List (Scalar × Value)} (hkeys : KeysApart entries) {c : Complaint} :
    ofFields entries = .error c ↔
      (c = .format ∧ MissetsFormat entries) ∨
        ∃ format, SetsFormat entries format ∧ c = .color ∧ MissetsColor entries := by
  unfold ofFields
  have hpure : ∀ format color, (pure { format, color } : Except Complaint Settings) ≠ .error c := nofun
  simp only [bind_eq_error_iff, reads_format.field_eq_ok_iff hkeys, reads_format.field_eq_error_iff hkeys,
    reads_color.field_eq_error_iff hkeys, hpure, and_false, exists_false, or_false]

/-! ### Documents -/

/-- The settings that a document denotes: nothing at all denotes the defaults, and a mapping without unknown fields the
    values under the names of the fields. -/
inductive Denotes (d : Document) : Settings → Prop
  | nothing (root : d.root = .scalar .null) : Denotes d {}
  | mapping {entries : List (Scalar × Value)} {s : Settings} (mapping : d.entries? = some entries)
      (known : unknownKeys entries = []) (format : SetsFormat entries s.format) (color : SetsColor entries s.color) :
      Denotes d s

/-- Why a document denotes no settings: it is no mapping; it has unknown fields, whose names can be shown or not; or else
    it has a field with a value of the wrong kind, and of two such fields the format is told. -/
inductive Objects (d : Document) : Objection → Prop
  | notMapping (something : d.root ≠ .scalar .null) (other : d.entries? = none) : Objects d (.complaint .notMapping)
  | unknownFields {entries : List (Scalar × Value)} {names : List Text} (mapping : d.entries? = some entries)
      (unknown : unknownKeys entries ≠ []) (shown : Shown (unknownKeys entries) names) :
      Objects d (.complaint (.unknownFields names))
  | longField {entries : List (Scalar × Value)} {n : Int} (mapping : d.entries? = some entries)
      (unknown : .integer n ∈ unknownKeys entries) (long : Decimal.digitLimit < (Decimal.ofNat n.natAbs).length) :
      Objects d .longField
  | format {entries : List (Scalar × Value)} (mapping : d.entries? = some entries) (known : unknownKeys entries = [])
      (format : MissetsFormat entries) : Objects d (.complaint .format)
  | color {entries : List (Scalar × Value)} {format : OutputFormat} (mapping : d.entries? = some entries)
      (known : unknownKeys entries = []) (format : SetsFormat entries format) (color : MissetsColor entries) :
      Objects d (.complaint .color)

theorem Shown.eq_nil_iff {keys : List Scalar} {names : List Text} (h : Shown keys names) : names = [] ↔ keys = [] := by
  have hlength := h.perm.length_eq
  rw [List.length_map, List.length_map] at hlength
  rw [← List.length_eq_zero_iff, ← List.length_eq_zero_iff, hlength]

theorem shown_nil : Shown [] [] := ⟨.nil, .nil⟩

section

variable {d : Document} {entries : List (Scalar × Value)}

theorem ofDocument_of_root_eq_null (hroot : d.root = .scalar .null) : ofDocument d = .ok {} := if_pos hroot

theorem root_ne_null_of_entries? (hmapping : d.entries? = some entries) : d.root ≠ .scalar .null := by
  intro hroot
  rw [Document.entries?, hroot] at hmapping
  cases hmapping

theorem ofDocument_of_entries?_eq_none (hroot : d.root ≠ .scalar .null) (hother : d.entries? = none) :
    ofDocument d = .error (.complaint .notMapping) := by
  unfold ofDocument
  rw [if_neg hroot, hother]

theorem ofDocument_of_unknownKeys_eq_nil (hmapping : d.entries? = some entries) (hknown : unknownKeys entries = []) :
    ofDocument d = (ofFields entries).mapError .complaint := by
  have hnames : unknownFields? entries = some [] := unknownFields?_eq_some_iff.2 (hknown ▸ shown_nil)
  unfold ofDocument
  rw [if_neg (root_ne_null_of_entries? hmapping), hmapping]
  simp only [hnames]

theorem ofDocument_of_shown (hmapping : d.entries? = some entries) {names : List Text}
    (hunknown : unknownKeys entries ≠ []) (hshown : Shown (unknownKeys entries) names) :
    ofDocument d = .error (.complaint (.unknownFields names)) := by
  have hnames := unknownFields?_eq_some_iff.2 hshown
  have hsome : names ≠ [] := fun hnil => hunknown (hshown.eq_nil_iff.1 hnil)
  unfold ofDocument
  rw [if_neg (root_ne_null_of_entries? hmapping), hmapping]
  simp only [hnames]

theorem ofDocument_of_long (hmapping : d.entries? = some entries) {n : Int} (hunknown : .integer n ∈ unknownKeys entries)
    (hlong : Decimal.digitLimit < (Decimal.ofNat n.natAbs).length) : ofDocument d = .error .longField :=
  ofDocument_eq_longField_iff.2
    ⟨entries, hmapping, unknownFields?_eq_none_iff.2 ⟨n, (List.mem_filter.1 hunknown).1, hlong⟩⟩

variable (hkeys : ∀ entries, d.entries? = some entries → KeysApart entries)
include hkeys

theorem ofDocument_of_denotes {s : Settings} (h : Denotes d s) : ofDocument d = .ok s := by
  cases h with
  | nothing hroot => exact ofDocument_of_root_eq_null hroot
  | mapping hmapping hknown hformat hcolor =>
    rw [ofDocument_of_unknownKeys_eq_nil hmapping hknown,
      (ofFields_eq_ok_iff (hkeys _ hmapping)).2 ⟨hformat, hcolor⟩]
    rfl

theorem ofDocument_of_objects {o : Objection} (h : Objects d o) : ofDocument d = .error o := by
  cases h with
  | notMapping hroot hother => exact ofDocument_of_entries?_eq_none hroot hother
  | unknownFields hmapping hunknown hshown => exact ofDocument_of_shown hmapping hunknown hshown
  | longField hmapping hunknown hlong => exact ofDocument_of_long hmapping hunknown hlong
  | format hmapping hknown hformat =>
    rw [ofDocument_of_unknownKeys_eq_nil hmapping hknown,
      (ofFields_eq_error_iff (hkeys _ hmapping)).2 (.inl ⟨rfl, hformat⟩)]
    rfl
  | color hmapping hknown hformat hcolor =>
    rw [ofDocument_of_unknownKeys_eq_nil hmapping hknown,
      (ofFields_eq_error_iff (hkeys _ hmapping)).2 (.inr ⟨_, hformat, rfl, hcolor⟩)]
    rfl

/-- There is no third case. -/
theorem denotes_or_objects : (∃ s, Denotes d s) ∨ ∃ o, Objects d o := by
  by_cases hroot : d.root = .scalar .null
  · exact .inl ⟨{}, .nothing hroot⟩
  cases hmapping : d.entries? with
  | none => exact .inr ⟨_, .notMapping hroot hmapping⟩
  | some entries =>
    by_cases hknown : unknownKeys entries = []
    · have hapart := hkeys _ hmapping
      cases hfields : ofFields entries with
      | ok s =>
        obtain ⟨hformat, hcolor⟩ := (ofFields_eq_ok_iff hapart).1 hfields
        exact .inl ⟨s, .mapping hmapping hknown hformat hcolor⟩
      | error c =>
        rcases (ofFields_eq_error_iff hapart).1 hfields with ⟨-, hformat⟩ | ⟨format, hformat, -, hcolor⟩
        · exact .inr ⟨_, .format hmapping hknown hformat⟩
        · exact .inr ⟨_, .color hmapping hknown hformat hcolor⟩
    · cases hnames : unknownFields? entries with
      | some names => exact .inr ⟨_, .unknownFields hmapping hknown (unknownFields?_eq_some_iff.1 hnames)⟩
      | none =>
        obtain ⟨n, hkey, hlong⟩ := unknownFields?_eq_none_iff.1 hnames
        have hunknown : Scalar.integer n ∈ unknownKeys entries := List.mem_filter.2 ⟨hkey, by simp⟩
        exact .inr ⟨_, .longField hmapping hunknown hlong⟩

/-- **Documents.** The settings of one are those that it denotes. -/
theorem ofDocument_eq_ok_iff {s : Settings} : ofDocument d = .ok s ↔ Denotes d s := by
  refine ⟨?_, ofDocument_of_denotes hkeys⟩
  intro hok
  rcases denotes_or_objects hkeys with ⟨s', hdenotes⟩ | ⟨o, hobjects⟩
  · rw [ofDocument_of_denotes hkeys hdenotes] at hok
    exact Except.ok.inj hok ▸ hdenotes
  · rw [ofDocument_of_objects hkeys hobjects] at hok
    cases hok

theorem ofDocument_eq_error_iff {o : Objection} : ofDocument d = .error o ↔ Objects d o := by
  refine ⟨?_, ofDocument_of_objects hkeys⟩
  intro herror
  rcases denotes_or_objects hkeys with ⟨s, hdenotes⟩ | ⟨o', hobjects⟩
  · rw [ofDocument_of_denotes hkeys hdenotes] at herror
    cases herror
  · rw [ofDocument_of_objects hkeys hobjects] at herror
    exact Except.error.inj herror ▸ hobjects

end

end Settings

/-! ### The order of entries -/

namespace Yaml

/-- A value that is a scalar. -/
def Value.scalar? : Value → Option Scalar
  | scalar s => some s
  | collection _ => none

/-- Two documents are mappings with the same entries, each in an order of its own.  The numbers of collections are not
compared, since they come from the order in which a document is read, and nor is what is in them. -/
def Document.SameEntries (d d' : Document) : Prop :=
  ∃ entries entries', d.entries? = some entries ∧ d'.entries? = some entries' ∧
    (entries.map fun e => (e.1, e.2.scalar?)).Perm (entries'.map fun e => (e.1, e.2.scalar?))

theorem Document.SameEntries.symm {d d' : Document} (h : d.SameEntries d') : d'.SameEntries d := by
  obtain ⟨entries, entries', hmapping, hmapping', hperm⟩ := h
  exact ⟨entries', entries, hmapping', hmapping, hperm.symm⟩

end Yaml

namespace Settings

section

variable {entries entries' : List (Scalar × Value)}
  (h : (entries.map fun e => (e.1, e.2.scalar?)).Perm (entries'.map fun e => (e.1, e.2.scalar?)))
include h

theorem perm_unknownKeys : (unknownKeys entries).Perm (unknownKeys entries') := by
  have hkeys := h.map Prod.fst
  rw [List.map_map, List.map_map] at hkeys
  exact hkeys.filter _

/-- An entry has a counterpart under the same key: the same scalar, or a collection for a collection. -/
theorem exists_mem_of_perm {key : Scalar} {v : Value} (hmem : (key, v) ∈ entries) :
    ∃ v', (key, v') ∈ entries' ∧ v'.scalar? = v.scalar? := by
  have hmem' := h.mem_iff.1 (List.mem_map_of_mem hmem)
  obtain ⟨⟨key', v'⟩, hentry, heq⟩ := List.mem_map.1 hmem'
  obtain ⟨rfl, hscalar⟩ := Prod.mk.inj heq
  exact ⟨v', hentry, hscalar⟩

variable {α : Type} {name : Text} {write : α → Scalar}

theorem Sets.of_perm {default a : α} (hsets : Sets entries name write default a) :
    Sets entries' name write default a := by
  rcases hsets with hmem | ⟨habsent, hdefault⟩
  · obtain ⟨v, hmem', hscalar⟩ := exists_mem_of_perm h hmem
    cases v with
    | scalar s =>
      obtain rfl := Option.some.inj hscalar
      exact .inl hmem'
    | collection id => cases hscalar
  · refine .inr ⟨?_, hdefault⟩
    intro hmem'
    obtain ⟨⟨key, v⟩, hentry, rfl⟩ := List.mem_map.1 hmem'
    obtain ⟨v', hback, -⟩ := exists_mem_of_perm h.symm hentry
    exact habsent (List.mem_map_of_mem hback)

theorem Missets.of_perm (hmissets : Missets entries name write) : Missets entries' name write := by
  obtain ⟨v, hmem, hwrong⟩ := hmissets
  obtain ⟨v', hmem', hscalar⟩ := exists_mem_of_perm h hmem
  refine ⟨v', hmem', ?_⟩
  rintro a rfl
  cases v with
  | scalar s =>
    obtain rfl := Option.some.inj hscalar
    exact hwrong a rfl
  | collection id => cases hscalar

end

section

variable {d d' : Document} (hsame : d.SameEntries d')
include hsame

theorem Denotes.of_sameEntries {s : Settings} (h : Denotes d s) : Denotes d' s := by
  obtain ⟨entries, entries', hmapping, hmapping', hperm⟩ := hsame
  cases h with
  | nothing hroot => exact (root_ne_null_of_entries? hmapping hroot).elim
  | mapping hentries hknown hformat hcolor =>
    obtain rfl := Option.some.inj (hmapping.symm.trans hentries)
    have hknown' : unknownKeys entries' = [] := List.perm_nil.1 (hknown ▸ (perm_unknownKeys hperm).symm)
    exact .mapping hmapping' hknown' (hformat.of_perm hperm) (hcolor.of_perm hperm)

theorem Objects.of_sameEntries {o : Objection} (h : Objects d o) : Objects d' o := by
  obtain ⟨entries, entries', hmapping, hmapping', hperm⟩ := hsame
  have hunknownKeys := perm_unknownKeys hperm
  cases h with
  | notMapping _ hother =>
    rw [hother] at hmapping
    cases hmapping
  | unknownFields hentries hunknown hshown =>
    obtain rfl := Option.some.inj (hmapping.symm.trans hentries)
    have hunknown' : unknownKeys entries' ≠ [] := fun hnil => hunknown (List.perm_nil.1 (hnil ▸ hunknownKeys))
    -- The texts of the keys are the same, and there is one order of them.
    exact .unknownFields hmapping' hunknown' ⟨hshown.perm.trans (hunknownKeys.map _), hshown.ordered⟩
  | longField hentries hunknown hlong =>
    obtain rfl := Option.some.inj (hmapping.symm.trans hentries)
    exact .longField hmapping' (hunknownKeys.mem_iff.1 hunknown) hlong
  | format hentries hknown hformat =>
    obtain rfl := Option.some.inj (hmapping.symm.trans hentries)
    have hknown' : unknownKeys entries' = [] := List.perm_nil.1 (hknown ▸ hunknownKeys.symm)
    exact .format hmapping' hknown' (hformat.of_perm hperm)
  | color hentries hknown hformat hcolor =>
    obtain rfl := Option.some.inj (hmapping.symm.trans hentries)
    have hknown' : unknownKeys entries' = [] := List.perm_nil.1 (hknown ▸ hunknownKeys.symm)
    exact .color hmapping' hknown' (hformat.of_perm hperm) (hcolor.of_perm hperm)

/-- **Order.** The order of entries does not matter. -/
theorem ofDocument_eq_of_sameEntries (hkeys : ∀ entries, d.entries? = some entries → KeysApart entries)
    (hkeys' : ∀ entries, d'.entries? = some entries → KeysApart entries) : ofDocument d' = ofDocument d := by
  rcases denotes_or_objects hkeys with ⟨s, hdenotes⟩ | ⟨o, hobjects⟩
  · rw [ofDocument_of_denotes hkeys hdenotes, ofDocument_of_denotes hkeys' (hdenotes.of_sameEntries hsame)]
  · rw [ofDocument_of_objects hkeys hobjects, ofDocument_of_objects hkeys' (hobjects.of_sameEntries hsame)]

end

/-! ### Texts -/

end Settings

/-- What comes of an objection to the document in a text: all are told but for a key that cannot be shown. -/
def Objection.failure (label : Text) : Objection → LoadFailure
  | complaint c => .told (.complaint label c)
  | longField => .interrupted .longField

/-- What comes of a text that denotes no document. -/
def Yaml.Fault.failure (label : Text) : Yaml.Fault → LoadFailure
  | invalid => .told (.invalidYaml label)
  | refused r => .interrupted (.refused r)

namespace Settings

/-- The settings in a text, which is named by a label in what is told. -/
def ofText (label t : Text) : Except LoadFailure Settings := do
  let d ← (Document.ofText t).mapError (·.failure label)
  (ofDocument d).mapError (·.failure label)

/-- The bytes of a settings file give what the text in them gives, with its lines unified. -/
theorem ofBytes_of_decode {bytes : List UInt8} {t : Text} (h : Utf8.decode bytes = .ok t) (label : Text) :
    ofBytes label bytes = ofText label (unifyLines t) := by
  unfold ofBytes ofText
  simp only [h]
  cases Document.ofText (unifyLines t) with
  | error f => cases f <;> rfl
  | ok d =>
    show _ = (ofDocument d).mapError _
    cases hd : ofDocument d with
    | ok s => simp only [hd, Except.mapError]
    | error o => cases o <;> simp only [hd, Except.mapError, Objection.failure]

theorem ofText_of_document {t : Text} {d : Document} (h : Document.ofText t = .ok d) (label : Text) :
    ofText label t = (ofDocument d).mapError (·.failure label) := by
  unfold ofText
  rw [h]
  rfl

/-- **Texts.** A text that denotes a document has the settings that the document denotes, and none if there is an
    objection to the document.  Then one is told under the label: all unknown fields and no others, each as its key is
    shown and in order, or else the field with a value of the wrong kind; but an unknown field whose key is an integer of
    too many digits cannot be told, and stops the run.  Another order of the same entries changes nothing.  The bytes of
    a settings file are read as such a text. -/
theorem ofText_validates (label t : Text) {d : Document} (h : Document.ofText t = .ok d) :
    (∀ s, ofText label t = .ok s ↔ Denotes d s) ∧
      (∀ f, ofText label t = .error (.told f) ↔ ∃ c, f = .complaint label c ∧ Objects d (.complaint c)) ∧
      (∀ i, ofText label t = .error (.interrupted i) ↔ i = .longField ∧ Objects d .longField) ∧
      (∀ names, (SettingsFault.complaint label (.unknownFields names)).message =
        label ++ (": unknown field(s): " : Text) ++ Text.join ", " names) ∧
      (∀ t' d', Document.ofText t' = .ok d' → d.SameEntries d' → ofText label t' = ofText label t) ∧
      ∀ bytes text, Utf8.decode bytes = .ok text → unifyLines text = t → ofBytes label bytes = ofText label t := by
  have hkeys : ∀ {t d}, Document.ofText t = .ok d → ∀ entries, d.entries? = some entries → KeysApart entries :=
    fun h _ hentries => Document.keysApart_of_ofText h hentries
  have hok := fun s => ofDocument_eq_ok_iff (hkeys h) (s := s)
  have herror := fun o => ofDocument_eq_error_iff (hkeys h) (o := o)
  refine ⟨?_, ?_, ?_, ?_, ?_, ?_⟩
  · intro s
    rw [ofText_of_document h, ← hok]
    cases ofDocument d with
    | ok s' => simp [Except.mapError]
    | error o => exact iff_of_false nofun nofun
  · intro f
    rw [ofText_of_document h]
    simp only [← herror]
    cases ofDocument d with
    | ok s => exact iff_of_false nofun (by simp)
    | error o =>
      cases o with
      | complaint c => simp [Except.mapError, Objection.failure, eq_comm]
      | longField => simp [Except.mapError, Objection.failure]
  · intro i
    rw [ofText_of_document h, ← herror]
    cases ofDocument d with
    | ok s => exact iff_of_false nofun nofun
    | error o =>
      cases o with
      | complaint c => simp [Except.mapError, Objection.failure]
      | longField => simp [Except.mapError, Objection.failure, eq_comm]
  · intro names
    have hwords : (": unknown field(s): " : Text) = (": " : Text) ++ ("unknown field(s): " : Text) := by decide +kernel
    rw [hwords, ← List.append_assoc, List.append_assoc]
    rfl
  · intro t' d' h' hsame
    rw [ofText_of_document h, ofText_of_document h', ofDocument_eq_of_sameEntries hsame (hkeys h) (hkeys h')]
  · rintro bytes text hdecode rfl
    exact ofBytes_of_decode hdecode label

/-- Unknown fields are told before the value of a known one, by what shows their keys. -/
theorem ofText_validates_unknown :
    let t : Text := "no: []\n7: 1\ncolor: 0\n"
    let t' : Text := "color: 0\n7: 1\nno: []\n"
    let complaint := Complaint.unknownFields ["7", "False"]
    ∃ d d', Document.ofText t = .ok d ∧ Document.ofText t' = .ok d' ∧ d.SameEntries d' ∧
      Objects d (.complaint complaint) ∧
      ofText "c.yaml" t = .error (.told (.complaint "c.yaml" complaint)) ∧ ofText "c.yaml" t' = ofText "c.yaml" t ∧
      (SettingsFault.complaint "c.yaml" complaint).message = ("c.yaml: unknown field(s): 7, False" : Text) := by
  intro t t' complaint
  let one : Value := .scalar (.integer 1)
  let zero : Value := .scalar (.integer 0)
  let entries : List (Scalar × Value) :=
    [(.truthValue false, .collection 2), (.integer 7, one), (.text colorField, zero)]
  let entries' : List (Scalar × Value) :=
    [(.text colorField, zero), (.integer 7, one), (.truthValue false, .collection 6)]
  let d : Document := ⟨.collection 0, [(2, .sequence []), (0, .mapping entries)]⟩
  let d' : Document := ⟨.collection 0, [(6, .sequence []), (0, .mapping entries')]⟩
  have ht : Document.ofText t = .ok d := by decide +kernel
  have ht' : Document.ofText t' = .ok d' := by decide +kernel
  have hsame : d.SameEntries d' := ⟨entries, entries', rfl, rfl, by decide +kernel⟩
  -- The order of the shown keys is checked, not computed.
  have hobjects : Objects d (.complaint complaint) := by
    have hmapping : d.entries? = some entries := rfl
    exact .unknownFields hmapping (by decide +kernel) ⟨by decide +kernel, by decide +kernel⟩
  obtain ⟨-, htold, -, hmessage, horder, -⟩ := ofText_validates "c.yaml" t ht
  have hof : ofText "c.yaml" t = .error (.told (.complaint "c.yaml" complaint)) := (htold _).2 ⟨_, rfl, hobjects⟩
  refine ⟨d, d', ht, ht', hsame, hobjects, hof, horder t' d' ht' hsame, ?_⟩
  rw [hmessage]
  decide +kernel

end Settings

end ParenTokens
