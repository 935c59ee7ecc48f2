import ParenTokens.Proofs.Dumping
import Mathlib.Data.List.Forall2

namespace ParenTokens

/-!
# What is loaded

Which values give a transcript follows from what is looked up in them, by whom and in which order.  Here it is said at
once, as a relation between a value and what it describes.

* `Transcript.Describes` — a value describes a transcript: the right version, a label, one object for each entry, and
  perhaps one for the fault; keys that are not looked up do not matter.
* `Transcript.DescribesHollow` — the same without entries, with an empty text or object in the place of the array.
* `Transcript.entryOf_eq_ok_iff`, `Transcript.faultRecordOf_eq_ok_iff`, `Transcript.ofJson_eq_ok_iff` — the reading
  functions against the relations.
* `Transcript.load_eq_ok_iff_of_read` — what is loaded from a text, and when that is just what its value describes.
-/

namespace Transcript

/-! ### Descriptions -/

/-- An optional text: absent and null give none. -/
inductive OptionalText : Option Json → Option Text → Prop
  | absent : OptionalText none none
  | null : OptionalText (some .null) none
  | text (t : Text) : OptionalText (some (.string t)) (some t)

/-- A position: the value is there, counts as an integer, and is not negative. -/
def PositionField (field : Option Json) (n : Nat) : Prop := ∃ x, field = some x ∧ x.toInteger = .ok (n : Int)

/-- The fields of an object that describes an entry. -/
structure EntryFields (fields : List (Text × Json)) (e : Entry) : Prop where
  kind : Json.Fields.get? "type" fields = some (.string e.kind.name)
  position : PositionField (Json.Fields.get? "pos" fields) e.position
  text : OptionalText (Json.Fields.get? "text" fields) e.text

def DescribesEntry (x : Json) (e : Entry) : Prop := ∃ fields, x = .object fields ∧ EntryFields fields e

/-- The fields of an object that describes a fault. -/
structure FaultFields (fields : List (Text × Json)) (f : FaultRecord) : Prop where
  kind : Json.Fields.get? "kind" fields = some (.string f.kind.name)
  position : PositionField (Json.Fields.get? "pos" fields) f.position
  message : Json.Fields.get? "message" fields = some (.string f.message)

def DescribesFault (x : Json) (f : FaultRecord) : Prop := ∃ fields, x = .object fields ∧ FaultFields fields f

/-- An optional fault: absent and null give none. -/
inductive OptionalFault : Option Json → Option FaultRecord → Prop
  | absent : OptionalFault none none
  | null : OptionalFault (some .null) none
  | fault {x : Json} {f : FaultRecord} (h : DescribesFault x f) : OptionalFault (some x) (some f)

/-- Entries: absent, or an array with one item for each, in order. -/
inductive Listed : Option Json → List Entry → Prop
  | absent : Listed none []
  | array {items : List Json} {entries : List Entry} (h : List.Forall₂ DescribesEntry items entries) :
    Listed (some (.array items)) entries

/-- All fields but that of the entries. -/
structure Heading (fields : List (Text × Json)) (s : Transcript) : Prop where
  version : Json.Fields.get? "v" fields = some (.string version)
  label : Json.Fields.get? "source" fields = some (.string s.label)
  fault : OptionalFault (Json.Fields.get? "error" fields) s.fault

/-- The value of a dump, written in any way. -/
def Describes (x : Json) (s : Transcript) : Prop :=
  ∃ fields, x = .object fields ∧ Heading fields s ∧ Listed (Json.Fields.get? "tokens" fields) s.entries

/-- A value without an array of entries that is taken for one of no entries. -/
def DescribesHollow (x : Json) (s : Transcript) : Prop :=
  ∃ fields, x = .object fields ∧ Heading fields s ∧ s.entries = [] ∧
    (Json.Fields.get? "tokens" fields = some (.string []) ∨ Json.Fields.get? "tokens" fields = some (.object []))

end Transcript

/-! ### Steps of reading -/

theorem bind_eq_ok_iff {ε α β : Type} {x : Except ε α} {f : α → Except ε β} {b : β} :
    (x >>= f) = .ok b ↔ ∃ a, x = .ok a ∧ f a = .ok b := by
  cases x with
  | error e => simp [bind, Except.bind]
  | ok a => simp [bind, Except.bind]

/-- Items are read one by one. -/
theorem mapM_eq_ok_iff {ε α β : Type} {f : α → Except ε β} {xs : List α} {ys : List β} :
    xs.mapM f = .ok ys ↔ List.Forall₂ (fun x y => f x = .ok y) xs ys := by
  induction xs generalizing ys with
  | nil =>
    rw [List.mapM_nil, List.forall₂_nil_left_iff]
    exact ⟨fun h => (Except.ok.inj h).symm, fun h => h ▸ rfl⟩
  | cons x xs ih =>
    rw [List.mapM_cons, bind_eq_ok_iff, List.forall₂_cons_left_iff]
    constructor
    · rintro ⟨y, hy, h⟩
      obtain ⟨ys', hys, h⟩ := bind_eq_ok_iff.1 h
      exact ⟨y, ys', hy, ih.1 hys, (Except.ok.inj h).symm⟩
    · rintro ⟨y, ys', hy, hys, rfl⟩
      exact ⟨y, hy, bind_eq_ok_iff.2 ⟨ys', ih.2 hys, rfl⟩⟩

/-- A name finds what it is the name of, if each name finds its own first. -/
theorem find?_name_eq_some_iff {κ : Type} {all : List κ} {nameOf : κ → Text}
    (hback : ∀ k, all.find? (fun k' => nameOf k' == nameOf k) = some k) {name : Text} {k : κ} :
    all.find? (fun k' => nameOf k' == name) = some k ↔ name = nameOf k := by
  constructor
  · intro h
    have hname := List.find?_some h
    exact (eq_of_beq hname).symm
  · rintro rfl
    exact hback k

theorem TokenKind.ofName?_eq_some_iff {name : Text} {kind : TokenKind} :
    TokenKind.ofName? name = some kind ↔ name = kind.name :=
  find?_name_eq_some_iff ofName?_name

theorem FaultKind.ofName?_eq_some_iff {name : Text} {kind : FaultKind} :
    FaultKind.ofName? name = some kind ↔ name = kind.name :=
  find?_name_eq_some_iff ofName?_name

theorem Json.toPosition_eq_ok_iff {x : Json} {n : Nat} : x.toPosition = .ok n ↔ x.toInteger = .ok (n : Int) := by
  rw [toPosition]
  cases x.toInteger with
  | error complaint => simp
  | ok i =>
    by_cases hi : i < 0
    · simp [hi]
      omega
    · simp [hi]
      omega

namespace Transcript

theorem fieldsOf_eq_ok_iff {x : Json} {fields : List (Text × Json)} :
    fieldsOf x = .ok fields ↔ x = .object fields := by
  cases x <;> simp [fieldsOf]

theorem required_eq_ok_iff {key : Text} {fields : List (Text × Json)} {x : Json} :
    required key fields = .ok x ↔ Json.Fields.get? key fields = some x := by
  rw [required]
  cases Json.Fields.get? key fields <;> simp

theorem textOf_eq_ok_iff {x : Json} {t : Text} : textOf x = .ok t ↔ x = .string t := by
  cases x <;> simp [textOf]

theorem optionalTextOf_eq_ok_iff {x : Option Json} {t : Option Text} :
    optionalTextOf x = .ok t ↔ OptionalText x t := by
  constructor
  · intro h
    unfold optionalTextOf at h
    split at h
    · cases h; exact .absent
    · cases h; exact .null
    · cases h; exact .text _
    · cases h
  · intro h
    cases h <;> rfl

theorem tokenKindOf_eq_ok_iff {x : Json} {kind : TokenKind} : tokenKindOf x = .ok kind ↔ x = .string kind.name := by
  constructor
  · intro h
    unfold tokenKindOf at h
    split at h
    · cases h
    · cases h
    · split at h
      · next hname => cases h; rw [TokenKind.ofName?_eq_some_iff.1 hname]
      · cases h
    · cases h
  · rintro rfl
    exact tokenKindOf_name kind

theorem faultKindOf_eq_ok_iff {x : Json} {kind : FaultKind} : faultKindOf x = .ok kind ↔ x = .string kind.name := by
  constructor
  · intro h
    unfold faultKindOf at h
    split at h
    · split at h
      · next hname => cases h; rw [FaultKind.ofName?_eq_some_iff.1 hname]
      · cases h
    · cases h
  · rintro rfl
    exact faultKindOf_name kind

/-- **Entries.** -/
theorem entryOf_eq_ok_iff {x : Json} {e : Entry} : entryOf x = .ok e ↔ DescribesEntry x e := by
  simp only [entryOf, bind_eq_ok_iff, fieldsOf_eq_ok_iff, required_eq_ok_iff, tokenKindOf_eq_ok_iff]
  constructor
  · rintro ⟨fields, hx, name, hname, kind, hkind, pos, hpos, h⟩
    split at h
    · next position text hposition htext =>
      cases h
      exact ⟨fields, hx, hkind ▸ hname, ⟨pos, hpos, Json.toPosition_eq_ok_iff.1 hposition⟩,
        optionalTextOf_eq_ok_iff.1 htext⟩
    · cases h
  · -- Conversely each step is known to succeed, the last one because both fields are good.
    rintro ⟨fields, hx, hkind, ⟨pos, hpos, hposition⟩, htext⟩
    refine ⟨fields, hx, _, hkind, e.kind, rfl, pos, hpos, ?_⟩
    rw [Json.toPosition_eq_ok_iff.2 hposition, optionalTextOf_eq_ok_iff.2 htext]
    rfl

/-- **Faults.** -/
theorem faultRecordOf_eq_ok_iff {x : Json} {f : FaultRecord} : faultRecordOf x = .ok f ↔ DescribesFault x f := by
  simp only [faultRecordOf, bind_eq_ok_iff, fieldsOf_eq_ok_iff, required_eq_ok_iff, faultKindOf_eq_ok_iff]
  constructor
  · rintro ⟨fields, hx, name, hname, kind, hkind, pos, hpos, message, hmessage, h⟩
    split at h
    · next position text hposition htext =>
      cases h
      exact ⟨fields, hx, hkind ▸ hname, ⟨pos, hpos, Json.toPosition_eq_ok_iff.1 hposition⟩,
        textOf_eq_ok_iff.1 htext ▸ hmessage⟩
    · cases h
  · rintro ⟨fields, hx, hkind, ⟨pos, hpos, hposition⟩, hmessage⟩
    refine ⟨fields, hx, _, hkind, f.kind, rfl, pos, hpos, _, hmessage, ?_⟩
    rw [Json.toPosition_eq_ok_iff.2 hposition]
    rfl

/-- The items of anything but an array are texts, and only two values have none. -/
theorem itemsOf_cases {x : Json} {items : List Json} (h : itemsOf x = .ok items) :
    x = .array items ∨ (∀ y ∈ items, ∃ t, y = .string t) ∧ (items = [] → x = .string [] ∨ x = .object []) := by
  cases x with
  | array items' =>
    obtain rfl := Except.ok.inj h
    exact .inl rfl
  | string t =>
    obtain rfl := Except.ok.inj h
    refine .inr ⟨?_, fun hnil => .inl ?_⟩
    · intro y hy
      obtain ⟨c, -, rfl⟩ := List.mem_map.1 hy
      exact ⟨[c], rfl⟩
    · rw [List.map_eq_nil_iff.1 hnil]
  | object fields =>
    obtain rfl := Except.ok.inj h
    refine .inr ⟨?_, fun hnil => .inr ?_⟩
    · intro y hy
      obtain ⟨f, -, rfl⟩ := List.mem_map.1 hy
      exact ⟨f.1, rfl⟩
    · rw [List.map_eq_nil_iff.1 hnil]
  | _ => cases h

/-- No text describes an entry. -/
theorem eq_nil_of_texts {items : List Json} {entries : List Entry} (htexts : ∀ y ∈ items, ∃ t, y = .string t)
    (h : List.Forall₂ DescribesEntry items entries) : items = [] ∧ entries = [] := by
  cases h with
  | nil => exact ⟨rfl, rfl⟩
  | @cons y e items entries hentry _ =>
    obtain ⟨t, rfl⟩ := htexts _ List.mem_cons_self
    obtain ⟨fields, hfields, -⟩ := hentry
    cases hfields

/-- So something else with items gives entries only if it has no items. -/
theorem items_eq_ok_iff {field : Option Json} {entries : List Entry} :
    (∃ items, itemsOf (field.getD (.array [])) = .ok items ∧ items.mapM entryOf = .ok entries) ↔
      Listed field entries ∨ entries = [] ∧ (field = some (.string []) ∨ field = some (.object [])) := by
  simp only [mapM_eq_ok_iff, entryOf_eq_ok_iff]
  constructor
  · rintro ⟨items, hitems, h⟩
    cases field with
    | none =>
      obtain rfl : [] = items := Except.ok.inj hitems
      obtain rfl := List.forall₂_nil_left_iff.1 h
      exact .inl .absent
    | some x =>
      rcases itemsOf_cases hitems with hx | ⟨htexts, hnone⟩
      · obtain rfl : x = .array items := hx
        exact .inl (.array h)
      · obtain ⟨hnil, rfl⟩ := eq_nil_of_texts htexts h
        exact .inr ⟨rfl, (hnone hnil).imp (congrArg some) (congrArg some)⟩
  · rintro (h | ⟨rfl, rfl | rfl⟩)
    · cases h with
      | absent => exact ⟨[], rfl, .nil⟩
      | array h => exact ⟨_, rfl, h⟩
    · exact ⟨[], rfl, .nil⟩
    · exact ⟨[], rfl, .nil⟩

/-- The fault of a field that may be absent or null. -/
def optionalFaultOf (field : Option Json) : Except LoadError (Option FaultRecord) :=
  match field with
  | none | some .null => .ok none
  | some x => some <$> faultRecordOf x

/-- The label of a field. -/
def labelOf (field : Json) : Except LoadError Text :=
  match textOf field with
  | .ok label => .ok label
  | .error complaint => .error (.malformed (.violations [⟨.label, complaint⟩]))

/-- What is read of an object that states the right version, in the order in which it is read. -/
theorem ofJson_of_version {fields : List (Text × Json)}
    (h : Json.Fields.get? "v" fields = some (.string version)) : ofJson (.object fields) = do
      let label ← required "source" fields
      let items ← itemsOf ((Json.Fields.get? "tokens" fields).getD (.array []))
      let entries ← items.mapM entryOf
      let fault ← optionalFaultOf (Json.Fields.get? "error" fields)
      let label ← labelOf label
      return { label, entries, fault } := by
  have hne : ¬ version ≠ version := by simp
  unfold ofJson optionalFaultOf labelOf
  simp only [h, Option.getD_some, if_neg hne]
  congr 1; funext label
  congr 1; funext items
  congr 1; funext entries
  generalize Json.Fields.get? "error" fields = field
  cases field with
  | none => cases textOf label <;> rfl
  | some x => cases x <;> cases textOf label <;> rfl

theorem optionalFaultOf_eq_ok_iff {field : Option Json} {fault : Option FaultRecord} :
    optionalFaultOf field = .ok fault ↔ OptionalFault field fault := by
  constructor
  · intro h
    unfold optionalFaultOf at h
    split at h
    · cases h; exact .absent
    · cases h; exact .null
    · next x _ =>
      cases hx : faultRecordOf x with
      | error e => rw [hx] at h; cases h
      | ok f =>
        rw [hx] at h
        cases h
        exact .fault (faultRecordOf_eq_ok_iff.1 hx)
  · intro h
    cases h with
    | absent => rfl
    | null => rfl
    | fault hx =>
      have hread := faultRecordOf_eq_ok_iff.2 hx
      obtain ⟨fields, rfl, -⟩ := hx
      rw [optionalFaultOf, hread]
      · rfl
      · exact nofun

theorem labelOf_eq_ok_iff {field : Json} {label : Text} : labelOf field = .ok label ↔ field = .string label := by
  rw [labelOf, ← textOf_eq_ok_iff]
  cases textOf field <;> simp

theorem ofJson_of_not_object {x : Json} (h : ∀ fields, x ≠ .object fields) : ofJson x = .error .notAnObject := by
  cases x with
  | object fields => exact absurd rfl (h fields)
  | _ => rfl

theorem ofJson_of_not_version {fields : List (Text × Json)}
    (h : Json.Fields.get? "v" fields ≠ some (.string version)) :
    ofJson (.object fields) = .error (.unsupportedVersion ((Json.Fields.get? "v" fields).getD .null)) := by
  rw [ofJson]
  cases hstated : Json.Fields.get? "v" fields with
  | none => rfl
  | some stated =>
    cases stated with
    | string v =>
      have hversion : v ≠ version := by
        rintro rfl
        exact h hstated
      simp only [Option.getD_some, if_pos hversion]
      rfl
    | _ => rfl

/-- Only an object that states the right version is read. -/
theorem version_of_ofJson {x : Json} {s : Transcript} (h : ofJson x = .ok s) :
    ∃ fields, x = .object fields ∧ Json.Fields.get? "v" fields = some (.string version) := by
  by_contra hnot
  cases x with
  | object fields =>
    have hversion : Json.Fields.get? "v" fields ≠ some (.string version) := fun hv => hnot ⟨fields, rfl, hv⟩
    rw [ofJson_of_not_version hversion] at h
    cases h
  | _ =>
    rw [ofJson_of_not_object (by simp)] at h
    cases h

/-- **Transcripts.** A value is read as the transcript it describes; one that is hollow, as one without entries. -/
theorem ofJson_eq_ok_iff {x : Json} {s : Transcript} : ofJson x = .ok s ↔ Describes x s ∨ DescribesHollow x s := by
  -- With the right version, reading is one step after the other, and the steps are known.
  have hsteps : ∀ fields, Json.Fields.get? "v" fields = some (.string version) →
      (ofJson (.object fields) = .ok s ↔ Json.Fields.get? "source" fields = some (.string s.label) ∧
        OptionalFault (Json.Fields.get? "error" fields) s.fault ∧
        (Listed (Json.Fields.get? "tokens" fields) s.entries ∨ s.entries = [] ∧
          (Json.Fields.get? "tokens" fields = some (.string []) ∨
            Json.Fields.get? "tokens" fields = some (.object [])))) := by
    intro fields hversion
    simp only [ofJson_of_version hversion, bind_eq_ok_iff, required_eq_ok_iff, optionalFaultOf_eq_ok_iff,
      labelOf_eq_ok_iff, ← items_eq_ok_iff]
    constructor
    · rintro ⟨source, hsource, items, hitems, entries, hentries, fault, hfault, label, rfl, h⟩
      obtain rfl := Except.ok.inj h
      exact ⟨hsource, hfault, items, hitems, hentries⟩
    · rintro ⟨hsource, hfault, items, hitems, hentries⟩
      exact ⟨_, hsource, items, hitems, s.entries, hentries, s.fault, hfault, s.label, rfl, rfl⟩
  constructor
  · intro h
    obtain ⟨fields, rfl, hversion⟩ := version_of_ofJson h
    obtain ⟨hlabel, hfault, hlisted | ⟨hnone, hhollow⟩⟩ := (hsteps fields hversion).1 h
    · exact .inl ⟨fields, rfl, ⟨hversion, hlabel, hfault⟩, hlisted⟩
    · exact .inr ⟨fields, rfl, ⟨hversion, hlabel, hfault⟩, hnone, hhollow⟩
  · rintro (⟨fields, rfl, hheading, hlisted⟩ | ⟨fields, rfl, hheading, hnone, hhollow⟩)
    · exact (hsteps fields hheading.version).2 ⟨hheading.label, hheading.fault, .inl hlisted⟩
    · exact (hsteps fields hheading.version).2 ⟨hheading.label, hheading.fault, .inr ⟨hnone, hhollow⟩⟩

/-- No value is both. -/
theorem not_describes_of_hollow {x : Json} {s s' : Transcript} (h : DescribesHollow x s) : ¬ Describes x s' := by
  rintro ⟨fields, rfl, -, hlisted⟩
  obtain ⟨fields', hfields, -, -, hhollow⟩ := h
  obtain rfl : fields = fields' := Json.object.inj hfields
  rcases hhollow with hhollow | hhollow
  · rw [hhollow] at hlisted
    cases hlisted
  · rw [hhollow] at hlisted
    cases hlisted

/-! ### Texts -/

/-- **What is loaded.** A text that denotes a value is loaded as the transcript that the value describes: with one entry
    for each item, in order, and the values of the fields. Loading goes beyond that for hollow values only, which
    describe nothing and are loaded without entries. So it follows the descriptions exactly where none is hollow. -/
theorem load_eq_ok_iff_of_read {t : Text} {x : Json} (h : Json.read t = .ok x) :
    (∀ s, load t = .ok s ↔ Describes x s ∨ DescribesHollow x s) ∧
      ((∀ s, load t = .ok s ↔ Describes x s) ↔ ∀ s, ¬ DescribesHollow x s) := by
  have hload : ∀ s, load t = .ok s ↔ Describes x s ∨ DescribesHollow x s := by
    intro s
    rw [load, h]
    exact ofJson_eq_ok_iff
  refine ⟨hload, ?_, ?_⟩
  · intro hexact s hhollow
    have hloaded : load t = .ok s := (hload s).2 (.inr hhollow)
    exact not_describes_of_hollow hhollow ((hexact s).1 hloaded)
  · intro hnone s
    rw [hload, or_iff_left (hnone s)]

/-- Fields in any order, a key that is not looked up, a null for a text and for the fault, and a position in a text. -/
theorem load_eq_ok_iff_of_read_lenient :
    let x : Json := .object [("tokens", .array [.object [("pos", .string " +0_1.0 "), ("type", .string "EOF"),
      ("text", .null), ("line", .int 3)]]), ("error", .null), ("v", .string "1"), ("source", .string "s")]
    Json.read x.write = .ok x ∧ load x.write = .ok ⟨"s", [⟨.endOfInput, 1, none⟩], none⟩ ∧
      Describes x ⟨"s", [⟨.endOfInput, 1, none⟩], none⟩ := by
  intro x
  have hthree : Json.Plain (.int 3) := .int 3 (by decide +kernel)
  have hentry : Json.Plain (.object [("pos", .string " +0_1.0 "), ("type", .string "EOF"), ("text", .null),
      ("line", .int 3)]) :=
    .object _ (by decide) (by simp [Json.Plain.string, Json.Plain.null, hthree])
  have hentries : Json.Plain (.array [.object [("pos", .string " +0_1.0 "), ("type", .string "EOF"), ("text", .null),
      ("line", .int 3)]]) :=
    .array _ (by simpa using hentry)
  have hplain : x.Plain := .object _ (by decide) (by simp [Json.Plain.string, Json.Plain.null, hentries])
  have hread : Json.read x.write = .ok x := Json.read_write hplain
  have hload : load x.write = .ok ⟨"s", [⟨.endOfInput, 1, none⟩], none⟩ := by
    rw [load, hread]
    rfl
  refine ⟨hread, hload, ?_⟩
  rcases ((load_eq_ok_iff_of_read hread).1 _).1 hload with hdescribes | hhollow
  · exact hdescribes
  · obtain ⟨fields, hfields, -, hnone, -⟩ := hhollow
    cases hnone

/-- An empty text in the place of the array is loaded, although its value describes nothing. -/
theorem load_empty_text_for_entries :
    let x : Json := .object [("v", .string "1"), ("source", .string "s"), ("tokens", .string [])]
    x.write = "\x7b\"v\":\"1\",\"source\":\"s\",\"tokens\":\"\"\x7d" ∧ Json.read x.write = .ok x ∧
      load x.write = .ok ⟨"s", [], none⟩ ∧ ∀ s, ¬ Describes x s := by
  intro x
  have htext : x.write = "\x7b\"v\":\"1\",\"source\":\"s\",\"tokens\":\"\"\x7d" := by decide +kernel
  have hplain : x.Plain := .object _ (by decide) (by simp [Json.Plain.string])
  have hread : Json.read x.write = .ok x := Json.read_write hplain
  have hload : load x.write = .ok ⟨"s", [], none⟩ := by
    rw [load, hread]
    rfl
  refine ⟨htext, hread, hload, ?_⟩
  rintro s ⟨fields, hfields, -, hlisted⟩
  obtain rfl := Json.object.inj hfields
  cases hlisted

end Transcript

end ParenTokens
