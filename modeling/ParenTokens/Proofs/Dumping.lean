import ParenTokens.Proofs.JsonText
import ParenTokens.Transcript.Dump

namespace ParenTokens

/-!
# Loading what was dumped

* `Transcript.Storable` — positions with no more digits than are read; all other parts of a transcript are free.
* `Transcript.plain_toJson` — the value of such a transcript is determined by its text.
* `Transcript.ofJson_toJson` — a transcript is read back from its value, entry by entry.
* `Transcript.load_dump` — both together: a dump is loaded as the transcript that was dumped.
-/

/-! ### Names and positions -/

theorem TokenKind.ofName?_name (kind : TokenKind) : TokenKind.ofName? kind.name = some kind := by
  cases kind <;> rfl

theorem FaultKind.ofName?_name (kind : FaultKind) : FaultKind.ofName? kind.name = some kind := by
  cases kind <;> rfl

namespace Transcript

theorem tokenKindOf_name (kind : TokenKind) : tokenKindOf (.string kind.name) = .ok kind := by
  rw [tokenKindOf, TokenKind.ofName?_name]

theorem faultKindOf_name (kind : FaultKind) : faultKindOf (.string kind.name) = .ok kind := by
  rw [faultKindOf, FaultKind.ofName?_name]

/-! ### Values -/

/-- An entry is read back whatever its kind, with no text as well as with an empty one. -/
theorem entryOf_toJson (e : Entry) : entryOf e.toJson = .ok e := by
  obtain ⟨kind, position, text⟩ := e
  have hkind := tokenKindOf_name kind
  -- Apart from the kind, reading only looks up keys in a list of known keys, which is evaluated.
  cases text with
  | none =>
    show (tokenKindOf (.string kind.name) >>= _) = _
    rw [hkind]
    rfl
  | some t =>
    show (tokenKindOf (.string kind.name) >>= _) = _
    rw [hkind]
    rfl

theorem faultRecordOf_toJson (f : FaultRecord) : faultRecordOf f.toJson = .ok f := by
  obtain ⟨kind, position, message⟩ := f
  have hkind := faultKindOf_name kind
  show (faultKindOf (.string kind.name) >>= _) = _
  rw [hkind]
  rfl

theorem mapM_entryOf_toJson (es : List Entry) : (es.map Entry.toJson).mapM entryOf = .ok es := by
  induction es with
  | nil => rfl
  | cons e es ih =>
    rw [List.map_cons, List.mapM_cons, entryOf_toJson, ih]
    rfl

/-- **Values.** A transcript is read back from its value. -/
theorem ofJson_toJson (s : Transcript) : ofJson s.toJson = .ok s := by
  obtain ⟨label, entries, fault⟩ := s
  have hentries := mapM_entryOf_toJson entries
  cases fault with
  | none =>
    show ((entries.map Entry.toJson).mapM entryOf >>= _) = _
    rw [hentries]
    rfl
  | some f =>
    have hfault := faultRecordOf_toJson f
    show ((entries.map Entry.toJson).mapM entryOf >>= _) = _
    rw [hentries]
    show ((some <$> faultRecordOf f.toJson) >>= _) = _
    rw [hfault]
    rfl

/-! ### Texts -/

/-- A transcript none of whose positions has more digits than are read. -/
structure Storable (s : Transcript) : Prop where
  entries : ∀ e ∈ s.entries, (Decimal.digits e.position).length ≤ Decimal.digitLimit
  fault : ∀ f ∈ s.fault, (Decimal.digits f.position).length ≤ Decimal.digitLimit

theorem plain_entry {e : Entry} (h : (Decimal.digits e.position).length ≤ Decimal.digitLimit) :
    e.toJson.Plain := by
  obtain ⟨kind, position, text⟩ := e
  have hkind := Json.Plain.string kind.name
  have hposition := Json.Plain.int position h
  cases text with
  | none =>
    have hfields : ∀ f ∈ [(("type" : Text), Json.string kind.name), ("pos", .int position)], f.2.Plain := by
      simp [hkind, hposition]
    have distinct : [("type" : Text), "pos"].Nodup := by decide
    exact .object _ distinct hfields
  | some t =>
    have htext := Json.Plain.string t
    have hfields : ∀ f ∈ [(("type" : Text), Json.string kind.name), ("pos", .int position), ("text", .string t)],
        f.2.Plain := by
      simp [hkind, hposition, htext]
    have distinct : [("type" : Text), "pos", "text"].Nodup := by decide
    exact .object _ distinct hfields

theorem plain_faultRecord {f : FaultRecord} (h : (Decimal.digits f.position).length ≤ Decimal.digitLimit) :
    f.toJson.Plain := by
  have hkind := Json.Plain.string f.kind.name
  have hposition := Json.Plain.int f.position h
  have hmessage := Json.Plain.string f.message
  have hfields : ∀ p ∈ [(("kind" : Text), Json.string f.kind.name), ("pos", .int f.position),
      ("message", .string f.message)], p.2.Plain := by
    simp [hkind, hposition, hmessage]
  have distinct : [("kind" : Text), "pos", "message"].Nodup := by decide
  exact .object _ distinct hfields

/-- **Texts.** The value of a storable transcript is determined by its text. -/
theorem plain_toJson {s : Transcript} (h : s.Storable) : s.toJson.Plain := by
  obtain ⟨label, entries, fault⟩ := s
  have hversion := Json.Plain.string version
  have hlabel := Json.Plain.string label
  have hentries : (Json.array (entries.map Entry.toJson)).Plain := by
    refine .array _ fun x hx => ?_
    obtain ⟨e, he, rfl⟩ := List.mem_map.1 hx
    exact plain_entry (h.entries e he)
  cases fault with
  | none =>
    have hfields : ∀ f ∈ [(("v" : Text), Json.string version), ("source", .string label),
        ("tokens", .array (entries.map Entry.toJson))], f.2.Plain := by
      simp [hversion, hlabel, hentries]
    have distinct : [("v" : Text), "source", "tokens"].Nodup := by decide
    exact .object _ distinct hfields
  | some f =>
    have hfault := plain_faultRecord (h.fault f rfl)
    have hfields : ∀ p ∈ [(("v" : Text), Json.string version), ("source", .string label),
        ("tokens", .array (entries.map Entry.toJson)), ("error", f.toJson)], p.2.Plain := by
      simp [hversion, hlabel, hentries, hfault]
    have distinct : [("v" : Text), "source", "tokens", "error"].Nodup := by decide
    exact .object _ distinct hfields

/-- **Dumps.** What is dumped is loaded again, in every part as it was: any label, any entries with any texts or none,
    and a fault or none. -/
theorem load_dump (s : Transcript) (h : s.Storable) : load s.dump = .ok s := by
  have hread : Json.read s.dump = .ok s.toJson := Json.read_write (plain_toJson h)
  rw [load, hread]
  exact ofJson_toJson s

/-- Two surrogates side by side that stay two, marks and controls in a label, a text where a scanner gives none, an
    empty text and no text. -/
theorem load_dump_surrogates :
    let s : Transcript := {
      label := "a\"b\\c\n\x00\x7f"
      entries := [⟨.string, 0, some [.ofNat 0xD83D, .ofNat 0xDE00]⟩, ⟨.rightParen, 10, some ("é" : Text)⟩,
        ⟨.identifier, 7, some []⟩, ⟨.string, 12345678901234567890, none⟩]
      fault := some ⟨.unterminatedString, 3, [.ofNat 0xDFFF, .ofNat 0x2028]⟩ }
    s.Storable ∧ load s.dump = .ok s := by
  intro s
  have hstorable : s.Storable := by
    constructor <;> decide +kernel
  exact ⟨hstorable, load_dump s hstorable⟩

end Transcript

end ParenTokens
