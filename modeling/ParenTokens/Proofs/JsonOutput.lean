import ParenTokens.Command.Run
import ParenTokens.Proofs.Recording

namespace ParenTokens

/-!
# Tokens printed as JSON

The subcommand that lists tokens prints either a listing or a dump.  A dump takes one line whatever the input is, and
what it holds can be had from the line.

* `CodePoint.IsShown` — the code points that JSON itself is written with.
* `Json.mem_write` — what a value is written with: these, and code points of its texts that are no controls.
* `Quoted.isScalar_quote`, `Layout.isScalar_of_mem_tokens`, `Residue.isScalar_message` — the texts of a run are scalars.
* `Transcript.isScalar_toJson_record` — so are those of its record; `Transcript.mem_dump_record` — its dump is one line.
* `Transcript.load_dump_newline` — a dump is read with the end of its line.
* `Command.run_tokenize_json` — the whole subcommand.
-/

/-! ### What JSON is written with -/

/-- A code point of ASCII that is no control. -/
def CodePoint.IsShown (c : CodePoint) : Prop := 0x20 ≤ c.val ∧ c.val < 0x7F

instance (c : CodePoint) : Decidable c.IsShown := inferInstanceAs (Decidable (_ ∧ _))

theorem CodePoint.IsShown.isScalar {c : CodePoint} (h : c.IsShown) : c.isScalar = true := by
  rw [isScalar_iff]
  have hlt := h.2
  omega

theorem Text.mem_of_mem_join {sep : Text} {ts : List Text} {c : CodePoint} (h : c ∈ Text.join sep ts) :
    c ∈ sep ∨ ∃ t ∈ ts, c ∈ t := by
  induction ts with
  | nil => cases h
  | cons t ts ih =>
    cases ts with
    | nil => exact .inr ⟨t, List.mem_singleton_self t, h⟩
    | cons u us =>
      rw [Json.join_cons_cons, List.mem_append, List.mem_append] at h
      rcases h with (ht | hsep) | hmore
      · exact .inr ⟨t, List.mem_cons_self, ht⟩
      · exact .inl hsep
      · rcases ih hmore with hsep | ⟨v, hv, hc⟩
        · exact .inl hsep
        · exact .inr ⟨v, List.mem_cons_of_mem _ hv, hc⟩

namespace Decimal

theorem isShown_of_mem_ofInt {i : Int} {c : CodePoint} (h : c ∈ ofInt i) : c.IsShown := by
  have hnumeral : ∀ {n : Nat}, c ∈ ofNat n → c.IsShown := by
    intro n hc
    obtain ⟨d, hd, rfl⟩ := List.mem_map.1 hc
    have hlt := lt_of_mem_digits hd
    rw [CodePoint.IsShown, val_ofDigit hlt]
    omega
  cases i with
  | ofNat n => exact hnumeral h
  | negSucc n =>
    rcases List.mem_cons.1 h with rfl | h
    · decide
    · exact hnumeral h

theorem isShown_of_mem_hex {width n : Nat} {c : CodePoint} (h : c ∈ hex width n) : c.IsShown := by
  induction width generalizing n with
  | zero => cases h
  | succ width ih =>
    rw [hex, List.mem_append, List.mem_singleton] at h
    rcases h with h | rfl
    · exact ih h
    · have htable : ∀ d < 16, (hexDigit d).IsShown := by decide
      exact htable _ (Nat.mod_lt n (by decide))

end Decimal

namespace Json

open Quoted (doubleQuote backslash)

/-- A value without floating-point numbers, all texts and keys of which consist of code points with `p`. -/
inductive TextsOf (p : CodePoint → Prop) : Json → Prop
  | null : TextsOf p .null
  | bool (b : Bool) : TextsOf p (.bool b)
  | int (i : Int) : TextsOf p (.int i)
  | string (t : Text) (h : ∀ c ∈ t, p c) : TextsOf p (.string t)
  | array (items : List Json) (h : ∀ x ∈ items, TextsOf p x) : TextsOf p (.array items)
  | object (fields : List (Text × Json)) (keys : ∀ f ∈ fields, ∀ c ∈ f.1, p c) (h : ∀ f ∈ fields, TextsOf p f.2) :
      TextsOf p (.object fields)

theorem isShown_of_shortEscape? {e c : CodePoint} (h : shortEscape? e = some c) : e.IsShown := by
  unfold shortEscape? at h
  split at h
  · next hself => rcases hself with rfl | rfl | rfl <;> decide
  split at h
  · next he => rw [he]; decide
  split at h
  · next he => rw [he]; decide
  split at h
  · next he => rw [he]; decide
  split at h
  · next he => rw [he]; decide
  split at h
  · next he => rw [he]; decide
  · cases h

/-- What stands for a code point in a string: others of ASCII, or itself if it is no control. -/
theorem mem_writeCodePoint {c d : CodePoint} (h : d ∈ writeCodePoint c) : d.IsShown ∨ (0x20 ≤ d.val ∧ d = c) := by
  have hbackslash : backslash.IsShown := by decide
  rcases writeCodePoint_cases c with ⟨e, hwrite, -, he⟩ | ⟨-, hwrite⟩ | ⟨-, -, hcontrol, hwrite⟩
  · rw [hwrite, List.mem_cons, List.mem_singleton] at h
    rcases h with rfl | rfl
    · exact .inl hbackslash
    · exact .inl (isShown_of_shortEscape? he)
  · rw [hwrite, List.mem_cons, List.mem_cons] at h
    rcases h with rfl | rfl | hhex
    · exact .inl hbackslash
    · exact .inl (by decide)
    · exact .inl (Decimal.isShown_of_mem_hex hhex)
  · rw [hwrite, List.mem_singleton] at h
    subst h
    exact .inr ⟨by omega, rfl⟩

theorem mem_writeString {t : Text} {d : CodePoint} (h : d ∈ writeString t) : d.IsShown ∨ (0x20 ≤ d.val ∧ d ∈ t) := by
  have hmark : doubleQuote.IsShown := by decide
  rw [writeString, List.cons_append, List.mem_cons, List.mem_append, List.mem_singleton, List.mem_flatMap] at h
  rcases h with rfl | ⟨c, hc, hd⟩ | rfl
  · exact .inl hmark
  · rcases mem_writeCodePoint hd with hshown | ⟨hle, rfl⟩
    · exact .inl hshown
    · exact .inr ⟨hle, hc⟩
  · exact .inl hmark

theorem mem_writeItems {items : List Json} {t : Text} (h : t ∈ writeItems items) : ∃ x ∈ items, t = x.write := by
  induction items with
  | nil => cases h
  | cons x items ih =>
    rcases List.mem_cons.1 h with rfl | h
    · exact ⟨x, List.mem_cons_self, rfl⟩
    · obtain ⟨y, hy, ht⟩ := ih h
      exact ⟨y, List.mem_cons_of_mem _ hy, ht⟩

theorem mem_writeFields {fields : List (Text × Json)} {t : Text} (h : t ∈ writeFields fields) :
    ∃ f ∈ fields, t = writeString f.1 ++ (":" : Text) ++ f.2.write := by
  induction fields with
  | nil => cases h
  | cons f fields ih =>
    rcases List.mem_cons.1 h with rfl | h
    · exact ⟨f, List.mem_cons_self, rfl⟩
    · obtain ⟨g, hg, ht⟩ := ih h
      exact ⟨g, List.mem_cons_of_mem _ hg, ht⟩

/-- **No controls.** A value is written with code points of ASCII that are no controls, and with those of its texts
    that are none. -/
theorem mem_write {p : CodePoint → Prop} {x : Json} (hx : TextsOf p x) :
    ∀ c ∈ x.write, c.IsShown ∨ (0x20 ≤ c.val ∧ p c) := by
  have hcomma : ∀ c ∈ ("," : Text), c.IsShown := by decide
  have hcolon : ∀ c ∈ (":" : Text), c.IsShown := by decide
  have hstring : ∀ {t : Text}, (∀ c ∈ t, p c) → ∀ c ∈ writeString t, c.IsShown ∨ (0x20 ≤ c.val ∧ p c) :=
    fun ht c hc => (mem_writeString hc).imp_right fun h => ⟨h.1, ht c h.2⟩
  induction hx with
  | null => exact fun c hc => .inl ((by decide : ∀ c ∈ ("null" : Text), c.IsShown) c hc)
  | bool b =>
    cases b with
    | false => exact fun c hc => .inl ((by decide : ∀ c ∈ ("false" : Text), c.IsShown) c hc)
    | true => exact fun c hc => .inl ((by decide : ∀ c ∈ ("true" : Text), c.IsShown) c hc)
  | int i =>
    intro c hc
    rw [write] at hc
    exact .inl (Decimal.isShown_of_mem_ofInt hc)
  | string t h =>
    intro c hc
    rw [write] at hc
    exact hstring h c hc
  | array items h ih =>
    intro c hc
    rw [write_array, List.mem_cons, List.mem_append, List.mem_singleton] at hc
    rcases hc with rfl | hc | rfl
    · exact .inl (by decide)
    · rcases Text.mem_of_mem_join hc with hsep | ⟨t, ht, hc⟩
      · exact .inl (hcomma c hsep)
      · obtain ⟨x, hx, rfl⟩ := mem_writeItems ht
        exact ih x hx c hc
    · exact .inl (by decide)
  | object fields keys h ih =>
    intro c hc
    rw [write_object, List.mem_cons, List.mem_append, List.mem_singleton] at hc
    rcases hc with rfl | hc | rfl
    · exact .inl (by decide)
    · rcases Text.mem_of_mem_join hc with hsep | ⟨t, ht, hc⟩
      · exact .inl (hcomma c hsep)
      · obtain ⟨f, hf, rfl⟩ := mem_writeFields ht
        rw [List.mem_append, List.mem_append] at hc
        rcases hc with (hkey | hsep) | hvalue
        · exact hstring (keys f hf) c hkey
        · exact .inl (hcolon c hsep)
        · exact ih f hf c hvalue
    · exact .inl (by decide)

end Json

/-! ### The texts of a run -/

namespace Quoted

/-- What stands for a code point between quotation marks: others of ASCII, or itself if it is the mark, the backslash or
printable. -/
theorem mem_escape {m c d : CodePoint} (h : d ∈ escape m c) :
    d.IsShown ∨ (d = c ∧ (c = m ∨ c = backslash ∨ c.isPrintable = true)) := by
  have hbackslash : backslash.IsShown := by decide
  have hletter : ∀ {e : CodePoint}, e.IsShown → d ∈ [backslash, e] → d.IsShown := by
    intro e he hd
    rcases List.mem_cons.1 hd with rfl | hd
    · exact hbackslash
    · obtain rfl := List.mem_singleton.1 hd
      exact he
  have hnumber : ∀ {e : CodePoint} {width : Nat}, e.IsShown → d ∈ backslash :: e :: Decimal.hex width c.val →
      d.IsShown := by
    intro e width he hd
    rw [List.mem_cons, List.mem_cons] at hd
    rcases hd with rfl | rfl | hd
    · exact hbackslash
    · exact he
    · exact Decimal.isShown_of_mem_hex hd
  unfold escape at h
  split at h
  · next hself =>
    rcases List.mem_cons.1 h with rfl | h
    · exact .inl hbackslash
    · exact .inr ⟨List.mem_singleton.1 h, hself.imp_right .inl⟩
  split at h
  · exact .inl (hletter (by decide) h)
  split at h
  · exact .inl (hletter (by decide) h)
  split at h
  · exact .inl (hletter (by decide) h)
  split at h
  · next hprintable => exact .inr ⟨List.mem_singleton.1 h, .inr (.inr hprintable)⟩
  split at h
  · exact .inl (hnumber (by decide) h)
  split at h
  · exact .inl (hnumber (by decide) h)
  · exact .inl (hnumber (by decide) h)

theorem isScalar_quote {t : Text} (ht : t.IsScalar) : (quote t).IsScalar := by
  have hmark : (mark t).isScalar = true := by
    unfold mark
    split <;> decide
  have hbody : Text.IsScalar (t.flatMap (escape (mark t))) := by
    intro d hd
    obtain ⟨c, hc, hd⟩ := List.mem_flatMap.1 hd
    rcases mem_escape hd with hshown | ⟨rfl, -⟩
    · exact hshown.isScalar
    · exact ht d hc
  rw [quote, List.cons_append, Text.isScalar_cons, Text.isScalar_append, Text.isScalar_cons]
  exact ⟨hmark, hbody, hmark, Text.isScalar_nil⟩

end Quoted

theorem Decimal.isScalar_ofInt (i : Int) : (ofInt i).IsScalar :=
  fun _ hc => (isShown_of_mem_ofInt hc).isScalar

/-- The fault at a residue speaks of its text only. -/
theorem Residue.isScalar_message {z : Residue} (hz : z.text.IsScalar) {cut : Bool} {position offset : Nat} {f : Fault}
    (hf : z.fault cut position offset = some f) : f.message.IsScalar := by
  have hencoding : ∀ p o, (Fault.invalidEncoding p o).message.IsScalar := by
    intro p o
    rw [Fault.message, Text.isScalar_append]
    exact ⟨by decide, Decimal.isScalar_ofInt o⟩
  cases z with
  | nothing =>
    cases cut with
    | false => cases hf
    | true =>
      obtain rfl := Option.some.inj hf
      exact hencoding _ _
  | unexpected c more hc =>
    obtain rfl := Option.some.inj hf
    have hchar : Text.IsScalar [c] := Text.isScalar_cons.2 ⟨(Text.isScalar_cons.1 hz).1, Text.isScalar_nil⟩
    rw [Fault.message, Text.isScalar_append]
    exact ⟨by decide, Quoted.isScalar_quote hchar⟩
  | openString body hb =>
    cases cut with
    | true =>
      obtain rfl := Option.some.inj hf
      exact hencoding _ _
    | false =>
      obtain rfl := Option.some.inj hf
      have hmark : Text.IsScalar [Cursor.stringMark] := by decide
      rw [Fault.message, Text.isScalar_append, Text.isScalar_append, Text.isScalar_append]
      exact ⟨⟨⟨by decide, Decimal.isScalar_ofInt _⟩, by decide⟩, Quoted.isScalar_quote hmark⟩

/-- A token carries only what its lexeme is written with. -/
theorem Layout.isScalar_of_mem_tokens {l : Layout} (hl : l.text.IsScalar) {position : Nat} {t : Token}
    (ht : t ∈ l.tokens position) : t.text.IsScalar := by
  induction l generalizing position with
  | blanks w => cases ht
  | lexeme w x more ih =>
    rw [text, Text.isScalar_append, Text.isScalar_append] at hl
    obtain ⟨-, hx, hmore⟩ := hl
    rcases List.mem_cons.1 ht with rfl | ht
    · cases x with
      | leftParen => exact Text.isScalar_nil
      | rightParen => exact Text.isScalar_nil
      | string body hb => exact (Text.isScalar_append.1 (Text.isScalar_cons.1 hx).2).1
      | identifier first more' hf hm => exact hx
    · exact ih hmore ht

namespace Scanner

theorem isScalar_of_mem_given {data : Array UInt8} {t : Token} (ht : t ∈ (ofBytes data).given) : t.text.IsScalar := by
  obtain ⟨l, z, rest, h⟩ := exists_reads data
  rw [h.given_eq] at ht
  rcases Layout.mem_of_mem_delivered ht with ht | rfl
  · exact Layout.isScalar_of_mem_tokens (Text.isScalar_append.1 h.scalar).1 ht
  · exact Text.isScalar_nil

theorem isScalar_message_of_stop {data : Array UInt8} {f : Fault} (hf : (ofBytes data).stop = some (.fault f)) :
    f.message.IsScalar := by
  obtain ⟨l, z, rest, h⟩ := exists_reads data
  rw [h.stop_eq] at hf
  obtain ⟨f', hf', hfault⟩ := Option.map_eq_some_iff.1 hf
  obtain rfl := Refusal.fault.inj hfault
  exact Residue.isScalar_message (Text.isScalar_append.1 h.scalar).2 hf'

end Scanner

/-! ### Records -/

/-- A value without floating-point numbers, all texts of which are scalars. -/
abbrev Json.IsScalar (x : Json) : Prop := x.TextsOf (·.isScalar = true)

theorem Json.isScalar_object {fields : List (Text × Json)} (h : ∀ f ∈ fields, f.1.IsScalar ∧ f.2.IsScalar) :
    (Json.object fields).IsScalar :=
  .object fields (fun f hf => (h f hf).1) fun f hf => (h f hf).2

theorem TokenKind.isScalar_name (kind : TokenKind) : kind.name.IsScalar := by
  cases kind <;> decide

theorem FaultKind.isScalar_name (kind : FaultKind) : kind.name.IsScalar := by
  cases kind <;> decide

theorem Entry.isScalar_toJson {e : Entry} (h : ∀ t ∈ e.text, t.IsScalar) : e.toJson.IsScalar := by
  obtain ⟨kind, position, text⟩ := e
  have htype : Text.IsScalar "type" ∧ (Json.string kind.name).IsScalar := ⟨by decide, .string _ kind.isScalar_name⟩
  have hpos : Text.IsScalar "pos" ∧ (Json.int position).IsScalar := ⟨by decide, .int position⟩
  cases text with
  | none =>
    apply Json.isScalar_object
    simp [htype, hpos]
  | some t =>
    have htext : Text.IsScalar "text" ∧ (Json.string t).IsScalar := ⟨by decide, .string t (h t rfl)⟩
    apply Json.isScalar_object
    simp [htype, hpos, htext]

theorem FaultRecord.isScalar_toJson {f : FaultRecord} (h : f.message.IsScalar) : f.toJson.IsScalar := by
  have hkind : Text.IsScalar "kind" ∧ (Json.string f.kind.name).IsScalar := ⟨by decide, .string _ f.kind.isScalar_name⟩
  have hpos : Text.IsScalar "pos" ∧ (Json.int f.position).IsScalar := ⟨by decide, .int f.position⟩
  have hmessage : Text.IsScalar "message" ∧ (Json.string f.message).IsScalar := ⟨by decide, .string _ h⟩
  apply Json.isScalar_object
  simp [hkind, hpos, hmessage]

namespace Transcript

theorem isScalar_toJson {s : Transcript} (hlabel : s.label.IsScalar)
    (hentries : ∀ e ∈ s.entries, ∀ t ∈ e.text, t.IsScalar) (hfault : ∀ f ∈ s.fault, f.message.IsScalar) :
    s.toJson.IsScalar := by
  obtain ⟨label, entries, fault⟩ := s
  have hv : Text.IsScalar "v" ∧ (Json.string version).IsScalar := ⟨by decide, .string _ (by decide)⟩
  have hsource : Text.IsScalar "source" ∧ (Json.string label).IsScalar := ⟨by decide, .string _ hlabel⟩
  have htokens : Text.IsScalar "tokens" ∧ (Json.array (entries.map Entry.toJson)).IsScalar := by
    refine ⟨by decide, .array _ fun x hx => ?_⟩
    obtain ⟨e, he, rfl⟩ := List.mem_map.1 hx
    exact Entry.isScalar_toJson (hentries e he)
  cases fault with
  | none =>
    apply Json.isScalar_object
    simp [hv, hsource, htokens]
  | some f =>
    have herror : Text.IsScalar "error" ∧ f.toJson.IsScalar :=
      ⟨by decide, FaultRecord.isScalar_toJson (hfault f rfl)⟩
    apply Json.isScalar_object
    simp [hv, hsource, htokens, herror]

/-- **Texts of a record.** They are all scalars, if the label is. -/
theorem isScalar_toJson_record (data : Array UInt8) {label : Text} (hlabel : label.IsScalar) :
    (record data label).toJson.IsScalar := by
  refine isScalar_toJson hlabel ?_ ?_
  · intro e he t ht
    rw [entries_record] at he
    obtain ⟨token, htoken, rfl⟩ := List.mem_map.1 he
    unfold Entry.ofScanned at ht
    split at ht
    · obtain rfl := Option.some.inj ht
      exact Scanner.isScalar_of_mem_given htoken
    · cases ht
  · intro r hr
    rw [fault_record] at hr
    rcases Scanner.stop_cases data with ⟨hstop, -⟩ | ⟨f, hstop, -⟩
    · rw [hstop] at hr
      cases hr
    · rw [hstop] at hr
      obtain rfl : FaultRecord.ofScanned f = r := Option.some.inj hr
      exact Scanner.isScalar_message_of_stop hstop

/-- The dump of a record is one line of scalars. -/
theorem mem_dump_record (data : Array UInt8) {label : Text} (hlabel : label.IsScalar) :
    ∀ c ∈ (record data label).dump, 0x20 ≤ c.val ∧ c.isScalar = true := by
  intro c hc
  rcases Json.mem_write (isScalar_toJson_record data hlabel) c hc with hshown | hself
  · exact ⟨hshown.1, hshown.isScalar⟩
  · exact hself

/-- What is dumped is loaded again, also when its line ends. -/
theorem load_dump_newline {s : Transcript} (h : s.Storable) : load (s.dump ++ [Text.newline]) = .ok s := by
  have hread : Json.read (s.dump ++ [Text.newline]) = .ok s.toJson := Json.read_write_append (plain_toJson h) (by decide)
  rw [load, hread]
  exact ofJson_toJson s

end Transcript

namespace Command

/-! ### The subcommand -/

/-- **Tokens as JSON.** Let the settings load, and let them or an option ask for JSON; the bytes are those of a file or
    of standard input, and the label has no surrogates.  Whether colors are on or not, one line is printed, without any
    control but the newline at its end, and nothing is reported.  The line can be encoded, and what it is loaded as is
    the record of the bytes.  The run ends well iff that is complete, otherwise with the code one.  The number of the
    bytes has no more digits than are read, as that of any bytes in a memory. -/
theorem run_tokenize_json {w : World} {choice : SettingsChoice} {settings : Settings}
    (hload : choice.load w = .ok settings) {format : Option OutputFormat}
    (hformat : format.getD settings.format = .json) (plain : Bool) {file label : Text} {input bytes : List UInt8}
    (hsource : (file = standardInput ∧ label = inputLabel ∧ bytes = input) ∨
      (file ≠ standardInput ∧ label = file ∧ readInput w file = .ok bytes))
    (hlabel : label.IsScalar) (hsize : (Decimal.digits bytes.length).length ≤ Decimal.digitLimit) :
    let o := (Invocation.tokenize file format plain choice).run w input
    ∃ body restored, o.out = body ++ [Text.newline] ∧ (∀ c ∈ body, 0x20 ≤ c.val) ∧
      Utf8.decode o.out.utf8 = .ok o.out ∧
      Transcript.load o.out = .ok restored ∧ restored = Transcript.record bytes.toArray label ∧
      o.err = [] ∧ (o.verdict = .exit 0 ↔ restored.complete = true) ∧ (o.verdict ≠ .exit 0 → o.verdict = .exit 1) ∧
      o.world = w := by
  intro o
  let s := Transcript.record bytes.toArray label
  have ho : o = { verdict := exitCode s.fault.isSome, out := line s.dump, err := [], world := w } := by
    rcases hsource with ⟨hfile, rfl, rfl⟩ | ⟨hfile, rfl, hread⟩
    · simp only [o, s, Invocation.run, runTokenize, withSettings, hload, hformat, if_pos hfile, printTokens]
    · simp only [o, s, Invocation.run, runTokenize, withSettings, hload, hformat, if_neg hfile, hread, printTokens]
  have hstorable : s.Storable := Transcript.storable_record (by simpa using hsize) label
  have hdump := Transcript.mem_dump_record bytes.toArray hlabel
  have hscalar : (line s.dump).IsScalar := by
    rw [line, Text.isScalar_append, Text.isScalar_cons]
    exact ⟨fun c hc => (hdump c hc).2, by decide, Text.isScalar_nil⟩
  rw [ho]
  refine ⟨s.dump, s, rfl, fun c hc => (hdump c hc).1, Utf8.decode_eq_ok_iff.2 ⟨hscalar, rfl⟩,
    Transcript.load_dump_newline hstorable, rfl, rfl, ?_, ?_, rfl⟩
  · rw [Transcript.complete_record]
    cases hfault : s.fault with
    | none => simp [exitCode, s, ← hfault]
    | some f => simp [exitCode, s, ← hfault]
  · cases s.fault with
    | none => exact fun hne => absurd rfl hne
    | some f => exact fun _ => rfl

/-- The settings ask for JSON and for colors; the label and a string hold newlines, and a fault follows. -/
theorem run_tokenize_json_newlines :
    let settingsFile : Text := "output-format: json\n"
    let file : Text := "a\nb"
    let content : List UInt8 := Text.utf8 "(x \"1\n2\" %"
    let w : World := ⟨.directory [(Settings.fileName, .file settingsFile.utf8), (file, .file content)], []⟩
    let o := (Invocation.tokenize file none false .near).run w []
    SettingsChoice.near.load w = .ok { format := .json } ∧ readInput w file = .ok content ∧ file.IsScalar ∧
      (Decimal.digits content.length).length ≤ Decimal.digitLimit ∧
      (∃ body, o.out = body ++ [Text.newline] ∧ ∀ c ∈ body, 0x20 ≤ c.val) ∧
      Transcript.load o.out = .ok (Transcript.record content.toArray file) ∧ o.verdict = .exit 1 := by
  intro settingsFile file content w o
  have hload : SettingsChoice.near.load w = .ok { format := .json } := by decide +kernel
  have hread : readInput w file = .ok content := by decide +kernel
  have hlabel : file.IsScalar := by decide
  have hsize : (Decimal.digits content.length).length ≤ Decimal.digitLimit := by decide +kernel
  have hformat : (none : Option OutputFormat).getD ({ format := .json } : Settings).format = .json := rfl
  have hsource : (file = standardInput ∧ file = inputLabel ∧ content = ([] : List UInt8)) ∨
      (file ≠ standardInput ∧ file = file ∧ readInput w file = .ok content) := .inr ⟨by decide, rfl, hread⟩
  obtain ⟨body, restored, hout, hbody, -, hrestored, rfl, -, hwell, hcode, -⟩ :=
    run_tokenize_json hload hformat false hsource hlabel hsize
  have hincomplete : (Transcript.record content.toArray file).complete = false := by decide +kernel
  refine ⟨hload, hread, hlabel, hsize, ⟨body, hout, hbody⟩, hrestored, ?_⟩
  apply hcode
  rw [ne_eq, hwell, hincomplete]
  decide

end Command

end ParenTokens
