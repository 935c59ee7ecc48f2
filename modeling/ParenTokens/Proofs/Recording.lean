import ParenTokens.Proofs.Dumping
import ParenTokens.Proofs.Scanning

namespace ParenTokens

/-!
# Recorded runs

A transcript keeps the tokens that a scanner gives and the fault that stops it, each in another form. Nothing is lost
by that, nor by dumping the transcript and loading it again.

* `Token.Scanned` — tokens as scanners give them; `Entry.toToken_ofScanned` gets them back from their records.
* `Scanner.scanned_of_mem_given` — all tokens given for some bytes are such, at positions within the bytes.
* `Scanner.stop_cases` — a run ends with the end token or is stopped by a fault, never both.
* `Transcript.storable_record` — recorded positions can be loaded, unless the number of bytes itself could not.
* `Transcript.map_toToken_record`, `Transcript.exists_fault_record_of_error` — the tokens and the fault of a record.
* `Transcript.load_dump_record` — a recorded, dumped and loaded run against the run itself.
-/

/-! ### Sizes -/

theorem Decimal.digits_of_lt {n : Nat} (h : n < 10) : digits n = [n] := by
  rw [digits, if_pos h]

theorem Decimal.length_digits_of_not_lt {n : Nat} (h : ¬ n < 10) :
    (digits n).length = (digits (n / 10)).length + 1 := by
  rw [digits, if_neg h, List.length_append, List.length_singleton]

/-- A larger number has no fewer digits. -/
theorem Decimal.length_digits_le {m n : Nat} (h : m ≤ n) : (digits m).length ≤ (digits n).length := by
  induction n using digits.induct generalizing m with
  | case1 n hn =>
    have hm : m < 10 := by omega
    rw [digits_of_lt hn, digits_of_lt hm]
    exact Nat.le_refl 1
  | case2 n hn ih =>
    have hlength := length_digits_of_not_lt hn
    by_cases hm : m < 10
    · rw [digits_of_lt hm, List.length_singleton]
      omega
    · have hlength' := length_digits_of_not_lt hm
      have hquotient := ih (m := m / 10) (by omega)
      omega

theorem Reads.length_le {data : Array UInt8} {l : Layout} {z : Residue} {rest : List UInt8}
    (h : Reads data l z rest) : l.text.length + z.text.length ≤ data.size := by
  have hbytes := congrArg List.length h.bytes_eq
  have hscalars := Text.length_le_length_utf8 h.scalar
  rw [List.length_append, Array.length_toList] at hbytes
  rw [List.length_append] at hscalars
  omega

/-! ### Tokens and faults of a scanner -/

/-- A token as scanners give them: it lies within `size` code points, and has a text only if its kind has one. -/
structure Token.Scanned (size : Nat) (t : Token) : Prop where
  nonneg : 0 ≤ t.position
  le_size : t.position ≤ size
  text_eq : t.kind.hasText = false → t.text = []

theorem Token.scanned_endAt {position size : Nat} (h : position ≤ size) : (endAt position).Scanned size :=
  ⟨Int.natCast_nonneg position, Int.ofNat_le.2 h, fun _ => rfl⟩

theorem Lexeme.scanned_token (x : Lexeme) {position size : Nat} (h : position ≤ size) :
    (x.token position).Scanned size := by
  refine ⟨Int.natCast_nonneg position, Int.ofNat_le.2 h, fun hkind => ?_⟩
  cases x with
  | leftParen => rfl
  | rightParen => rfl
  | string body hb => cases hkind
  | identifier first more hf hm => cases hkind

namespace Layout

theorem scanned_of_mem_tokens {l : Layout} {position size : Nat} (h : position + l.text.length ≤ size) {t : Token}
    (ht : t ∈ l.tokens position) : t.Scanned size := by
  induction l generalizing position with
  | blanks w => cases ht
  | lexeme w x more ih =>
    rw [text, List.length_append, List.length_append] at h
    rcases List.mem_cons.1 ht with rfl | ht
    · exact x.scanned_token (by omega)
    · exact ih (by omega) ht

theorem mem_of_mem_delivered {l : Layout} {z : Residue} {cut : Bool} {position : Nat} {t : Token}
    (ht : t ∈ l.delivered z cut position) : t ∈ l.tokens position ∨ t = .endAt (position + l.text.length) := by
  cases z with
  | nothing =>
    cases cut with
    | false => simpa [delivered] using ht
    | true =>
      rw [delivered, if_pos rfl] at ht
      split at ht
      · exact .inl (List.dropLast_subset _ ht)
      · exact .inl ht
  | unexpected c more hc => exact .inl ht
  | openString body hb => exact .inl ht

/-- A run that a fault stops gives no end token. -/
theorem kind_ne_of_mem_delivered {l : Layout} {z : Residue} {cut : Bool} {position offset : Nat} {f : Fault}
    (hf : z.fault cut position offset = some f) {start : Nat} {t : Token} (ht : t ∈ l.delivered z cut start) :
    t.kind ≠ .endOfInput := by
  cases z with
  | nothing =>
    cases cut with
    | false => cases hf
    | true =>
      rw [delivered, if_pos rfl] at ht
      split at ht
      · exact kind_ne_of_mem_tokens (List.dropLast_subset _ ht)
      · exact kind_ne_of_mem_tokens ht
  | unexpected c more hc => exact kind_ne_of_mem_tokens ht
  | openString body hb => exact kind_ne_of_mem_tokens ht

/-- A run that no fault stops ends with the end token. -/
theorem getLast?_delivered {l : Layout} {z : Residue} {cut : Bool} {position offset : Nat}
    (hf : z.fault cut position offset = none) (start : Nat) :
    (l.delivered z cut start).getLast? = some (.endAt (start + l.text.length)) := by
  cases z with
  | nothing =>
    cases cut with
    | false => exact List.getLast?_concat
    | true => cases hf
  | unexpected c more hc => cases hf
  | openString body hb => cases cut <;> cases hf

end Layout

theorem Residue.position_of_fault {z : Residue} {cut : Bool} {position offset : Nat} {f : Fault}
    (hf : z.fault cut position offset = some f) :
    0 ≤ f.position ∧ f.position ≤ (position + z.text.length : Nat) := by
  cases z with
  | nothing =>
    cases cut with
    | false => cases hf
    | true =>
      obtain rfl := Option.some.inj hf
      exact ⟨Int.natCast_nonneg position, Int.ofNat_le.2 (Nat.le_add_right position 0)⟩
  | unexpected c more hc =>
    obtain rfl := Option.some.inj hf
    exact ⟨Int.natCast_nonneg position, Int.ofNat_le.2 (Nat.le_add_right position _)⟩
  | openString body hb =>
    cases cut with
    | false =>
      obtain rfl := Option.some.inj hf
      exact ⟨Int.natCast_nonneg _, Int.le_refl _⟩
    | true =>
      obtain rfl := Option.some.inj hf
      exact ⟨Int.natCast_nonneg _, Int.le_refl _⟩

namespace Scanner

theorem scanned_of_mem_given {data : Array UInt8} {t : Token} (ht : t ∈ (ofBytes data).given) :
    t.Scanned data.size := by
  obtain ⟨l, z, rest, h⟩ := exists_reads data
  have hlength := h.length_le
  rw [h.given_eq] at ht
  rcases Layout.mem_of_mem_delivered ht with ht | rfl
  · exact Layout.scanned_of_mem_tokens (by omega) ht
  · exact Token.scanned_endAt (by omega)

/-- **Ends of runs.** Either all bytes are lexed and the end token comes last, or a fault within the bytes stops the
    scanner and no end token is given. -/
theorem stop_cases (data : Array UInt8) :
    ((ofBytes data).stop = none ∧ tokenize data = .ok (ofBytes data).given ∧
        (ofBytes data).given.getLast?.any (·.kind == .endOfInput) = true) ∨
      ∃ f : Fault, (ofBytes data).stop = some (.fault f) ∧ tokenize data = .error (.fault f) ∧
        0 ≤ f.position ∧ f.position ≤ data.size ∧ ∀ t ∈ (ofBytes data).given, t.kind ≠ .endOfInput := by
  obtain ⟨l, z, rest, h⟩ := exists_reads data
  have hlength := h.length_le
  rw [h.stop_eq, h.tokenize_eq, h.given_eq]
  cases hfault : z.fault (!rest.isEmpty) l.text.length l.text.utf8.length with
  | none =>
    refine .inl ⟨rfl, rfl, ?_⟩
    rw [Layout.getLast?_delivered hfault]
    rfl
  | some f =>
    obtain ⟨hnonneg, hle⟩ := Residue.position_of_fault hfault
    refine .inr ⟨f, rfl, rfl, hnonneg, by omega, fun t ht => Layout.kind_ne_of_mem_delivered hfault ht⟩

theorem given_of_tokenize_eq_ok {data : Array UInt8} {ts : List Token} (h : tokenize data = .ok ts) :
    (ofBytes data).given = ts := by
  rcases stop_cases data with ⟨-, hok, -⟩ | ⟨f, -, herror, -⟩
  · exact Except.ok.inj (hok.symm.trans h)
  · rw [herror] at h
    cases h

end Scanner

/-! ### Records -/

/-- A token with a position from zero on is got back from its record. -/
theorem Entry.toToken_ofScanned {t : Token} {size : Nat} (h : t.Scanned size) : (ofScanned t).toToken = t := by
  obtain ⟨kind, position, text⟩ := t
  have hposition : (position.toNat : Int) = position := Int.toNat_of_nonneg h.nonneg
  cases hkind : kind.hasText with
  | true => simp [ofScanned, toToken, hkind, hposition]
  | false =>
    obtain rfl : text = [] := h.text_eq hkind
    simp [ofScanned, toToken, hkind, hposition]

namespace Transcript

theorem label_record (data : Array UInt8) (label : Text) : (record data label).label = label := rfl

theorem entries_record (data : Array UInt8) (label : Text) :
    (record data label).entries = (Scanner.ofBytes data).given.map Entry.ofScanned := rfl

theorem fault_record (data : Array UInt8) (label : Text) :
    (record data label).fault = (Scanner.ofBytes data).stop.bind faultOf := rfl

theorem map_toToken_record (data : Array UInt8) (label : Text) :
    (record data label).entries.map Entry.toToken = (Scanner.ofBytes data).given := by
  rw [entries_record, List.map_map]
  have hback : ∀ t ∈ (Scanner.ofBytes data).given, (Entry.toToken ∘ Entry.ofScanned) t = t :=
    fun t ht => Entry.toToken_ofScanned (Scanner.scanned_of_mem_given ht)
  rw [List.map_congr_left hback, List.map_id']

/-- Recorded positions lie within the bytes. -/
theorem storable_record {data : Array UInt8} (h : (Decimal.digits data.size).length ≤ Decimal.digitLimit)
    (label : Text) : (record data label).Storable := by
  have hfit : ∀ i : Int, i ≤ data.size → (Decimal.digits i.toNat).length ≤ Decimal.digitLimit := by
    intro i hi
    have hmono := Decimal.length_digits_le (Int.toNat_le.2 hi)
    omega
  constructor
  · intro e he
    rw [entries_record] at he
    obtain ⟨t, ht, rfl⟩ := List.mem_map.1 he
    exact hfit t.position (Scanner.scanned_of_mem_given ht).le_size
  · intro r hr
    rw [fault_record] at hr
    rcases Scanner.stop_cases data with ⟨hstop, -⟩ | ⟨f, hstop, -, -, hle, -⟩
    · rw [hstop] at hr
      cases hr
    · rw [hstop] at hr
      obtain rfl : FaultRecord.ofScanned f = r := Option.some.inj hr
      exact hfit f.position hle

/-- A recorded run is complete iff no fault was recorded. -/
theorem complete_record (data : Array UInt8) (label : Text) :
    (record data label).complete = true ↔ (record data label).fault = none := by
  -- Recording keeps the kinds, so the last record is an end token iff the last token is.
  have hkinds : ∀ ts : List Token, (ts.map Entry.ofScanned).getLast?.any (fun e => e.kind == .endOfInput) =
      ts.getLast?.any (fun t => t.kind == .endOfInput) := by
    intro ts
    rw [List.getLast?_map, Option.any_map]
    rfl
  rw [complete, entries_record, fault_record, hkinds]
  rcases Scanner.stop_cases data with ⟨hstop, -, hlast⟩ | ⟨f, hstop, -⟩
  · rw [hstop, hlast]
    exact ⟨fun _ => rfl, fun _ => rfl⟩
  · rw [hstop]
    constructor
    · intro h
      cases h
    · intro h
      cases h

/-- A fault is recorded iff the bytes have no tokens in full. -/
theorem fault_record_eq_none_iff (data : Array UInt8) (label : Text) :
    (record data label).fault = none ↔ ∃ ts, tokenize data = .ok ts := by
  rw [fault_record]
  rcases Scanner.stop_cases data with ⟨hstop, hok, -⟩ | ⟨f, hstop, herror, -⟩
  · rw [hstop, hok]
    exact ⟨fun _ => ⟨_, rfl⟩, fun _ => rfl⟩
  · rw [hstop, herror]
    constructor
    · intro h
      cases h
    · rintro ⟨ts, hts⟩
      cases hts

/-- The recorded fault is the one that stops `tokenize`. -/
theorem exists_fault_record_of_error {data : Array UInt8} {e : Refusal} (h : tokenize data = .error e)
    (label : Text) : ∃ f r, e = .fault f ∧ (record data label).fault = some r ∧ r.kind = f.kind ∧
      (r.position : Int) = f.position ∧ r.message = f.message ∧
        ∀ x ∈ (record data label).entries, x.kind ≠ .endOfInput := by
  rcases Scanner.stop_cases data with ⟨-, hok, -⟩ | ⟨f, hstop, herror, hnonneg, -, hkinds⟩
  · rw [hok] at h
    cases h
  · have hfault : (record data label).fault = some (.ofScanned f) := by
      rw [fault_record, hstop]
      rfl
    have hentries : ∀ x ∈ (record data label).entries, x.kind ≠ .endOfInput := by
      intro x hx
      rw [entries_record] at hx
      obtain ⟨t, ht, rfl⟩ := List.mem_map.1 hx
      exact hkinds t ht
    have he : e = .fault f := Except.error.inj (h.symm.trans herror)
    exact ⟨f, .ofScanned f, he, hfault, rfl, Int.toNat_of_nonneg hnonneg, rfl, hentries⟩

/-- **Recorded, dumped and loaded.** Let some bytes be lexed into a transcript, the transcript dumped, and the dump
    loaded again; a text counts as its bytes. What comes back holds the tokens that a fresh scanner gives, and a fault
    iff the bytes have no tokens in full: the very fault that stops `tokenize`, with its kind, position and message, and
    then no end token. It is complete iff it holds no fault, and has the label it was given. All that is asked of the
    bytes is that their number has no more digits than are read, as that of any bytes in a memory. -/
theorem load_dump_record (data : Array UInt8) (label : Text)
    (hsize : (Decimal.digits data.size).length ≤ Decimal.digitLimit) :
    (∀ t : Text, data = t.utf8.toArray → Scanner.ofText t = Scanner.ofBytes data ∧ tokenizeText t = tokenize data) ∧
      ∃ restored, load (record data label).dump = .ok restored ∧
        restored.entries.map Entry.toToken = (Scanner.ofBytes data).given ∧
        (restored.fault = none ↔ ∃ ts, tokenize data = .ok ts) ∧
        (∀ ts, tokenize data = .ok ts → restored.entries.map Entry.toToken = ts) ∧
        (∀ e, tokenize data = .error e → ∃ f r, e = .fault f ∧ restored.fault = some r ∧ r.kind = f.kind ∧
          (r.position : Int) = f.position ∧ r.message = f.message ∧ ∀ x ∈ restored.entries, x.kind ≠ .endOfInput) ∧
        (restored.complete = true ↔ restored.fault = none) ∧ restored.label = label := by
  constructor
  · rintro t rfl
    exact ⟨rfl, rfl⟩
  have hread : Json.read (record data label).dump = .ok (record data label).toJson :=
    Json.read_write (plain_toJson (storable_record hsize label))
  have hload : load (record data label).dump = .ok (record data label) := by
    rw [load, hread]
    exact ofJson_toJson _
  have htokens := map_toToken_record data label
  have hgiven : ∀ ts, tokenize data = .ok ts → (record data label).entries.map Entry.toToken = ts := by
    intro ts hts
    rw [htokens, Scanner.given_of_tokenize_eq_ok hts]
  exact ⟨record data label, hload, htokens, fault_record_eq_none_iff data label, hgiven,
    fun e he => exists_fault_record_of_error he label, complete_record data label, label_record data label⟩

/-- An empty string, and an identifier that is held back because undecodable bytes follow it. -/
theorem load_dump_record_undecodable :
    let data : Array UInt8 := #[0x28, 0x22, 0x22, 0xC3, 0xA9, 0xFF]
    (Decimal.digits data.size).length ≤ Decimal.digitLimit ∧
      ∃ restored, load (record data "a\nb").dump = .ok restored ∧
        restored.entries.map Entry.toToken = [⟨.leftParen, 0, []⟩, ⟨.string, 1, []⟩] ∧
        restored.fault = some ⟨.invalidEncoding, 4, "Invalid UTF-8 sequence at byte offset 5"⟩ ∧
        restored.complete = false := by
  intro data
  have hsize : (Decimal.digits data.size).length ≤ Decimal.digitLimit := by decide +kernel
  have hgiven : (Scanner.ofBytes data).given = [⟨.leftParen, 0, []⟩, ⟨.string, 1, []⟩] := by decide +kernel
  have herror : tokenize data = .error (.fault (.invalidEncoding 4 5)) := by
    have : (Scanner.ofBytes data).stop = some (.fault (.invalidEncoding 4 5)) := by decide +kernel
    rw [tokenize, Scanner.tokens_eq, this]
  obtain ⟨-, restored, hload, htokens, -, -, hfault, hcomplete, -⟩ := load_dump_record data "a\nb" hsize
  obtain ⟨f, r, hf, hr, hkind, hposition, hmessage, -⟩ := hfault _ herror
  obtain rfl : Fault.invalidEncoding 4 5 = f := Refusal.fault.inj hf
  have hrecord : r = ⟨.invalidEncoding, 4, "Invalid UTF-8 sequence at byte offset 5"⟩ := by
    obtain ⟨kind, position, message⟩ := r
    obtain rfl : kind = .invalidEncoding := hkind
    obtain rfl : position = 4 := Int.ofNat.inj hposition
    obtain rfl : message = _ := hmessage
    decide +kernel
  refine ⟨hsize, restored, hload, htokens.trans hgiven, hr.trans (congrArg some hrecord), ?_⟩
  have hnot : ¬ restored.complete = true := by
    rw [hcomplete, hr]
    exact Option.some_ne_none r
  simpa using hnot

end Transcript

end ParenTokens
