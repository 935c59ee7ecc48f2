import ParenTokens.Proofs.Scanning

namespace ParenTokens

/-!
# Bytes that are no UTF-8

A scanner decodes as it goes.  On bytes that no text encodes it gives what it would give for the longest text in front
of them, up to the first token that the bad bytes might change.

* `closedTokens` — the tokens of a text that cannot be changed by what follows it.
* `Utf8.start_of_decode_eq_error` — the strict decoder fails behind the longest text.
* `given_stop_of_undecodable` — how the two runs compare, fault by fault.
-/

/-! ### Where the strict decoder fails -/

namespace Utf8

theorem decodeFrom_undecodable {rest : List UInt8} (hrest : Undecodable rest) (hne : rest ≠ []) (start : Nat) :
    ∃ e, decodeFrom start rest = .error e ∧ e.start = start := by
  obtain ⟨b, bs, rfl⟩ := List.exists_cons_of_ne_nil hne
  cases hstep : step b bs with
  | codePoint c width =>
    obtain ⟨hc, -, hp⟩ := utf8_of_step hstep
    exact absurd hp (hrest c hc)
  | malformed width reason =>
    -- The decoder names the place where the sequence starts.
    refine ⟨⟨start, (b :: bs).take width, reason⟩, ?_, rfl⟩
    rw [decodeFrom]
    split
    · next h => rw [hstep] at h; cases h
    · next h => rw [hstep] at h; cases h; rfl

theorem decodeFrom_text_append {t : Text} (ht : t.IsScalar) (start : Nat) (rest : List UInt8) :
    decodeFrom start (t.utf8 ++ rest) = (decodeFrom (start + t.utf8.length) rest).map (t ++ ·) := by
  induction t generalizing start with
  | nil => cases h : decodeFrom start rest <;> simp [h, Except.map]
  | cons c t ih =>
    rw [Text.isScalar_cons] at ht
    rw [Text.utf8_cons, List.append_assoc, decodeFrom_utf8_append ht.1, ih ht.2, List.length_append, Nat.add_assoc]
    cases decodeFrom (start + (c.utf8.length + (Text.utf8 t).length)) rest <;> rfl

/-- The longest text ends where the strict decoder fails, and something follows it there. -/
theorem start_of_decode_eq_error {bs : List UInt8} {e : DecodeError} {v : Text} {rest : List UInt8}
    (h : decode bs = .error e) (hv : v.IsScalar) (hrest : Undecodable rest) (hsplit : bs = v.utf8 ++ rest) :
    e.start = v.utf8.length ∧ rest ≠ [] := by
  subst hsplit
  have hne : rest ≠ [] := by
    rintro rfl
    rw [List.append_nil, decode_eq_ok_iff.2 ⟨hv, rfl⟩] at h
    cases h
  obtain ⟨e', he', hstart⟩ := decodeFrom_undecodable hrest hne (0 + v.utf8.length)
  rw [decode, decodeFrom_text_append hv, he'] at h
  cases h
  exact ⟨by rw [hstart, Nat.zero_add], hne⟩

end Utf8

/-! ### Tokens that are settled -/

/-- Some tokens without an end token, and without a last one that is an identifier and ends at `stop`. -/
def closedTokens (stop : Nat) (ts : List Token) : List Token :=
  let words := ts.filter (·.kind != .endOfInput)
  if endsOpen stop words then words.dropLast else words

theorem filter_tokens (l : Layout) (position : Nat) :
    (l.tokens position).filter (·.kind != .endOfInput) = l.tokens position := by
  rw [List.filter_eq_self]
  intro t ht
  rw [bne_iff_ne]
  exact Layout.kind_ne_of_mem_tokens ht

/-- What a text delivers of its own and what it delivers before undecodable bytes. -/
theorem closedTokens_delivered (l : Layout) {z : Residue} (hz : ∀ c u hc, z ≠ .unexpected c u hc) :
    closedTokens (l.text ++ z.text).length (l.delivered z false 0) = l.delivered z true 0 := by
  have hopen := l.endsOpen_tokens 0 z.text.length
  rw [Nat.zero_add, ← List.length_append] at hopen
  cases z with
  | nothing =>
    have hend : ([Token.endAt (0 + l.text.length)].filter (·.kind != .endOfInput)) = [] := rfl
    simp only [closedTokens, Layout.delivered, Bool.false_eq_true, if_false, if_true, List.filter_append,
      filter_tokens, hend, List.append_nil, hopen]
    simp [Residue.text]
  | unexpected c u hc => exact absurd rfl (hz c u hc)
  | openString body hb =>
    simp only [closedTokens, Layout.delivered, filter_tokens, hopen]
    simp [Residue.text]

/-! ### The two runs -/

/-- The run over bytes that are no text, by the layout of the longest text in front of them. -/
theorem run_undecodable {d : Array UInt8} {e : Utf8.DecodeError} (hd : Utf8.decode d.toList = .error e) {v : Text}
    (hv : v.IsLongestIn d.toList) {l : Layout} {z : Residue} (hsplit : v = l.text ++ z.text)
    (hl : l.Munched z.text) :
    e.start = v.utf8.length ∧ (Scanner.ofBytes d).given = l.delivered z true 0 ∧
      (Scanner.ofBytes d).stop = (z.fault true l.text.length l.text.utf8.length).map .fault := by
  obtain ⟨hscalar, rest, hrest, hbytes⟩ := Text.isLongestIn_iff.1 hv
  obtain ⟨hstart, hne⟩ := Utf8.start_of_decode_eq_error hd hscalar hrest hbytes
  have hcut : (!rest.isEmpty) = true := by simpa using hne
  have hreads : Reads d l z rest := ⟨hsplit ▸ hbytes, hsplit ▸ hscalar, hrest, hl⟩
  refine ⟨hstart, ?_, ?_⟩
  · rw [hreads.given_eq, hcut]
  · rw [hreads.stop_eq, hcut]

/-- **Bytes that are no text.** The longest text in front of them ends where the strict decoder fails.  If an
    unexpected code point stops the run over that text, then the run over the bytes is the same.  If not, then the
    bytes stop the run where the text ends, and a last identifier that ends there is held back.  What follows the
    text makes no other difference. -/
theorem given_stop_of_undecodable (d : Array UInt8) {e : Utf8.DecodeError} (hd : Utf8.decode d.toList = .error e) :
    (∃ v : Text, v.IsLongestIn d.toList) ∧
      ∀ v : Text, v.IsLongestIn d.toList →
        e.start = v.utf8.length ∧
        (∀ p c, (Scanner.ofText v).stop = some (.fault (.unexpectedCharacter p c)) →
          (Scanner.ofBytes d).given = (Scanner.ofText v).given ∧
            (Scanner.ofBytes d).stop = some (.fault (.unexpectedCharacter p c))) ∧
        ((∀ p c, (Scanner.ofText v).stop ≠ some (.fault (.unexpectedCharacter p c))) →
          (Scanner.ofBytes d).given = closedTokens v.length (Scanner.ofText v).given ∧
            (Scanner.ofBytes d).stop = some (.fault (.invalidEncoding v.length v.utf8.length))) ∧
        ∀ (d' : Array UInt8) (e' : Utf8.DecodeError), Utf8.decode d'.toList = .error e' →
          v.IsLongestIn d'.toList →
            (Scanner.ofBytes d').given = (Scanner.ofBytes d).given ∧
              (Scanner.ofBytes d').stop = (Scanner.ofBytes d).stop := by
  constructor
  · obtain ⟨v, rest, hv, hrest, hsplit⟩ := Utf8.exists_split d.toList
    exact ⟨v, Text.isLongestIn_iff.2 ⟨hv, rest, hrest, hsplit⟩⟩
  intro v hv
  obtain ⟨l, z, hsplit, hl⟩ := exists_layout v
  have htext := reads_text hv.scalar hsplit hl
  have hgivenText : (Scanner.ofText v).given = l.delivered z false 0 := htext.given_eq
  have hstopText : (Scanner.ofText v).stop = (z.fault false l.text.length l.text.utf8.length).map .fault :=
    htext.stop_eq
  obtain ⟨hstart, hgiven, hstop⟩ := run_undecodable hd hv hsplit hl
  refine ⟨hstart, ?_, ?_, ?_⟩
  · intro p c hpc
    rw [hstopText] at hpc
    cases z with
    | nothing => cases hpc
    | unexpected c' u hc =>
      rw [hgiven, hgivenText, hstop]
      exact ⟨rfl, hpc⟩
    | openString body hb => cases hpc
  · intro hexpected
    have hz : ∀ c u hc, z ≠ .unexpected c u hc := by
      rintro c u hc rfl
      exact hexpected _ _ hstopText
    constructor
    · have hclosed := closedTokens_delivered l hz
      rw [← hsplit] at hclosed
      rw [hgiven, hgivenText, hclosed]
    · rw [hstop, hsplit]
      cases z with
      | nothing => simp [Residue.fault, Residue.text]
      | unexpected c u hc => exact absurd rfl (hz c u hc)
      | openString body hb => simp [Residue.fault]
  · -- The run depends on the layout only, which is that of `v` for both.
    intro d' e' hd' hv'
    obtain ⟨-, hgiven', hstop'⟩ := run_undecodable hd' hv' hsplit hl
    exact ⟨hgiven'.trans hgiven.symm, hstop'.trans hstop.symm⟩

/-- An identifier that runs into a sequence which is cut short is held back. -/
theorem given_stop_of_undecodable_identifier :
    Utf8.decode [0x28, 0x78, 0xE2, 0x82, 0x28] = .error ⟨2, [0xE2, 0x82], .invalidContinuation⟩ ∧
      Text.IsLongestIn ("(x" : Text) [0x28, 0x78, 0xE2, 0x82, 0x28] ∧
      (Scanner.ofBytes #[0x28, 0x78, 0xE2, 0x82, 0x28]).given = [⟨.leftParen, 0, []⟩] ∧
      (Scanner.ofBytes #[0x28, 0x78, 0xE2, 0x82, 0x28]).stop = some (.fault (.invalidEncoding 2 2)) := by
  have hd : Utf8.decode [0x28, 0x78, 0xE2, 0x82, 0x28] = .error ⟨2, [0xE2, 0x82], .invalidContinuation⟩ := by
    decide +kernel
  obtain ⟨⟨v, hv⟩, hruns⟩ := given_stop_of_undecodable #[0x28, 0x78, 0xE2, 0x82, 0x28] hd
  obtain ⟨hlength, -, hclosed, -⟩ := hruns v hv
  obtain rfl : v = ("(x" : Text) := by
    have hbytes : v.utf8 = [0x28, 0x78] := by
      rw [List.prefix_iff_eq_take.1 hv.stands, ← hlength]
      rfl
    exact Utf8.utf8_injective hv.scalar (by decide) (hbytes.trans (by decide))
  have hgiven : closedTokens 2 (Scanner.ofText ("(x" : Text)).given = [⟨.leftParen, 0, []⟩] := by decide +kernel
  have hstop : (Scanner.ofText ("(x" : Text)).stop = none := by decide +kernel
  obtain ⟨hrun, hfault⟩ := hclosed (by simp [hstop])
  exact ⟨hd, hv, hrun.trans hgiven, hfault⟩

end ParenTokens
