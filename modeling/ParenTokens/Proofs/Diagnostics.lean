import ParenTokens.Proofs.Recording
import ParenTokens.Transcript.Listing
import Mathlib.Data.List.DropRight

namespace ParenTokens

/-!
# Where a fault is shown

Faults are found while bytes are decoded one scalar at a time, but their lines and columns are counted in a text that
was decoded as a whole, with replacements. Both agree, because no malformed bytes stand before a fault.

* `Utf8.offsetOf` — the byte at which a code point begins; `Fault.offsetIn` — the byte at which a fault lies.
* `Utf8.decodeReplacing_utf8_append` — replacing starts behind the well-formed part of some bytes.
* `Text.lastLine_utf8`, `Text.lineColumn_length` — lines and columns of a text, counted in its bytes.
* `Reads.exists_before_fault` — the bytes before a fault are a text, and its position is the length of that text.
* `Transcript.faultLine_record` — what is shown about the fault of some bytes, against the bytes themselves.
-/

/-! ### Offsets -/

/-- How many bytes the first `n` code points take; a malformed sequence counts as one. -/
def Utf8.offsetOf : (n : Nat) → List UInt8 → Nat
  | 0, _ => 0
  | _ + 1, [] => 0
  | n + 1, b :: bs => (step b bs).width + offsetOf n ((b :: bs).drop (step b bs).width)

/-- The byte at which a fault lies in the bytes that have it: where decoding fails, where the unexpected code point
    begins, or behind all bytes if a string has no end. -/
def Fault.offsetIn (bs : List UInt8) : Fault → Nat
  | invalidEncoding _ offset => offset.toNat
  | unterminatedString .. => bs.length
  | unexpectedCharacter position _ => Utf8.offsetOf position.toNat bs

namespace Utf8

theorem exists_utf8_append_eq_cons {c : CodePoint} (hc : c.isScalar = true) (rest : List UInt8) :
    ∃ b bs, c.utf8 ++ rest = b :: bs ∧ step b bs = .codePoint c c.utf8.length ∧
      (b :: bs).drop c.utf8.length = rest := by
  obtain ⟨b, bs, heq, hstep⟩ := step_utf8 c hc
  refine ⟨b, bs ++ rest, by rw [heq, List.cons_append], hstep rest, ?_⟩
  rw [heq, ← List.cons_append, List.drop_left]

theorem offsetOf_utf8_append {v : Text} (hv : v.IsScalar) (rest : List UInt8) :
    offsetOf v.length (v.utf8 ++ rest) = v.utf8.length := by
  induction v with
  | nil => rfl
  | cons c v ih =>
    obtain ⟨hc, hv⟩ := Text.isScalar_cons.1 hv
    obtain ⟨b, bs, hsplit, hstep, hdrop⟩ := exists_utf8_append_eq_cons hc (Text.utf8 v ++ rest)
    rw [Text.utf8_cons, List.append_assoc, hsplit, List.length_cons, offsetOf, hstep, Step.width, hdrop, ih hv,
      List.length_append]

/-- A well-formed beginning is decoded as it is, whatever has to be replaced behind it. -/
theorem decodeReplacing_utf8_append {v : Text} (hv : v.IsScalar) (rest : List UInt8) :
    decodeReplacing (v.utf8 ++ rest) = v ++ decodeReplacing rest := by
  induction v with
  | nil => rfl
  | cons c v ih =>
    obtain ⟨hc, hv⟩ := Text.isScalar_cons.1 hv
    obtain ⟨b, bs, hsplit, hstep, hdrop⟩ := exists_utf8_append_eq_cons hc (Text.utf8 v ++ rest)
    rw [Text.utf8_cons, List.append_assoc, hsplit, decodeReplacing, hstep, Step.width, hdrop, ih hv, List.cons_append]

end Utf8

/-! ### Lines -/

theorem rtakeWhile_append_of_forall {α : Type} {p : α → Bool} {m : List α} (h : ∀ x ∈ m, p x = true) (l : List α) :
    (l ++ m).rtakeWhile p = l.rtakeWhile p ++ m := by
  have hreverse : ∀ x ∈ m.reverse, p x = true := fun x hx => h x (List.mem_reverse.1 hx)
  rw [List.rtakeWhile, List.rtakeWhile, List.reverse_append, List.takeWhile_append_of_pos hreverse,
    List.reverse_append, List.reverse_reverse]

/-- The last line of a text, without the newline before it. -/
def Text.lastLine (t : Text) : Text := t.rtakeWhile (· != newline)

/-- The bytes behind the last newline. -/
def Utf8.lastLine (bs : List UInt8) : List UInt8 := bs.rtakeWhile (· != 0x0A)

/-- In the bytes of a code point the byte of the newline stands for the newline only. -/
theorem CodePoint.newline_not_mem_utf8 {c : CodePoint} (hc : c ≠ Text.newline) : (0x0A : UInt8) ∉ c.utf8 := by
  have hval : c.val ≠ 0x0A := fun h => hc (CodePoint.ext_val h)
  have hlt := c.isLt
  have hbyte : ∀ n, n < 256 → n ≠ 0x0A → (0x0A : UInt8) ≠ n.toUInt8 := by
    intro n hn hne h
    have htoNat := congrArg UInt8.toNat h
    rw [Utf8.toNat_toUInt8 hn] at htoNat
    exact hne htoNat.symm
  intro hmem
  rw [utf8] at hmem
  -- One case for each length of the encoding; only the first one has bytes below 0x80.
  by_cases h₁ : c.val < 0x80
  · rw [if_pos h₁, List.mem_singleton] at hmem
    exact hbyte _ (by omega) hval hmem
  by_cases h₂ : c.val < 0x800
  · simp only [if_neg h₁, if_pos h₂, List.mem_cons, List.not_mem_nil, or_false] at hmem
    rcases hmem with h | h
    · exact hbyte _ (by omega) (by omega) h
    · exact hbyte _ (by omega) (by omega) h
  by_cases h₃ : c.val < 0x10000
  · simp only [if_neg h₁, if_neg h₂, if_pos h₃, List.mem_cons, List.not_mem_nil, or_false] at hmem
    rcases hmem with h | h | h
    · exact hbyte _ (by omega) (by omega) h
    · exact hbyte _ (by omega) (by omega) h
    · exact hbyte _ (by omega) (by omega) h
  · simp only [if_neg h₁, if_neg h₂, if_neg h₃, List.mem_cons, List.not_mem_nil, or_false] at hmem
    rcases hmem with h | h | h | h
    · exact hbyte _ (by omega) (by omega) h
    · exact hbyte _ (by omega) (by omega) h
    · exact hbyte _ (by omega) (by omega) h
    · exact hbyte _ (by omega) (by omega) h

namespace Text

theorem utf8_newline : newline.utf8 = [0x0A] := by decide

theorem count_utf8 (t : Text) : t.utf8.count 0x0A = t.count newline := by
  induction t with
  | nil => rfl
  | cons c t ih =>
    rw [utf8_cons, List.count_append, ih, List.count_cons]
    by_cases hc : c = newline
    · rw [hc, utf8_newline]
      simp [Nat.add_comm]
    · rw [List.count_eq_zero_of_not_mem (CodePoint.newline_not_mem_utf8 hc)]
      simp [hc]

/-- The last line of a text's bytes holds the bytes of its last line. -/
theorem lastLine_utf8 (t : Text) : Utf8.lastLine t.utf8 = t.lastLine.utf8 := by
  induction t using List.reverseRecOn with
  | nil => rfl
  | append_singleton t c ih =>
    have hsingle : utf8 [c] = c.utf8 := by rw [utf8_cons, utf8_nil, List.append_nil]
    rw [Utf8.lastLine] at ih ⊢
    rw [lastLine, utf8_append, hsingle]
    by_cases hc : c = newline
    · rw [hc, utf8_newline, List.rtakeWhile_concat_neg _ _ _ (by simp), List.rtakeWhile_concat_neg _ _ _ (by simp),
        utf8_nil]
    · have hbytes : ∀ b ∈ c.utf8, (b != 0x0A) = true := by
        intro b hb
        rw [bne_iff_ne]
        rintro rfl
        exact CodePoint.newline_not_mem_utf8 hc hb
      rw [rtakeWhile_append_of_forall hbytes, List.rtakeWhile_concat_pos _ _ _ (by simpa using hc), ih, utf8_append,
        hsingle]
      rfl

theorem throughLastNewline_add (t : Text) : t.throughLastNewline + t.lastLine.length = t.length := by
  have hlength : t.lastLine.length = (t.reverse.takeWhile (· != newline)).length := List.length_reverse
  have hle : t.lastLine.length ≤ t.length := (List.rtakeWhile_suffix _ t).length_le
  rw [throughLastNewline]
  omega

/-- Line and column of a position in a text are counted in what stands before it. -/
theorem lineColumn_length (u t : Text) :
    (u ++ t).lineColumn u.length = (u.utf8.count 0x0A + 1, ((u.lastLine.length + 1 : Nat) : Int)) := by
  have hbefore : (u ++ t).takeTo u.length = u := by
    rw [takeTo, Cursor.bound_natCast (by rw [List.length_append]; omega), List.take_left]
  have hcolumn := throughLastNewline_add u
  rw [lineColumn, hbefore, count_utf8, Prod.mk.injEq]
  exact ⟨rfl, by omega⟩

end Text

/-! ### Faults -/

/-- The bytes before a fault are a text, and the fault's position is its length. -/
theorem Reads.exists_before_fault {data : Array UInt8} {l : Layout} {z : Residue} {rest : List UInt8}
    (h : Reads data l z rest) {f : Fault}
    (hf : z.fault (!rest.isEmpty) l.text.length l.text.utf8.length = some f) :
    ∃ (u : Text) (more : List UInt8), u.IsScalar ∧ data.toList = u.utf8 ++ more ∧ f.position = u.length ∧
      f.offsetIn data.toList = u.utf8.length ∧
        ∀ position character, f = .unexpectedCharacter position character →
          ∃ c : CodePoint, character = [c] ∧ c.utf8 <+: more := by
  obtain ⟨hl, hz⟩ := Text.isScalar_append.1 h.scalar
  have hbytes := h.bytes_eq
  cases z with
  | nothing =>
    cases rest with
    | nil => cases hf
    | cons b rest =>
      -- Decoding fails right behind the layout.
      obtain rfl := Option.some.inj hf
      have htext : l.text ++ Residue.nothing.text = l.text := List.append_nil _
      rw [htext] at hbytes
      exact ⟨l.text, b :: rest, hl, hbytes, rfl, rfl, nofun⟩
  | unexpected c more hc =>
    -- The fault lies where the layout ends, whatever follows the code point.
    obtain rfl := Option.some.inj hf
    have hbytes' : data.toList = l.text.utf8 ++ (Text.utf8 (c :: more) ++ rest) := by
      rw [hbytes, Text.utf8_append, List.append_assoc]
      rfl
    refine ⟨l.text, _, hl, hbytes', rfl, ?_, ?_⟩
    · rw [hbytes']
      exact Utf8.offsetOf_utf8_append hl _
    · rintro position character ⟨⟩
      refine ⟨c, rfl, ?_⟩
      rw [Text.utf8_cons, List.append_assoc]
      exact List.prefix_append _ _
  | openString body hb =>
    -- The string goes on to the end of the text; the fault lies there, or at the bytes that are none.
    have hlength : (l.text ++ (Residue.openString body hb).text).length =
        l.text.length + (Residue.openString body hb).text.length := List.length_append
    have hsize : (Text.utf8 (l.text ++ (Residue.openString body hb).text)).length =
        l.text.utf8.length + (Residue.openString body hb).text.utf8.length := by
      rw [Text.utf8_append, List.length_append]
    cases rest with
    | nil =>
      obtain rfl := Option.some.inj hf
      refine ⟨_, [], h.scalar, hbytes, congrArg Nat.cast hlength.symm, ?_, nofun⟩
      rw [hbytes, List.append_nil]
      rfl
    | cons b rest =>
      obtain rfl := Option.some.inj hf
      exact ⟨_, b :: rest, h.scalar, hbytes, congrArg Nat.cast hlength.symm, hsize.symm, nofun⟩

namespace Transcript

/-- **Places of faults.** Let some bytes be lexed into a transcript that holds a fault, and let `o` be the byte at which
    that fault lies. The bytes before `o` are a text, the recorded position is its length, and it is how the bytes begin
    when they are decoded with replacements. The line that is shown for the fault counts the newlines among these
    bytes, and the code points in those behind the last of them. -/
theorem faultLine_record (data : Array UInt8) (label : Text) (r : FaultRecord)
    (hr : (record data label).fault = some r) :
    ∃ f : Fault, (Scanner.ofBytes data).stop = some (.fault f) ∧ r = .ofScanned f ∧
      let before := data.toList.take (f.offsetIn data.toList)
      let shown := Utf8.decodeReplacing data.toList
      f.offsetIn data.toList ≤ data.size ∧
        (∀ position character, f = .unexpectedCharacter position character →
          ∃ c : CodePoint, character = [c] ∧ c.utf8 <+: data.toList.drop (f.offsetIn data.toList)) ∧
        r.position ≤ shown.length ∧ Utf8.decode before = .ok (shown.take r.position) ∧
        ∃ line : Text, Utf8.decode (Utf8.lastLine before) = .ok line ∧
          ∀ color : Bool, (record data label).faultLine? color (some shown) = some (Paint.applyIf color .red
            (label ++ (":" : Text) ++ Decimal.ofNat (before.count 0x0A + 1) ++ (":" : Text) ++
              Decimal.ofNat (line.length + 1) ++ (": error: " : Text) ++ r.message)) := by
  obtain ⟨l, z, rest, h⟩ := exists_reads data
  have hstop := h.stop_eq
  rw [fault_record, hstop] at hr
  cases hfault : z.fault (!rest.isEmpty) l.text.length l.text.utf8.length with
  | none =>
    rw [hfault] at hr
    cases hr
  | some f =>
    rw [hfault] at hr hstop
    obtain rfl : FaultRecord.ofScanned f = r := Option.some.inj hr
    obtain ⟨u, more, hu, hbytes, hposition, hoffset, hcharacter⟩ := h.exists_before_fault hfault
    have hrecord : (FaultRecord.ofScanned f).position = u.length := by
      rw [FaultRecord.ofScanned, hposition, Int.toNat_natCast]
    have hshown : Utf8.decodeReplacing data.toList = u ++ Utf8.decodeReplacing more := by
      rw [hbytes, Utf8.decodeReplacing_utf8_append hu]
    have hbefore : data.toList.take (f.offsetIn data.toList) = u.utf8 := by
      rw [hoffset, hbytes, List.take_left]
    have hbehind : data.toList.drop (f.offsetIn data.toList) = more := by
      rw [hoffset, hbytes, List.drop_left]
    have hline : u.lastLine.IsScalar := fun c hc => hu c ((List.rtakeWhile_suffix _ u).subset hc)
    refine ⟨f, hstop, rfl, ?_, ?_, ?_, ?_, u.lastLine, ?_, ?_⟩
    · rw [hoffset, ← Array.length_toList, hbytes, List.length_append]
      exact Nat.le_add_right _ _
    · rwa [hbehind]
    · rw [hrecord, hshown, List.length_append]
      exact Nat.le_add_right _ _
    · rw [hrecord, hshown, hbefore, List.take_left]
      exact Utf8.decode_eq_ok_iff.2 ⟨hu, rfl⟩
    · rw [hbefore, Text.lastLine_utf8]
      exact Utf8.decode_eq_ok_iff.2 ⟨hline, rfl⟩
    · intro color
      have hplace := Text.lineColumn_length u (Utf8.decodeReplacing more)
      have hheld : (record data label).fault = some (.ofScanned f) := by
        rw [fault_record, hstop]
        rfl
      rw [faultLine?, hheld, hshown, hbefore, Option.map_some, faultPlace, hrecord, hplace]
      rfl

/-- A newline inside a string, code points of two bytes on both lines, and bytes behind the fault that are replaced. -/
theorem faultLine_record_unexpected :
    let data : Array UInt8 := #[0x22, 0xC3, 0xA9, 0x0A, 0xC3, 0xBC, 0x22, 0x20, 0x40, 0xFF, 0xFF]
    let r : FaultRecord := ⟨.unexpectedCharacter, 6, "Unexpected character: '@'"⟩
    (record data "f").fault = some r ∧ Utf8.offsetOf 6 data.toList = 8 ∧
      (record data "f").faultLine? false (some (Utf8.decodeReplacing data.toList)) =
        some ("f:2:4: error: Unexpected character: '@'" : Text) := by
  intro data r
  have hfault : (record data "f").fault = some r := by decide +kernel
  have hoffset : Utf8.offsetOf 6 data.toList = 8 := by decide +kernel
  have hstop : (Scanner.ofBytes data).stop = some (.fault (.unexpectedCharacter 6 "@")) := by decide +kernel
  obtain ⟨f, hf, -, -, -, -, -, line, hline, hshown⟩ := faultLine_record data "f" r hfault
  obtain rfl : f = .unexpectedCharacter 6 "@" := by simpa [hf] using hstop
  have hlast : Utf8.lastLine (data.toList.take (Utf8.offsetOf 6 data.toList)) = Text.utf8 "ü\" " := by decide +kernel
  have hlength : line.length = 3 := by
    have hdecode : Utf8.decode (Text.utf8 "ü\" ") = .ok "ü\" " := Utf8.decode_eq_ok_iff.2 ⟨by decide, rfl⟩
    have hsame : Utf8.decode (Text.utf8 "ü\" ") = .ok line := hlast ▸ hline
    rw [← Except.ok.inj (hdecode.symm.trans hsame)]
    rfl
  have hcount : (data.toList.take (Utf8.offsetOf 6 data.toList)).count 0x0A = 1 := by decide +kernel
  have hat : Fault.offsetIn data.toList (.unexpectedCharacter 6 "@") = Utf8.offsetOf 6 data.toList := rfl
  refine ⟨hfault, hoffset, (hshown false).trans ?_⟩
  rw [hat, hcount, hlength]
  decide +kernel

end Transcript

end ParenTokens
