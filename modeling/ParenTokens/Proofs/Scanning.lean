import ParenTokens.Proofs.Reading
import ParenTokens.Proofs.Layout

namespace ParenTokens

open Cursor (stringMark)

/-!
# Scanning a layout

What the scanner gives for a text whose layout is known, and what stops it.

* `Cursor.scanToken_lexeme` — one lexeme is given as its token.
* `Cursor.scanToken_residue` — a residue stops the scanner; what it says depends on whether bytes follow the text.
* `Cursor.scanToken_cut` — an identifier is not given if undecodable bytes follow it at once.
* `Layout.delivered` / `Residue.fault` — the tokens and the fault of a whole run.
* `Scanner.drain_of_before` — a run over a layout and its residue gives exactly those.
* `Reads` — bytes cut into a layout, a residue and undecodable bytes; `exists_reads` cuts any bytes so, and
  `Reads.given_eq`, `Reads.stop_eq` say what a fresh scanner makes of them.
-/

/-- The end token at a position. -/
def Token.endAt (position : Nat) : Token := ⟨.endOfInput, position, []⟩

/-- What stops a scanner at a residue that stands at a position and an offset; `cut` says that undecodable bytes
    follow. -/
def Residue.fault (cut : Bool) (position offset : Nat) (z : Residue) : Option Fault :=
  match z with
  | nothing => if cut then some (.invalidEncoding position offset) else none
  | unexpected c _ _ => some (.unexpectedCharacter position [c])
  | openString .. =>
    if cut then some (.invalidEncoding (position + z.text.length : Nat) (offset + z.text.utf8.length : Nat))
    else some (.unterminatedString (position + z.text.length : Nat) [stringMark] position)

/-- The tokens of a run over a layout and a residue. The end token stands behind a text that is laid out in full, and
    an identifier that could go on in undecodable bytes is held back. -/
def Layout.delivered (l : Layout) (z : Residue) (cut : Bool) (position : Nat) : List Token :=
  match z with
  | .nothing =>
    if cut then if l.isOpen then (l.tokens position).dropLast else l.tokens position
    else l.tokens position ++ [.endAt (position + l.text.length)]
  | .unexpected .. | .openString .. => l.tokens position

theorem Layout.delivered_lexeme {w : Blanks} {x : Lexeme} {more : Layout} {z : Residue} {cut : Bool}
    (h : x.isOpen = true → more.text ++ z.text = [] → cut = false) (position : Nat) :
    (Layout.lexeme w x more).delivered z cut position =
      x.token (position + w.val.length) ::
        more.delivered z cut (position + w.val.length + x.written.length) := by
  have hlength : position + (lexeme w x more).text.length =
      position + w.val.length + x.written.length + more.text.length := by
    simp only [text, List.length_append]
    omega
  cases z with
  | unexpected c u hc => rfl
  | openString body hb => rfl
  | nothing =>
    cases cut with
    | false => simp [delivered, tokens, hlength]
    | true =>
      have hopen : (lexeme w x more).isOpen = more.isOpen := by
        -- They could differ only if `x` stood last, but then nothing is cut.
        simp only [isOpen, Bool.or_eq_right_iff_imp, Bool.and_eq_true, List.isEmpty_iff]
        rintro ⟨hx, hnil⟩
        exact absurd (h hx (by rw [hnil]; rfl)) (by decide)
      simp only [delivered, hopen, if_true, tokens]
      split
      · next hmore => rw [List.dropLast_cons_of_ne_nil (tokens_ne_nil_of_isOpen hmore _)]
      · rfl

theorem Layout.delivered_cut {w : Blanks} {x : Lexeme} {more : Layout} (hx : x.isOpen = true)
    (hmore : more.text = []) (position : Nat) : (Layout.lexeme w x more).delivered .nothing true position = [] := by
  have hopen : (lexeme w x more).isOpen = true := by simp [isOpen, hx, hmore]
  simp [delivered, hopen, tokens, tokens_of_text_nil hmore]

namespace Cursor

/-! ### The parts of a scan -/

theorem skipBlanks_of_before {r : Cursor} (w : Blanks) {t : Text} {rest : List UInt8}
    (h : r.Before (w ++ t) rest) (ht : ∀ c ∈ t.head?, c.isBlank = false) :
    ∃ start, r.skipBlanks = (start.seen t rest, start) ∧ r.Passes w start :=
  advanceWhile_of_before h w.2 ht

theorem readIdentifier_of_before {r : Cursor} {u t : Text} {rest : List UInt8} (h : r.Before (u ++ t) rest)
    (hu : ∀ c ∈ u, c.continuesIdentifier = true) (ht : ∀ c ∈ t.head?, c.continuesIdentifier = false)
    (hcut : t = [] → rest = []) : ∃ stop, r.readIdentifier = (.ok u, stop) ∧ r.Passes u stop := by
  obtain ⟨stop, hrun, hpass⟩ := advanceWhile_of_before h hu ht
  refine ⟨stop, ?_, hpass⟩
  obtain ⟨a, ha⟩ : ∃ a, stop.seen t rest = .ok a := by
    cases t with
    | cons c t => exact ⟨_, rfl⟩
    | nil => exact ⟨none, by rw [hcut rfl]; rfl⟩
  rw [readIdentifier, hrun, ha]
  simp only [textSince_of_passes h hpass stop hpass.data_eq]

theorem readIdentifier_cut {r : Cursor} {u : Text} {rest : List UInt8} (h : r.Before u rest)
    (hu : ∀ c ∈ u, c.continuesIdentifier = true) (hrest : rest ≠ []) :
    ∃ stop, r.readIdentifier = (.error (.fault (.invalidEncoding stop.position stop.offset)), stop) ∧
      r.Passes u stop := by
  obtain ⟨stop, hrun, hpass⟩ := advanceWhile_of_before (v := []) (by rwa [List.append_nil]) hu (by simp)
  obtain ⟨b, bs, rfl⟩ := List.exists_cons_of_ne_nil hrest
  exact ⟨stop, by rw [readIdentifier, hrun]; rfl, hpass⟩

theorem readString_closed {r : Cursor} {c : CodePoint} {body t : Text} {rest : List UInt8}
    (h : r.Before (c :: (body ++ stringMark :: t)) rest) (hbody : stringMark ∉ body) :
    ∃ stop, r.readString = (.ok body, stop) ∧ r.Passes (c :: (body ++ [stringMark])) stop := by
  -- The opening mark is read whatever it is; the body is what stands before the next mark.
  obtain ⟨inside, hread, hpass⟩ := read_of_before h
  have hin : inside.Before (body ++ stringMark :: t) rest := h.of_passes (u := [c]) hpass
  obtain ⟨mark, hrun, hpass'⟩ := advanceWhile_of_before hin (bne_stringMark_of_not_mem hbody) (by simp)
  obtain ⟨stop, hclose, hpass''⟩ := read_of_before (hin.of_passes hpass')
  refine ⟨stop, ?_, hpass.trans (hpass'.trans hpass'')⟩
  rw [readString, hread]
  simp only [hrun, seen, textSince_of_passes hin hpass' mark hpass'.data_eq, hclose]

theorem readString_open {r : Cursor} {c : CodePoint} {body : Text} {rest : List UInt8}
    (h : r.Before (c :: body) rest) (hbody : stringMark ∉ body) :
    ∃ stop, r.readString = (.error (.fault (if rest = [] then
        .unterminatedString stop.position [stringMark] r.position
      else .invalidEncoding stop.position stop.offset)), stop) ∧ r.Passes (c :: body) stop := by
  obtain ⟨inside, hread, hpass⟩ := read_of_before h
  have hin : inside.Before (body ++ []) rest := by
    rw [List.append_nil]
    exact h.of_passes (u := [c]) hpass
  obtain ⟨stop, hrun, hpass'⟩ := advanceWhile_of_before hin (bne_stringMark_of_not_mem hbody) (by simp)
  refine ⟨stop, ?_, hpass.trans hpass'⟩
  rw [readString, hread]
  cases rest with
  | nil => simp only [hrun, seen, if_pos]
  | cons b bs => simp only [hrun, seen, if_neg, reduceCtorEq, not_false_eq_true]

/-! ### One scan -/

theorem continues_of_identifier {first : CodePoint} {more : Text} (hf : first.isLetter = true)
    (hm : ∀ c ∈ more, c.continuesIdentifier = true) : ∀ c ∈ first :: more, c.continuesIdentifier = true := by
  intro c hc
  rcases List.mem_cons.1 hc with rfl | hc
  · simp [CodePoint.continuesIdentifier, hf]
  · exact hm c hc

/-- **A lexeme is given as its token**, unless it is an identifier that undecodable bytes follow. -/
theorem scanToken_lexeme {r : Cursor} (w : Blanks) (x : Lexeme) {t : Text} {rest : List UInt8}
    (h : r.Before (w ++ (x.written ++ t)) rest) (hx : x.EndsBefore t)
    (hcut : x.isOpen = true → t = [] → rest = []) :
    ∃ stop, r.scanToken = (.ok (x.token (r.position + w.val.length)), stop) ∧
      r.Passes (w ++ x.written) stop := by
  obtain ⟨start, hskip, hpass⟩ := skipBlanks_of_before w h (x.head_not_blank t)
  have hstart := h.of_passes hpass
  have hposition := hpass.position_eq
  cases x with
  | leftParen =>
    obtain ⟨stop, hread, hpass'⟩ := read_of_before hstart
    refine ⟨stop, ?_, hpass.trans hpass'⟩
    simp only [scanToken, hskip, Lexeme.written, List.cons_append, seen, if_pos, hread, hposition]
    rfl
  | rightParen =>
    obtain ⟨stop, hread, hpass'⟩ := read_of_before hstart
    have hne : CodePoint.ofChar ')' ≠ CodePoint.ofChar '(' := by decide
    refine ⟨stop, ?_, hpass.trans hpass'⟩
    simp only [scanToken, hskip, Lexeme.written, List.cons_append, seen, if_neg hne, if_pos, hread, hposition]
    rfl
  | string body hbody =>
    have hstring : start.Before (stringMark :: (body ++ stringMark :: t)) rest := by
      simpa [Lexeme.written] using hstart
    obtain ⟨stop, hread, hpass'⟩ := readString_closed hstring hbody
    have hl : stringMark ≠ CodePoint.ofChar '(' := by decide
    have hr : stringMark ≠ CodePoint.ofChar ')' := by decide
    refine ⟨stop, ?_, hpass.trans hpass'⟩
    simp only [scanToken, hskip, Lexeme.written, List.cons_append, seen, if_neg hl, if_neg hr, if_pos, hread,
      hposition]
    rfl
  | identifier first more hf hm =>
    obtain ⟨stop, hread, hpass'⟩ :=
      readIdentifier_of_before hstart (continues_of_identifier hf hm) (hx rfl) (hcut rfl)
    refine ⟨stop, ?_, hpass.trans hpass'⟩
    simp only [scanToken, hskip, Lexeme.written, List.cons_append, seen,
      if_neg (ne_of_isLetter hf isLetter_leftParen), if_neg (ne_of_isLetter hf isLetter_rightParen),
      if_neg (ne_of_isLetter hf isLetter_stringMark), if_pos hf, hread, hposition]
    rfl

/-- **An identifier is held back** if undecodable bytes follow it at once. -/
theorem scanToken_cut {r : Cursor} (w : Blanks) {x : Lexeme} {rest : List UInt8}
    (h : r.Before (w ++ x.written) rest) (hx : x.isOpen = true) (hrest : rest ≠ []) :
    ∃ stop, r.scanToken = (.error (.fault (.invalidEncoding stop.position stop.offset)), stop) ∧
      r.Passes (w ++ x.written) stop := by
  cases x with
  | leftParen => cases hx
  | rightParen => cases hx
  | string => cases hx
  | identifier first more hf hm =>
    have hblank := (Lexeme.identifier first more hf hm).head_not_blank []
    rw [List.append_nil] at hblank
    obtain ⟨start, hskip, hpass⟩ := skipBlanks_of_before w h hblank
    obtain ⟨stop, hread, hpass'⟩ :=
      readIdentifier_cut (h.of_passes hpass) (continues_of_identifier hf hm) hrest
    refine ⟨stop, ?_, hpass.trans hpass'⟩
    simp only [scanToken, hskip, Lexeme.written, seen, if_neg (ne_of_isLetter hf isLetter_leftParen),
      if_neg (ne_of_isLetter hf isLetter_rightParen), if_neg (ne_of_isLetter hf isLetter_stringMark),
      if_pos hf, hread]

/-- **A residue stops the scanner.** -/
theorem scanToken_residue {r : Cursor} (w : Blanks) (z : Residue) {rest : List UInt8}
    (h : r.Before (w ++ z.text) rest) :
    ∃ stop, r.scanToken = (match z.fault (!rest.isEmpty) (r.position + w.val.length)
        (r.offset + w.val.utf8.length) with
      | none => .ok (.endAt (r.position + w.val.length))
      | some f => .error (.fault f), stop) := by
  obtain ⟨start, hskip, hpass⟩ := skipBlanks_of_before w h z.head_not_blank
  have hstart := h.of_passes hpass
  have hposition := hpass.position_eq
  have hoffset := hpass.offset_eq
  cases z with
  | nothing =>
    refine ⟨start, ?_⟩
    cases rest with
    | nil => simp only [scanToken, hskip, Residue.text, seen, hposition]; rfl
    | cons b bs => simp only [scanToken, hskip, Residue.text, seen, hposition, hoffset]; rfl
  | unexpected c more hc =>
    refine ⟨start, ?_⟩
    simp only [scanToken, hskip, Residue.text, seen, if_neg hc.ne_leftParen, if_neg hc.ne_rightParen,
      if_neg hc.ne_stringMark, hc.not_letter, Bool.false_eq_true, if_false, hposition]
    rfl
  | openString body hbody =>
    obtain ⟨stop, hread, hpass'⟩ := readString_open hstart hbody
    have hl : stringMark ≠ CodePoint.ofChar '(' := by decide
    have hr : stringMark ≠ CodePoint.ofChar ')' := by decide
    refine ⟨stop, ?_⟩
    simp only [scanToken, hskip, Residue.text, seen, if_neg hl, if_neg hr, if_pos, hread, hposition]
    cases rest with
    | nil => simp [Residue.fault, Residue.text, hpass'.position_eq, hposition]
    | cons b bs => simp [Residue.fault, Residue.text, hpass'.position_eq, hpass'.offset_eq, hposition, hoffset]

end Cursor

namespace Scanner

/-! ### A whole run -/

theorem next_of_scanToken_ok {s : Scanner} {t : Token} {r : Cursor} (hs : s.exhausted = false)
    (h : s.cursor.scanToken = (.ok t, r)) : s.next = (.ok t, ⟨r, t.kind == .endOfInput⟩) := by
  simp only [next, hs, Bool.false_eq_true, if_false, h]

theorem next_of_scanToken_fault {s : Scanner} {f : Fault} {r : Cursor} (hs : s.exhausted = false)
    (h : s.cursor.scanToken = (.error (.fault f), r)) : s.next = (.error (.fault f), ⟨r, true⟩) := by
  simp only [next, hs, Bool.false_eq_true, if_false, h]

/-- The tokens that a scanner gives from here on. -/
def given (s : Scanner) : List Token := s.drain.1

/-- What keeps a scanner from giving its end token, if anything does. -/
def stop (s : Scanner) : Option Refusal := s.drain.2.1

theorem drain_of_next_token {s s' : Scanner} {t : Token} (h : s.next = (.ok t, s'))
    (ht : t.kind ≠ .endOfInput) : s.given = t :: s'.given ∧ s.stop = s'.stop := by
  rw [given, stop, drain]
  split
  · next hnext => rw [h] at hnext; cases hnext
  · next hnext =>
    rw [h] at hnext
    cases hnext
    rw [dif_neg ht]
    exact ⟨rfl, rfl⟩

theorem drain_of_next_end {s s' : Scanner} {t : Token} (h : s.next = (.ok t, s'))
    (ht : t.kind = .endOfInput) : s.given = [t] ∧ s.stop = none := by
  rw [given, stop, drain]
  split
  · next hnext => rw [h] at hnext; cases hnext
  · next hnext =>
    rw [h] at hnext
    cases hnext
    rw [dif_pos ht]
    exact ⟨rfl, rfl⟩

theorem drain_of_next_error {s s' : Scanner} {e : Refusal} (h : s.next = (.error e, s')) :
    s.given = [] ∧ s.stop = some e := by
  rw [given, stop, drain]
  split
  · next hnext => rw [h] at hnext; cases hnext; exact ⟨rfl, rfl⟩
  · next hnext => rw [h] at hnext; cases hnext

theorem drain_residue {s : Scanner} (hs : s.exhausted = false) (w : Blanks) (z : Residue) {rest : List UInt8}
    (h : s.cursor.Before (w ++ z.text) rest) :
    s.given = (Layout.blanks w).delivered z (!rest.isEmpty) s.cursor.position ∧
      s.stop = (z.fault (!rest.isEmpty) (s.cursor.position + w.val.length)
        (s.cursor.offset + w.val.utf8.length)).map .fault := by
  obtain ⟨r, hscan⟩ := Cursor.scanToken_residue w z h
  cases hfault : z.fault (!rest.isEmpty) (s.cursor.position + w.val.length)
      (s.cursor.offset + w.val.utf8.length) with
  | none =>
    rw [hfault] at hscan
    obtain ⟨hgiven, hstop⟩ := drain_of_next_end (next_of_scanToken_ok hs hscan) rfl
    refine ⟨hgiven.trans ?_, hstop⟩
    cases z <;> cases rest <;> simp [Residue.fault] at hfault
    rfl
  | some f =>
    rw [hfault] at hscan
    obtain ⟨hgiven, hstop⟩ := drain_of_next_error (next_of_scanToken_fault hs hscan)
    refine ⟨hgiven.trans ?_, hstop⟩
    cases z <;> cases rest <;> simp [Residue.fault] at hfault <;> rfl

/-- **A whole run.** Before a munched layout and its residue, a scanner gives the tokens of the layout and is stopped
    by the residue. -/
theorem drain_of_before {s : Scanner} (hs : s.exhausted = false) {l : Layout} {z : Residue} {rest : List UInt8}
    (h : s.cursor.Before (l.text ++ z.text) rest) (hl : l.Munched z.text) :
    s.given = l.delivered z (!rest.isEmpty) s.cursor.position ∧
      s.stop = (z.fault (!rest.isEmpty) (s.cursor.position + l.text.length)
        (s.cursor.offset + l.text.utf8.length)).map .fault := by
  -- Each lexeme is one call of `next`; `Before` and `Munched` are what the call leaves true.
  induction l generalizing s with
  | blanks w => exact drain_residue hs w z h
  | lexeme w x more ih =>
    obtain ⟨hx, hmore⟩ := hl
    have hbefore : s.cursor.Before (w ++ (x.written ++ (more.text ++ z.text))) rest := by
      simpa [Layout.text] using h
    by_cases hcut : x.isOpen = true ∧ more.text ++ z.text = [] ∧ rest ≠ []
    · -- The layout ends with this identifier, and undecodable bytes follow.
      obtain ⟨hopen, hnil, hrest⟩ := hcut
      obtain ⟨hmoreNil, hzNil⟩ := List.append_eq_nil_iff.1 hnil
      obtain rfl := Residue.eq_nothing_of_text_nil hzNil
      have hcutBool : (!rest.isEmpty) = true := by simpa using hrest
      rw [hmoreNil, hzNil, List.append_nil, List.append_nil] at hbefore
      obtain ⟨r, hscan, hpass⟩ := Cursor.scanToken_cut w hbefore hopen hrest
      obtain ⟨hgiven, hstop⟩ := drain_of_next_error (next_of_scanToken_fault hs hscan)
      rw [hcutBool, Layout.delivered_cut hopen hmoreNil]
      refine ⟨hgiven, hstop.trans ?_⟩
      simp [Residue.fault, Layout.text, hmoreNil, hpass.position_eq, hpass.offset_eq]
    · -- The lexeme is given, and the cursor stands before the rest of the layout.
      have hclosed : x.isOpen = true → more.text ++ z.text = [] → rest = [] := by
        intro hopen hnil
        by_contra hrest
        exact hcut ⟨hopen, hnil, hrest⟩
      obtain ⟨r, hscan, hpass⟩ := Cursor.scanToken_lexeme w x hbefore hx hclosed
      have hkind : (x.token (s.cursor.position + w.val.length)).kind ≠ .endOfInput := x.kind_ne_endOfInput
      have hnext := next_of_scanToken_ok hs hscan
      rw [beq_eq_false_iff_ne.2 hkind] at hnext
      obtain ⟨hgiven, hstop⟩ := drain_of_next_token hnext hkind
      rw [← List.append_assoc] at hbefore
      obtain ⟨hgiven', hstop'⟩ := ih (s := ⟨r, false⟩) rfl (hbefore.of_passes hpass) hmore
      have hposition : r.position = s.cursor.position + w.val.length + x.written.length := by
        rw [hpass.position_eq, List.length_append, Nat.add_assoc]
      have hoffset : r.offset = s.cursor.offset + w.val.utf8.length + x.written.utf8.length := by
        rw [hpass.offset_eq, Text.utf8_append, List.length_append, Nat.add_assoc]
      refine ⟨?_, ?_⟩
      · rw [hgiven, hgiven', Layout.delivered_lexeme (by simpa using hclosed), hposition]
      · rw [hstop, hstop', hposition, hoffset]
        simp only [Layout.text, List.length_append, Text.utf8_append, Nat.add_assoc]

theorem tokens_eq (s : Scanner) : s.tokens = match s.stop with
    | none => .ok s.given
    | some e => .error e := by
  rw [tokens, stop, given]
  obtain ⟨ts, e, s'⟩ := s.drain
  cases e <;> rfl

end Scanner

/-! ### Bytes and how they are read -/

/-- The bytes hold a munched layout and its residue, and then no further scalar. -/
structure Reads (data : Array UInt8) (l : Layout) (z : Residue) (rest : List UInt8) : Prop where
  bytes_eq : data.toList = (l.text ++ z.text).utf8 ++ rest
  scalar : (l.text ++ z.text).IsScalar
  undecodable : Utf8.Undecodable rest
  munched : l.Munched z.text

/-- All bytes can be read. -/
theorem exists_reads (data : Array UInt8) : ∃ l z rest, Reads data l z rest := by
  obtain ⟨t, rest, ht, hrest, hsplit⟩ := Utf8.exists_split data.toList
  obtain ⟨l, z, rfl, hl⟩ := exists_layout t
  exact ⟨l, z, rest, hsplit, ht, hrest, hl⟩

namespace Reads

variable {data : Array UInt8} {l : Layout} {z : Residue} {rest : List UInt8}

theorem given_eq (h : Reads data l z rest) :
    (Scanner.ofBytes data).given = l.delivered z (!rest.isEmpty) 0 := by
  have hbefore := Cursor.before_ofBytes h.scalar h.undecodable h.bytes_eq
  exact (Scanner.drain_of_before (s := .ofBytes data) rfl hbefore h.munched).1

theorem stop_eq (h : Reads data l z rest) : (Scanner.ofBytes data).stop =
    (z.fault (!rest.isEmpty) l.text.length l.text.utf8.length).map .fault := by
  have hbefore := Cursor.before_ofBytes h.scalar h.undecodable h.bytes_eq
  have hstop := (Scanner.drain_of_before (s := .ofBytes data) rfl hbefore h.munched).2
  simpa [Scanner.ofBytes, Cursor.ofBytes] using hstop

theorem tokenize_eq (h : Reads data l z rest) :
    tokenize data = match z.fault (!rest.isEmpty) l.text.length l.text.utf8.length with
      | none => .ok (l.delivered z (!rest.isEmpty) 0)
      | some f => .error (.fault f) := by
  rw [tokenize, Scanner.tokens_eq, h.stop_eq, h.given_eq]
  cases z.fault (!rest.isEmpty) l.text.length l.text.utf8.length <;> rfl

/-- Bytes are accepted iff they are a text that is laid out in full. -/
theorem tokenize_eq_ok_iff (h : Reads data l z rest) {ts : List Token} :
    tokenize data = .ok ts ↔ z = .nothing ∧ rest = [] ∧ ts = l.tokens 0 ++ [.endAt l.text.length] := by
  rw [h.tokenize_eq]
  cases z with
  | nothing => cases rest <;> simp [Residue.fault, Layout.delivered, eq_comm]
  | unexpected c more hc => simp [Residue.fault]
  | openString body hb => cases rest <;> simp [Residue.fault]

end Reads

/-- A text of scalars is read to its end. -/
theorem reads_text {s : Text} (hs : s.IsScalar) {l : Layout} {z : Residue} (h : s = l.text ++ z.text)
    (hl : l.Munched z.text) : Reads s.utf8.toArray l z [] := by
  subst h
  exact ⟨by simp, hs, Utf8.undecodable_nil, hl⟩

end ParenTokens
