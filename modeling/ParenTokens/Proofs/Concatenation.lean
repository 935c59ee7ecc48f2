import ParenTokens.Proofs.Scanning

namespace ParenTokens

/-!
# Scanning one text behind another

A run over `a ++ b` is a run over `a` and then a run over `b` with its places moved, as long as what stands at the seam
cannot change the last token of `a`.

* `Layout.append` — one layout behind another; `Layout.tokens_append`, `Layout.Munched.append` and
  `Layout.delivered_append` say what becomes of its tokens.
* `Token.shift`, `Fault.shift`, `Refusal.shift` — the same at a place further on.
* `MayContinue` — bytes that could make an identifier before them longer.
* `given_stop_append` — the two runs put together.
-/

/-! ### One layout behind another -/

namespace Layout

/-- A layout with further blanks in front of it. -/
def indent (w : Blanks) : Layout → Layout
  | blanks w' => blanks ⟨w.val ++ w'.val, List.forall_mem_append.2 ⟨w.2, w'.2⟩⟩
  | lexeme w' x more => lexeme ⟨w.val ++ w'.val, List.forall_mem_append.2 ⟨w.2, w'.2⟩⟩ x more

/-- A layout and then another one; the blanks at the seam become one run. -/
def append : Layout → Layout → Layout
  | blanks w, l' => l'.indent w
  | lexeme w x more, l' => lexeme w x (more.append l')

@[simp] theorem text_indent (w : Blanks) (l : Layout) : (l.indent w).text = w.val ++ l.text := by
  cases l <;> simp [indent, text]

@[simp] theorem text_append (l l' : Layout) : (l.append l').text = l.text ++ l'.text := by
  induction l with
  | blanks w => rw [append, text_indent, text]
  | lexeme w x more ih => simp [append, text, ih]

theorem munched_indent {w : Blanks} {l : Layout} {after : Text} (h : l.Munched after) :
    (l.indent w).Munched after := by
  cases l with
  | blanks w' => trivial
  | lexeme w' x more => exact h

/-- What is munched on its own stays so before another layout that does not go on with its last identifier. -/
theorem Munched.append {l l' : Layout} {after : Text} (hl : l.Munched []) (hl' : l'.Munched after)
    (hseam : l.isOpen = true → ∀ c ∈ (l'.text ++ after).head?, c.continuesIdentifier = false) :
    (l.append l').Munched after := by
  induction l with
  | blanks w => exact munched_indent hl'
  | lexeme w x more ih =>
    obtain ⟨hx, hmore⟩ := hl
    refine ⟨fun hopen c hc => ?_, ih hmore fun hopen => hseam (by simp [isOpen, hopen])⟩
    rw [text_append, List.append_assoc] at hc
    -- What follows `x` is the same as before, unless `x` ends the first layout.
    cases htext : more.text with
    | nil =>
      rw [htext] at hc
      exact hseam (by simp [isOpen, hopen, htext]) c hc
    | cons d u =>
      rw [htext] at hc
      exact hx hopen c (by rw [htext]; exact hc)

theorem delivered_indent (w : Blanks) (l : Layout) (z : Residue) (cut : Bool) (position : Nat) :
    (l.indent w).delivered z cut position = l.delivered z cut (position + w.val.length) := by
  have htokens : (l.indent w).tokens position = l.tokens (position + w.val.length) := by
    cases l <;> simp [indent, tokens, Nat.add_assoc]
  have hopen : (l.indent w).isOpen = l.isOpen := by cases l <;> rfl
  cases z with
  | nothing => simp only [delivered, htokens, hopen, text_indent, List.length_append, Nat.add_assoc]
  | unexpected c u hc => exact htokens
  | openString body hb => exact htokens

/-- A run over both delivers the tokens of the first layout, and then what a run over the second does. -/
theorem delivered_append {l l' : Layout} {z : Residue} {cut : Bool}
    (hseam : l.isOpen = true → l'.text ++ z.text = [] → cut = false) (position : Nat) :
    (l.append l').delivered z cut position =
      l.tokens position ++ l'.delivered z cut (position + l.text.length) := by
  induction l generalizing position with
  | blanks w => exact delivered_indent w l' z cut position
  | lexeme w x more ih =>
    have hx : x.isOpen = true → (more.append l').text ++ z.text = [] → cut = false := by
      intro hopen hnil
      rw [text_append, List.append_assoc, List.append_eq_nil_iff] at hnil
      exact hseam (by simp [isOpen, hopen, hnil.1]) hnil.2
    have hmore : more.isOpen = true → l'.text ++ z.text = [] → cut = false :=
      fun hopen => hseam (by simp [isOpen, hopen])
    rw [append, delivered_lexeme hx, ih hmore, tokens, List.cons_append, text]
    simp only [List.length_append, Nat.add_assoc]

end Layout

/-! ### Places further on -/

/-- A token that stands `n` code points further on. -/
def Token.shift (n : Nat) (t : Token) : Token := { t with position := t.position + n }

/-- A fault that is found `n` code points and `m` bytes further on. -/
def Fault.shift (n m : Nat) : Fault → Fault
  | invalidEncoding position offset => .invalidEncoding (position + n) (offset + m)
  | unterminatedString position expected openedAt =>
    .unterminatedString (position + n) expected (openedAt + n)
  | unexpectedCharacter position character => .unexpectedCharacter (position + n) character

def Refusal.shift (n m : Nat) : Refusal → Refusal
  | fault f => .fault (f.shift n m)
  | undecodable e => .undecodable e
  | terminated => .terminated
  | finished => .finished

theorem Layout.map_shift_tokens (n : Nat) (l : Layout) (position : Nat) :
    (l.tokens position).map (Token.shift n) = l.tokens (position + n) := by
  induction l generalizing position with
  | blanks w => rfl
  | lexeme w x more ih =>
    have hstart : position + n + w.val.length = position + w.val.length + n := by omega
    have hnext : position + n + w.val.length + x.written.length =
        position + w.val.length + x.written.length + n := by omega
    rw [tokens, tokens, List.map_cons, ih, hnext, hstart]
    rfl

theorem Layout.map_shift_delivered (n : Nat) (l : Layout) (z : Residue) (cut : Bool) (position : Nat) :
    (l.delivered z cut position).map (Token.shift n) = l.delivered z cut (position + n) := by
  have htokens := l.map_shift_tokens n position
  cases z with
  | unexpected c u hc => exact htokens
  | openString body hb => exact htokens
  | nothing =>
    have hend : position + n + l.text.length = position + l.text.length + n := by omega
    simp only [delivered, apply_ite (List.map (Token.shift n)), List.map_append, List.map_dropLast, htokens, hend]
    rfl

theorem Residue.shift_fault (n m : Nat) (z : Residue) (cut : Bool) (position offset : Nat) :
    (z.fault cut position offset).map (Fault.shift n m) = z.fault cut (position + n) (offset + m) := by
  cases z with
  | nothing => cases cut <;> rfl
  | unexpected c u hc => rfl
  | openString body hb => cases cut <;> simp [fault, Fault.shift] <;> omega

/-! ### The seam -/

/-- Some bytes start with a code point that makes an identifier before them longer, or one cannot tell whether they
    do. -/
def MayContinue (bs : List UInt8) : Prop :=
  (∃ c : CodePoint, c.isScalar = true ∧ c.continuesIdentifier = true ∧ c.utf8 <+: bs) ∨
    bs ≠ [] ∧ Utf8.Undecodable bs

theorem head_of_not_mayContinue {t : Text} {rest : List UInt8} (ht : t.IsScalar)
    (h : ¬ MayContinue (t.utf8 ++ rest)) : ∀ c ∈ t.head?, c.continuesIdentifier = false := by
  intro c hc
  by_contra hcontinues
  rw [Bool.not_eq_false] at hcontinues
  cases t with
  | nil => cases hc
  | cons d u =>
    obtain rfl : d = c := by simpa using hc
    rw [Text.isScalar_cons] at ht
    rw [Text.utf8_cons, List.append_assoc] at h
    exact h (.inl ⟨d, ht.1, hcontinues, ⟨_, rfl⟩⟩)

/-- Reading goes on behind an accepted text as if the text were not there. -/
theorem reads_append {a b : Array UInt8} {l l' : Layout} {z : Residue} {rest : List UInt8}
    (ha : Reads a l .nothing []) (hb : Reads b l' z rest) (hseam : ¬ (l.isOpen = true ∧ MayContinue b.toList)) :
    Reads (a ++ b) (l.append l') z rest where
  bytes_eq := by
    rw [Array.toList_append, ha.bytes_eq, hb.bytes_eq]
    simp [Residue.text]
  scalar := by
    have hl := (Text.isScalar_append.1 ha.scalar).1
    rw [Layout.text_append, List.append_assoc, Text.isScalar_append]
    exact ⟨hl, hb.scalar⟩
  undecodable := hb.undecodable
  munched := by
    refine Layout.Munched.append ha.munched hb.munched fun hopen => ?_
    have hnot : ¬ MayContinue b.toList := fun hcontinue => hseam ⟨hopen, hcontinue⟩
    rw [hb.bytes_eq] at hnot
    exact head_of_not_mayContinue hb.scalar hnot

/-- **Concatenation.** Let `a` be accepted.  If its last token is no identifier at its very end, or `b` does not go on
    with that identifier, then a run over `a ++ b` gives the tokens of `a` but for the end token, and then what a run
    over `b` gives, moved by the length of `a`; and it is stopped as that run is, at the place moved likewise. -/
theorem given_stop_append (a : Array UInt8) {ts : List Token} (ha : tokenize a = .ok ts) :
    ∃ (s : Text) (words : List Token),
      s.IsScalar ∧ s.utf8 = a.toList ∧ ts = words ++ [.endAt s.length] ∧
      (∀ t ∈ words, t.kind ≠ .endOfInput) ∧
      ∀ b : Array UInt8, ¬ (endsOpen s.length words = true ∧ MayContinue b.toList) →
        (Scanner.ofBytes (a ++ b)).given = words ++ (Scanner.ofBytes b).given.map (Token.shift s.length) ∧
          (Scanner.ofBytes (a ++ b)).stop = (Scanner.ofBytes b).stop.map (Refusal.shift s.length a.size) := by
  obtain ⟨l, z, rest, hreads⟩ := exists_reads a
  obtain ⟨rfl, rfl, rfl⟩ := hreads.tokenize_eq_ok_iff.1 ha
  have hbytes : a.toList = l.text.utf8 := by simpa [Residue.text] using hreads.bytes_eq
  have hsize : a.size = l.text.utf8.length := by rw [← Array.length_toList, hbytes]
  refine ⟨l.text, l.tokens 0, (Text.isScalar_append.1 hreads.scalar).1, hbytes.symm, rfl,
    fun t => Layout.kind_ne_of_mem_tokens, fun b hb => ?_⟩
  have hopen : endsOpen l.text.length (l.tokens 0) = l.isOpen := by
    simpa using l.endsOpen_tokens 0 0
  rw [hopen] at hb
  obtain ⟨l', z, rest, hreads'⟩ := exists_reads b
  have hboth := reads_append hreads hreads' hb
  constructor
  · have hcut : l.isOpen = true → l'.text ++ z.text = [] → (!rest.isEmpty) = false := by
      -- All of `b` is undecodable then.
      intro hl hnil
      by_contra hrest
      have hrest : rest ≠ [] := by simpa using hrest
      have hall : b.toList = rest := by rw [hreads'.bytes_eq, hnil]; rfl
      exact hb ⟨hl, .inr (hall ▸ ⟨hrest, hreads'.undecodable⟩)⟩
    rw [hboth.given_eq, hreads'.given_eq, Layout.delivered_append hcut, Layout.map_shift_delivered]
  · have hplace := z.shift_fault l.text.length a.size (!rest.isEmpty) l'.text.length l'.text.utf8.length
    rw [hboth.stop_eq, hreads'.stop_eq, Layout.text_append, Text.utf8_append, List.length_append, List.length_append,
      Nat.add_comm l.text.length, ← hsize, Nat.add_comm a.size, ← hplace, Option.map_map, Option.map_map]
    rfl

/-- At a seam between an identifier and a parenthesis both stay; the missing mark is found behind the seam. -/
theorem given_stop_append_open_string :
    tokenize ("(é" : Text).utf8.toArray =
        .ok [⟨.leftParen, 0, []⟩, ⟨.identifier, 1, ("é" : Text)⟩, ⟨.endOfInput, 2, []⟩] ∧
      ¬ MayContinue (")\"é" : Text).utf8 ∧
      (Scanner.ofBytes (("(é" : Text).utf8.toArray ++ (")\"é" : Text).utf8.toArray)).given =
        [⟨.leftParen, 0, []⟩, ⟨.identifier, 1, ("é" : Text)⟩, ⟨.rightParen, 2, []⟩] ∧
      (Scanner.ofBytes (("(é" : Text).utf8.toArray ++ (")\"é" : Text).utf8.toArray)).stop =
        some (.fault (.unterminatedString 5 [Cursor.stringMark] 3)) := by
  have ha : tokenize ("(é" : Text).utf8.toArray =
      .ok [⟨.leftParen, 0, []⟩, ⟨.identifier, 1, ("é" : Text)⟩, ⟨.endOfInput, 2, []⟩] := by decide +kernel
  have hfront : (CodePoint.ofChar ')').utf8 <+: (")\"é" : Text).utf8 := ⟨("\"é" : Text).utf8, rfl⟩
  have hseam : ¬ MayContinue (")\"é" : Text).utf8 := by
    rintro (⟨c, hc, hcontinues, hp⟩ | ⟨-, hnone⟩)
    · obtain rfl := Utf8.eq_of_utf8_prefix hc (by decide) hp hfront
      exact absurd hcontinues (by decide +kernel)
    · exact hnone _ (by decide) hfront
  have hgiven : (Scanner.ofBytes (")\"é" : Text).utf8.toArray).given = [⟨.rightParen, 0, []⟩] := by decide +kernel
  have hstop : (Scanner.ofBytes (")\"é" : Text).utf8.toArray).stop =
      some (.fault (.unterminatedString 3 [Cursor.stringMark] 1)) := by decide +kernel
  obtain ⟨s, words, hs, hbytes, hwords, -, hruns⟩ := given_stop_append _ ha
  obtain rfl : s = ("(é" : Text) := Utf8.utf8_injective hs (by decide) hbytes
  have hends : [⟨.leftParen, 0, []⟩, ⟨.identifier, 1, ("é" : Text)⟩] ++ [Token.endAt 2] = words ++ [.endAt 2] :=
    hwords
  obtain rfl := List.append_cancel_right hends
  obtain ⟨hrun, hfault⟩ := hruns (")\"é" : Text).utf8.toArray fun h => hseam h.2
  rw [hgiven] at hrun
  rw [hstop] at hfault
  exact ⟨ha, hseam, hrun, hfault⟩

end ParenTokens
