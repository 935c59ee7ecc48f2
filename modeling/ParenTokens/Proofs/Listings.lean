import ParenTokens.Proofs.Quoting
import ParenTokens.Proofs.Dumping
import ParenTokens.Proofs.Layout
import ParenTokens.Transcript.Listing
import Mathlib.Data.List.DropRight

namespace ParenTokens

/-!
# What is shown can be told apart

The plain line of an entry has four columns: a numeral behind spaces, two spaces, the name of a kind, and a quoted text
behind spaces if there is one.  Each column ends where the next one begins with something that it cannot hold, and the
spaces dropped at the end of a line belong to no column.  The same goes for a token on one line.

* `Decimal.ofNat_injective`, `Decimal.ofInt_injective` — numerals; `TokenKind.name_append_unique` — names.
* `Entry.line_eq` — the columns of a line, with nothing dropped.
* `Entry.line_injective` — lines of entries; `Token.display_eq_iff` — tokens on one line.
* `shown_eq_iff` — both, for whole listings and for tokens.
-/

/-! ### Numerals -/

namespace Decimal

theorem isAsciiDigit_of_mem_ofNat {n : Nat} {c : CodePoint} (h : c ∈ ofNat n) : c.isAsciiDigit = true := by
  obtain ⟨d, hd, rfl⟩ := List.mem_map.1 h
  have hlt := lt_of_mem_digits hd
  rw [CodePoint.isAsciiDigit, val_ofDigit hlt, Bool.and_eq_true, decide_eq_true_eq, decide_eq_true_eq]
  omega

theorem exists_ofNat_eq_cons (n : Nat) : ∃ c t, ofNat n = c :: t ∧ c.isAsciiDigit = true := by
  obtain ⟨d, ds, hds, -⟩ := exists_digits_eq_cons n
  have hnumeral : ofNat n = CodePoint.ofDigit d :: ds.map CodePoint.ofDigit := by rw [ofNat, hds, List.map_cons]
  exact ⟨_, _, hnumeral, isAsciiDigit_of_mem_ofNat (n := n) (by rw [hnumeral]; exact List.mem_cons_self)⟩

/-- A number is regained from the digits of its numeral. -/
theorem ofNat_injective : Function.Injective ofNat := by
  have hdigits : ∀ n, (ofNat n).map (fun c => c.val - 0x30) = digits n := by
    intro n
    rw [ofNat, List.map_map]
    refine (List.map_congr_left fun d hd => ?_).trans (List.map_id (digits n))
    rw [Function.comp_apply, val_ofDigit (lt_of_mem_digits hd), id, Nat.add_sub_cancel_left]
  intro m n h
  rw [← ofDigits_digits m, ← ofDigits_digits n, ← hdigits, ← hdigits, h]

/-- The sign is no digit, so that it cannot be mistaken for a part of the numeral. -/
theorem ofInt_injective : Function.Injective ofInt := by
  have hsign : ∀ m n : Nat, ofNat m ≠ CodePoint.ofChar '-' :: ofNat (n + 1) := by
    intro m n h
    have hdigit := isAsciiDigit_of_mem_ofNat (n := m) (h ▸ List.mem_cons_self)
    exact absurd hdigit (by decide)
  intro i j h
  cases i with
  | ofNat m =>
    cases j with
    | ofNat n => exact congrArg Int.ofNat (ofNat_injective h)
    | negSucc n => exact absurd h (hsign m n)
  | negSucc m =>
    cases j with
    | ofNat n => exact absurd h.symm (hsign n m)
    | negSucc n => exact congrArg Int.negSucc (Nat.succ.inj (ofNat_injective (List.cons.inj h).2))

end Decimal

/-! ### Names -/

namespace TokenKind

theorem name_injective : Function.Injective name := by
  intro k k' h
  have hkind := congrArg ofName? h
  rw [ofName?_name, ofName?_name] at hkind
  exact Option.some.inj hkind

theorem isAsciiLetter_of_mem_name (k : TokenKind) : ∀ c ∈ k.name, c.isAsciiLetter = true := by
  cases k <;> decide

/-- A name ends where something else than a letter follows. -/
theorem name_append_unique {k k' : TokenKind} {t t' : Text} (ht : ∀ c ∈ t.head?, c.isAsciiLetter = false)
    (ht' : ∀ c ∈ t'.head?, c.isAsciiLetter = false) (h : k.name ++ t = k'.name ++ t') : k = k' ∧ t = t' := by
  obtain ⟨hname, hrest⟩ := span_unique k.isAsciiLetter_of_mem_name ht k'.isAsciiLetter_of_mem_name ht' h
  exact ⟨name_injective hname, hrest⟩

end TokenKind

/-! ### Lines of entries -/

namespace Text

def spaces (n : Nat) : Text := List.replicate n (CodePoint.ofChar ' ')

theorem eq_of_mem_spaces {n : Nat} {c : CodePoint} (h : c ∈ spaces n) : c = CodePoint.ofChar ' ' :=
  List.eq_of_mem_replicate h

theorem padLeft_eq (width : Nat) (t : Text) : t.padLeft width = spaces (width - t.length) ++ t := rfl

theorem padRight_eq (width : Nat) (t : Text) : t.padRight width = t ++ spaces (width - t.length) := rfl

theorem dropTrailingSpaces_concat {c : CodePoint} (hc : c ≠ CodePoint.ofChar ' ') (t : Text) :
    dropTrailingSpaces (t ++ [c]) = t ++ [c] :=
  List.rdropWhile_concat_neg _ _ _ (by simpa using hc)

theorem dropTrailingSpaces_append_spaces (t : Text) (n : Nat) :
    dropTrailingSpaces (t ++ spaces n) = dropTrailingSpaces t := by
  induction n with
  | zero => rw [spaces, List.replicate_zero, List.append_nil]
  | succ n ih =>
    rw [spaces, List.replicate_succ', ← List.append_assoc, ← ih]
    exact List.rdropWhile_concat_pos _ _ _ (by simp)

end Text

namespace Entry

/-- The last column of a line: a quoted text behind the spaces that fill up the column of the kind, or nothing. -/
def textColumn (e : Entry) : Text :=
  match e.text with
  | some t => Text.spaces (10 - e.kind.name.length) ++ CodePoint.ofChar ' ' :: Quoted.quote t
  | none => []

/-- **Columns.** The spaces dropped at the end of a line are those that fill up the column of the kind. -/
theorem line_eq (e : Entry) :
    e.line false = Text.spaces (6 - (Decimal.ofNat e.position).length) ++ (Decimal.ofNat e.position ++
      CodePoint.ofChar ' ' :: CodePoint.ofChar ' ' :: (e.kind.name ++ e.textColumn)) := by
  have hspaces : ("  " : Text) = [CodePoint.ofChar ' ', CodePoint.ofChar ' '] := rfl
  cases htext : e.text with
  | none =>
    obtain ⟨start, c, hname, hc⟩ : ∃ start c, e.kind.name = start ++ [c] ∧ c ≠ CodePoint.ofChar ' ' := by
      refine ⟨e.kind.name.dropLast, e.kind.name.getLastD default, ?_⟩
      cases e.kind <;> decide
    have hline : e.line false = Text.dropTrailingSpaces (((Decimal.ofNat e.position).padLeft 6 ++ ("  " : Text) ++
        e.kind.name) ++ Text.spaces (10 - e.kind.name.length)) := by
      simp only [line, htext, Paint.applyIf, Bool.false_eq_true, if_false, Text.padRight_eq, List.append_assoc,
        List.append_nil]
    rw [hline, Text.dropTrailingSpaces_append_spaces, hname, ← List.append_assoc, Text.dropTrailingSpaces_concat hc]
    simp [textColumn, htext, Text.padLeft_eq, hspaces]
  | some t =>
    have hmark : Quoted.mark t ≠ CodePoint.ofChar ' ' := by
      rcases Quoted.isMark_mark t with h | h <;> rw [h] <;> decide
    have hline : e.line false = Text.dropTrailingSpaces (((Decimal.ofNat e.position).padLeft 6 ++ ("  " : Text) ++
        e.kind.name.padRight 10 ++ CodePoint.ofChar ' ' :: Quoted.mark t :: t.flatMap (Quoted.escape (Quoted.mark t))) ++
          [Quoted.mark t]) := by
      simp only [line, htext, Paint.applyIf, Bool.false_eq_true, if_false, Quoted.quote, List.append_assoc]
      rfl
    rw [hline, Text.dropTrailingSpaces_concat hmark]
    simp [textColumn, htext, Text.padLeft_eq, Text.padRight_eq, hspaces, Quoted.quote]

theorem head_textColumn (e : Entry) : ∀ c ∈ e.textColumn.head?, c = CodePoint.ofChar ' ' := by
  intro c hc
  rw [textColumn] at hc
  cases htext : e.text with
  | none => simp [htext] at hc
  | some t =>
    rw [htext] at hc
    cases hn : 10 - e.kind.name.length with
    | zero => simpa [hn, Text.spaces, eq_comm] using hc
    | succ n => simpa [hn, Text.spaces, List.replicate_succ, eq_comm] using hc

/-- The last column determines the text, and that there is one. -/
theorem text_eq_of_textColumn {e e' : Entry} (hkind : e.kind = e'.kind) (h : e.textColumn = e'.textColumn) :
    e.text = e'.text := by
  rw [textColumn, textColumn, hkind] at h
  cases htext : e.text with
  | none =>
    cases htext' : e'.text with
    | none => rfl
    | some t' => simp [htext, htext'] at h
  | some t =>
    cases htext' : e'.text with
    | none => simp [htext, htext'] at h
    | some t' =>
      rw [htext, htext'] at h
      have hquote := (List.cons.inj (List.append_cancel_left h)).2
      obtain ⟨rfl, -⟩ := Quoted.quote_append_unique (congrArg (· ++ []) hquote)
      rfl

/-- **Lines.** Different entries have different lines. -/
theorem line_injective : Function.Injective (Entry.line false) := by
  -- Column by column, each up to the first code point that it cannot hold.
  intro e e' h
  rw [line_eq, line_eq] at h
  have hspace : ∀ n, ∀ c ∈ Text.spaces n, (c == CodePoint.ofChar ' ') = true := by
    intro n c hc
    rw [Text.eq_of_mem_spaces hc]
    rfl
  have hnumeral : ∀ (n : Nat) (t : Text), ∀ c ∈ (Decimal.ofNat n ++ t).head?, (c == CodePoint.ofChar ' ') = false := by
    intro n t c hc
    obtain ⟨d, ds, hds, hd⟩ := Decimal.exists_ofNat_eq_cons n
    rw [hds, List.cons_append, List.head?_cons, Option.mem_some_iff] at hc
    subst hc
    rw [beq_eq_false_iff_ne]
    rintro rfl
    exact absurd hd (by decide)
  have hname : ∀ e : Entry, ∀ c ∈ e.textColumn.head?, c.isAsciiLetter = false := by
    intro e c hc
    rw [e.head_textColumn c hc]
    decide
  have hgap : ∀ t : Text, ∀ c ∈ (CodePoint.ofChar ' ' :: t).head?, c.isAsciiDigit = false := by
    intro t c hc
    rw [List.head?_cons, Option.mem_some_iff] at hc
    rw [← hc]
    decide
  obtain ⟨-, hnumerals⟩ := span_unique (hspace _) (hnumeral _ _) (hspace _) (hnumeral _ _) h
  obtain ⟨hposition, hnames⟩ := span_unique (p := CodePoint.isAsciiDigit)
    (fun c hc => Decimal.isAsciiDigit_of_mem_ofNat hc) (hgap _) (fun c hc => Decimal.isAsciiDigit_of_mem_ofNat hc)
    (hgap _) hnumerals
  obtain ⟨hkind, htexts⟩ := TokenKind.name_append_unique (hname e) (hname e')
    (List.cons.inj (List.cons.inj hnames).2).2
  have htext := text_eq_of_textColumn hkind htexts
  cases e
  cases e'
  obtain rfl := Decimal.ofNat_injective hposition
  obtain rfl := hkind
  obtain rfl := htext
  rfl

end Entry

theorem Transcript.entryLines_eq_iff (s s' : Transcript) :
    s.entryLines false = s'.entryLines false ↔ s.entries = s'.entries :=
  (List.map_injective_iff.2 Entry.line_injective).eq_iff

/-! ### Tokens on one line -/

namespace Token

/-- What a token on one line shows behind its kind. -/
def afterKind (t : Token) : Text :=
  if t.kind.hasText then
    CodePoint.ofChar '(' :: (Quoted.quote t.text ++
      CodePoint.ofChar ')' :: CodePoint.ofChar '@' :: Decimal.ofInt t.position)
  else CodePoint.ofChar '@' :: Decimal.ofInt t.position

theorem display_eq (t : Token) : t.display = t.kind.name ++ t.afterKind := by
  have hopen : ("(" : Text) = [CodePoint.ofChar '('] := rfl
  have hclose : (")" : Text) = [CodePoint.ofChar ')'] := rfl
  have hat : ("@" : Text) = [CodePoint.ofChar '@'] := rfl
  rw [display, afterKind, hopen, hclose, hat]
  cases t.kind.hasText <;> simp

theorem head_afterKind (t : Token) : ∀ c ∈ t.afterKind.head?, c.isAsciiLetter = false := by
  intro c hc
  rw [afterKind] at hc
  split at hc <;> rw [List.head?_cons, Option.mem_some_iff] at hc <;> rw [← hc] <;> decide

/-- **Tokens.** A line shows the kind, the position, and the text of a kind that has one. -/
theorem display_eq_iff (t t' : Token) : t.display = t'.display ↔
    t.kind = t'.kind ∧ t.position = t'.position ∧ (t.kind.hasText = true → t.text = t'.text) := by
  rw [display_eq, display_eq]
  constructor
  · intro h
    obtain ⟨hkind, hrest⟩ := TokenKind.name_append_unique t.head_afterKind t'.head_afterKind h
    rw [afterKind, afterKind, ← hkind] at hrest
    cases htext : t.kind.hasText with
    | false =>
      rw [htext] at hrest
      exact ⟨hkind, Decimal.ofInt_injective (List.cons.inj hrest).2, nofun⟩
    | true =>
      rw [htext] at hrest
      obtain ⟨hquoted, hplace⟩ := Quoted.quote_append_unique (List.cons.inj hrest).2
      exact ⟨hkind, Decimal.ofInt_injective (List.cons.inj (List.cons.inj hplace).2).2, fun _ => hquoted⟩
  · rintro ⟨hkind, hposition, htext⟩
    rw [afterKind, afterKind, ← hkind, ← hposition]
    cases hhas : t.kind.hasText with
    | false => rfl
    | true => rw [htext hhas]

end Token

/-- **Shown texts are unambiguous.** The plain lines of two transcripts are equal just when their entries are: kinds,
positions of any size, and texts, where an empty text is not an absent one.  Tokens on one line are equal just when kind
and position are, and for strings and identifiers the text. -/
theorem shown_eq_iff :
    (∀ s s' : Transcript, s.entryLines false = s'.entryLines false ↔ s.entries = s'.entries) ∧
      ∀ t t' : Token, t.display = t'.display ↔
        t.kind = t'.kind ∧ t.position = t'.position ∧ (t.kind.hasText = true → t.text = t'.text) :=
  ⟨Transcript.entryLines_eq_iff, Token.display_eq_iff⟩

end ParenTokens
