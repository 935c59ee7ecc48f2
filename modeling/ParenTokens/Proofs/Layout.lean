import ParenTokens.Lexing.Scanner
import Mathlib.Data.List.TakeWhile

namespace ParenTokens

open Cursor (stringMark)

/-!
# Layouts

The grammar of the scanner's input, stated without the scanner: a text is blanks and lexemes in turn.

* `Lexeme` — a parenthesis, a string without an inner mark, or an identifier; each carries its own well-formedness.
* `Layout` — lexemes with the blanks before each and after the last; `Layout.text` writes it, `Layout.tokens` lists
  its tokens from a position on.
* `Layout.Munched l after` — no identifier of `l` could go on, in `l` itself or in the text `after` it.
* `endsOpen` — the last token is an identifier that ends where a text does.
* `Residue` — what cannot begin a lexeme: nothing, an unexpected code point, or a string that is never closed.
* `exists_layout` and `layout_unique` — every text is a munched layout and a residue, in exactly one way.
-/

/-! ### Disjoint classes of code points -/

/-- No blank may start an identifier. -/
theorem isLetter_of_isBlank {c : CodePoint} (h : c.isBlank = true) : c.isLetter = false := by
  have htable : ∀ n ∈ [0x09, 0x0A, 0x0B, 0x0C, 0x0D, 0x20, 0x85, 0xA0, 0x1680, 0x2000, 0x2001, 0x2002, 0x2003,
      0x2004, 0x2005, 0x2006, 0x2007, 0x2008, 0x2009, 0x200A, 0x2028, 0x2029, 0x202F, 0x205F, 0x3000],
      (CodePoint.ofNat n).isLetter = false := by decide +kernel
  have hval := htable c.val (by
    simp only [CodePoint.isBlank, Bool.or_eq_true, Bool.and_eq_true, decide_eq_true_eq, beq_iff_eq] at h
    simp only [List.mem_cons, List.not_mem_nil, or_false]
    omega)
  rwa [CodePoint.ofNat_val] at hval

theorem isLetter_leftParen : (CodePoint.ofChar '(').isLetter = false := by decide +kernel

theorem isLetter_rightParen : (CodePoint.ofChar ')').isLetter = false := by decide +kernel

theorem isLetter_stringMark : stringMark.isLetter = false := by decide +kernel

theorem ne_of_isLetter {c d : CodePoint} (hc : c.isLetter = true) (hd : d.isLetter = false) : c ≠ d := by
  rintro rfl
  rw [hc] at hd
  cases hd

theorem bne_stringMark_of_not_mem {body : Text} (h : stringMark ∉ body) :
    ∀ c ∈ body, (c != stringMark) = true := by
  intro c hc
  rw [bne_iff_ne]
  rintro rfl
  exact h hc

/-- A code point that starts nothing: no blank, no parenthesis, no string mark and no letter. -/
structure CodePoint.StartsNothing (c : CodePoint) : Prop where
  not_blank : c.isBlank = false
  not_letter : c.isLetter = false
  ne_leftParen : c ≠ CodePoint.ofChar '('
  ne_rightParen : c ≠ CodePoint.ofChar ')'
  ne_stringMark : c ≠ stringMark

/-! ### Lexemes -/

/-- A run of blanks, perhaps empty. -/
abbrev Blanks := { w : Text // ∀ c ∈ w, c.isBlank = true }

/-- What stands for one token in a text. -/
inductive Lexeme
  | leftParen
  | rightParen
  | string (body : Text) (unmarked : stringMark ∉ body)
  | identifier (first : CodePoint) (more : Text) (letter : first.isLetter = true)
      (continues : ∀ c ∈ more, c.continuesIdentifier = true)

namespace Lexeme

/-- How a lexeme is written. -/
def written : Lexeme → Text
  | leftParen => [CodePoint.ofChar '(']
  | rightParen => [CodePoint.ofChar ')']
  | string body _ => stringMark :: (body ++ [stringMark])
  | identifier first more _ _ => first :: more

def kind : Lexeme → TokenKind
  | leftParen => .leftParen
  | rightParen => .rightParen
  | string .. => .string
  | identifier .. => .identifier

/-- The text that its token carries. -/
def content : Lexeme → Text
  | leftParen | rightParen => []
  | string body _ => body
  | identifier first more _ _ => first :: more

/-- The token of a lexeme that stands at a position. -/
def token (x : Lexeme) (position : Nat) : Token := ⟨x.kind, position, x.content⟩

/-- A lexeme that what follows could make longer: only an identifier. -/
def isOpen : Lexeme → Bool
  | identifier .. => true
  | leftParen | rightParen | string .. => false

/-- The lexeme does not go on in the text `after` it. -/
def EndsBefore (x : Lexeme) (after : Text) : Prop :=
  x.isOpen = true → ∀ c ∈ after.head?, c.continuesIdentifier = false

@[simp] theorem token_kind (x : Lexeme) (position : Nat) : (x.token position).kind = x.kind := rfl

theorem kind_ne_endOfInput (x : Lexeme) : x.kind ≠ .endOfInput := by cases x <;> simp [kind]

/-- A lexeme starts with no blank. -/
theorem exists_written_eq_cons (x : Lexeme) : ∃ c u, x.written = c :: u ∧ c.isBlank = false := by
  cases x with
  | leftParen => exact ⟨_, _, rfl, by decide⟩
  | rightParen => exact ⟨_, _, rfl, by decide⟩
  | string body h => exact ⟨_, _, rfl, by decide⟩
  | identifier first more hf hm =>
    refine ⟨_, _, rfl, ?_⟩
    by_contra hb
    rw [Bool.not_eq_false] at hb
    exact ne_of_isLetter hf (isLetter_of_isBlank hb) rfl

theorem head_not_blank (x : Lexeme) (t : Text) : ∀ c ∈ (x.written ++ t).head?, c.isBlank = false := by
  intro c hc
  obtain ⟨d, u, hd, hblank⟩ := x.exists_written_eq_cons
  obtain rfl : d = c := by simpa [hd] using hc
  exact hblank

end Lexeme

/-! ### Layouts -/

/-- A text cut into lexemes, with the blanks before each and after the last. -/
inductive Layout
  | blanks (w : Blanks)
  | lexeme (w : Blanks) (x : Lexeme) (more : Layout)

namespace Layout

/-- The text that is laid out. -/
def text : Layout → Text
  | blanks w => w
  | lexeme w x more => w ++ (x.written ++ more.text)

/-- A token for each lexeme, where the first blank stands at `position`. -/
def tokens (position : Nat) : Layout → List Token
  | blanks _ => []
  | lexeme w x more =>
    x.token (position + w.val.length) :: more.tokens (position + w.val.length + x.written.length)

/-- No identifier could have been read further, neither in the layout nor in the text after it. -/
def Munched (after : Text) : Layout → Prop
  | blanks _ => True
  | lexeme _ x more => x.EndsBefore (more.text ++ after) ∧ more.Munched after

/-- The last lexeme is an identifier and no blank stands behind it. -/
def isOpen : Layout → Bool
  | blanks _ => false
  | lexeme _ x more => x.isOpen && more.text.isEmpty || more.isOpen

/-- A layout that is munched before some text is munched before nothing. -/
theorem Munched.nil {l : Layout} {after : Text} (h : l.Munched after) : l.Munched [] := by
  induction l with
  | blanks w => trivial
  | lexeme w x more ih =>
    obtain ⟨hx, hmore⟩ := h
    refine ⟨fun hopen c hc => hx hopen c ?_, ih hmore⟩
    rw [List.append_nil] at hc
    rw [List.head?_append, Option.mem_def.1 hc]
    rfl

theorem tokens_of_text_nil {l : Layout} (h : l.text = []) (position : Nat) : l.tokens position = [] := by
  cases l with
  | blanks w => rfl
  | lexeme w x more =>
    obtain ⟨c, u, hc, _⟩ := x.exists_written_eq_cons
    simp [text, hc] at h

theorem tokens_ne_nil_of_isOpen {l : Layout} (h : l.isOpen = true) (position : Nat) : l.tokens position ≠ [] := by
  cases l with
  | blanks w => cases h
  | lexeme w x more => simp [tokens]

theorem kind_ne_of_mem_tokens {l : Layout} {position : Nat} {t : Token} (h : t ∈ l.tokens position) :
    t.kind ≠ .endOfInput := by
  induction l generalizing position with
  | blanks w => cases h
  | lexeme w x more ih =>
    rcases List.mem_cons.1 h with rfl | h
    · exact x.kind_ne_endOfInput
    · exact ih h

end Layout

/-! ### Open ends -/

/-- The last of some tokens is an identifier that ends at the position `stop`. -/
def endsOpen (stop : Nat) (ts : List Token) : Bool :=
  ts.getLast?.any fun t => t.kind == .identifier && t.position + t.text.length == (stop : Int)

theorem endsOpen_cons_cons (stop : Nat) (t t' : Token) (ts : List Token) :
    endsOpen stop (t :: t' :: ts) = endsOpen stop (t' :: ts) := rfl

theorem Lexeme.endsOpen_token (x : Lexeme) (position after : Nat) :
    endsOpen (position + x.written.length + after) [x.token position] = (x.isOpen && after == 0) := by
  cases x with
  | leftParen => rfl
  | rightParen => rfl
  | string body hb => rfl
  | identifier first more hf hm =>
    rw [Bool.eq_iff_iff]
    simp only [endsOpen, token, kind, content, written, isOpen, List.getLast?_singleton, Option.any_some,
      Bool.and_eq_true, beq_iff_eq, true_and]
    omega

/-- The tokens of a layout end open iff the layout does and the position is that of its end. -/
theorem Layout.endsOpen_tokens (l : Layout) (position after : Nat) :
    endsOpen (position + l.text.length + after) (l.tokens position) = (l.isOpen && after == 0) := by
  induction l generalizing position with
  | blanks w => rfl
  | lexeme w x more ih =>
    have hlength : position + (lexeme w x more).text.length + after =
        position + w.val.length + x.written.length + more.text.length + after := by
      simp only [text, List.length_append]
      omega
    rw [hlength]
    cases more with
    | blanks w' =>
      -- The lexeme is the last one; what stands behind it are the blanks and whatever comes after.
      have hlast := x.endsOpen_token (position + w.val.length) (w'.val.length + after)
      rw [← Nat.add_assoc] at hlast
      rw [tokens, tokens, text, hlast, Bool.eq_iff_iff]
      simp [isOpen, text, and_assoc]
    | lexeme w' x' more' =>
      have hnonempty : (lexeme w' x' more').text.isEmpty = false := by
        obtain ⟨c, u, hc, _⟩ := x'.exists_written_eq_cons
        simp [text, hc]
      rw [tokens, isOpen, hnonempty, Bool.and_false, Bool.false_or, ← ih]
      exact endsOpen_cons_cons ..

/-- What is left of a text when no further lexeme can be read. -/
inductive Residue
  | nothing
  | unexpected (c : CodePoint) (more : Text) (h : c.StartsNothing)
  | openString (body : Text) (unmarked : stringMark ∉ body)

def Residue.text : Residue → Text
  | nothing => []
  | unexpected c more _ => c :: more
  | openString body _ => stringMark :: body

theorem Residue.eq_nothing_of_text_nil {z : Residue} (h : z.text = []) : z = .nothing := by
  cases z with
  | nothing => rfl
  | unexpected c more hc => cases h
  | openString body hb => cases h

/-- A residue starts with no blank. -/
theorem Residue.head_not_blank (z : Residue) : ∀ c ∈ z.text.head?, c.isBlank = false := by
  intro c hc
  cases z with
  | nothing => cases hc
  | unexpected d more h =>
    obtain rfl : d = c := by simpa [text] using hc
    exact h.not_blank
  | openString body h =>
    obtain rfl : stringMark = c := by simpa [text] using hc
    decide

/-! ### There is at most one layout -/

/-- A list is cut in one way into items with a property and a rest that does not go on with it. -/
theorem span_unique {α : Type} {p : α → Bool} {u v u' v' : List α} (hu : ∀ c ∈ u, p c = true)
    (hv : ∀ c ∈ v.head?, p c = false) (hu' : ∀ c ∈ u', p c = true) (hv' : ∀ c ∈ v'.head?, p c = false)
    (h : u ++ v = u' ++ v') : u = u' ∧ v = v' := by
  have hnil : ∀ v : List α, (∀ c ∈ v.head?, p c = false) → v.takeWhile p = [] := by
    intro v hv
    cases v with
    | nil => rfl
    | cons c v => rw [List.takeWhile_cons_of_neg (by simp [hv c (by simp)])]
  have htake := congrArg (List.takeWhile p) h
  rw [List.takeWhile_append_of_pos hu, List.takeWhile_append_of_pos hu', hnil v hv, hnil v' hv',
    List.append_nil, List.append_nil] at htake
  subst htake
  exact ⟨rfl, List.append_cancel_left h⟩

namespace Lexeme

/-- The kind of lexeme that a code point starts, if it starts one. -/
def kindAt (c : CodePoint) : TokenKind :=
  if c = CodePoint.ofChar '(' then .leftParen
  else if c = CodePoint.ofChar ')' then .rightParen
  else if c = stringMark then .string
  else .identifier

theorem kind_eq_kindAt {x : Lexeme} {c : CodePoint} {u : Text} (h : x.written = c :: u) :
    x.kind = kindAt c := by
  cases x with
  | leftParen =>
    obtain rfl : CodePoint.ofChar '(' = c := (List.cons.inj h).1
    rfl
  | rightParen =>
    obtain rfl : CodePoint.ofChar ')' = c := (List.cons.inj h).1
    rfl
  | string body hb =>
    obtain rfl : stringMark = c := (List.cons.inj h).1
    rfl
  | identifier first more hf hm =>
    obtain rfl : first = c := (List.cons.inj h).1
    simp [kind, kindAt, ne_of_isLetter hf isLetter_leftParen, ne_of_isLetter hf isLetter_rightParen,
      ne_of_isLetter hf isLetter_stringMark]

/-- Two lexemes that end where they stand and are read off the same text are the same. -/
theorem written_unique {x x' : Lexeme} {t t' : Text} (hx : x.EndsBefore t) (hx' : x'.EndsBefore t')
    (h : x.written ++ t = x'.written ++ t') : x = x' ∧ t = t' := by
  have hkind : x.kind = x'.kind := by
    obtain ⟨c, u, hc, _⟩ := x.exists_written_eq_cons
    obtain ⟨c', u', hc', _⟩ := x'.exists_written_eq_cons
    rw [hc, hc', List.cons_append, List.cons_append, List.cons.injEq] at h
    rw [kind_eq_kindAt hc, kind_eq_kindAt hc', h.1]
  cases x <;> cases x' <;> simp only [kind, reduceCtorEq] at hkind
  case leftParen.leftParen => exact ⟨rfl, List.append_cancel_left h⟩
  case rightParen.rightParen => exact ⟨rfl, List.append_cancel_left h⟩
  case string.string body hb body' hb' =>
    simp only [written, List.cons_append, List.append_assoc, List.cons.injEq, true_and, List.nil_append] at h
    -- Each body goes on to the first mark behind it.
    obtain ⟨rfl, ht⟩ := span_unique (bne_stringMark_of_not_mem hb) (by simp) (bne_stringMark_of_not_mem hb')
      (by simp) h
    exact ⟨rfl, (List.cons.inj ht).2⟩
  case identifier.identifier first more hf hm first' more' hf' hm' =>
    simp only [written, List.cons_append, List.cons.injEq] at h
    obtain ⟨rfl, h⟩ := h
    obtain ⟨rfl, ht⟩ := span_unique hm (hx rfl) hm' (hx' rfl) h
    exact ⟨rfl, ht⟩

end Lexeme

/-- No lexeme stands at the front of a residue. -/
theorem Residue.ne_written_append (z : Residue) (x : Lexeme) (t : Text) : z.text ≠ x.written ++ t := by
  intro h
  obtain ⟨c, u, hc, _⟩ := x.exists_written_eq_cons
  cases z with
  | nothing => simp [text, hc] at h
  | unexpected d more hd =>
    simp only [text] at h
    cases x with
    | leftParen => exact hd.ne_leftParen (List.cons.inj h).1
    | rightParen => exact hd.ne_rightParen (List.cons.inj h).1
    | string body hb => exact hd.ne_stringMark (List.cons.inj h).1
    | identifier first more' hf hm =>
      exact ne_of_isLetter hf hd.not_letter (List.cons.inj h).1.symm
  | openString body hb =>
    have hkind : x.kind = .string := by
      rw [hc, List.cons_append] at h
      obtain rfl : stringMark = c := (List.cons.inj h).1
      exact Lexeme.kind_eq_kindAt hc
    -- A string would put its closing mark into the open one.
    cases x <;> simp only [Lexeme.kind, reduceCtorEq] at hkind
    case string body' hb' =>
      have hbody : body = body' ++ [stringMark] ++ t := (List.cons.inj h).2
      exact hb (by simp [hbody])

theorem Residue.text_injective {z z' : Residue} (h : z.text = z'.text) : z = z' := by
  cases z <;> cases z' <;> simp only [text, List.cons.injEq, reduceCtorEq] at h
  case nothing.nothing => rfl
  case unexpected.unexpected => obtain ⟨rfl, rfl⟩ := h; rfl
  case unexpected.openString c more hc body hb => exact absurd h.1 hc.ne_stringMark
  case openString.unexpected body hb c more hc => exact absurd h.1.symm hc.ne_stringMark
  case openString.openString => obtain ⟨-, rfl⟩ := h; rfl

/-- **Uniqueness.** A text is a munched layout and a residue in at most one way. -/
theorem layout_unique {l l' : Layout} {z z' : Residue} (hl : l.Munched z.text) (hl' : l'.Munched z'.text)
    (h : l.text ++ z.text = l'.text ++ z'.text) : l = l' ∧ z = z' := by
  -- Blanks end where none follows, so the leading ones agree; then the first lexemes do.
  induction l generalizing l' with
  | blanks w =>
    cases l' with
    | blanks w' =>
      obtain ⟨hw, hz⟩ := span_unique w.2 z.head_not_blank w'.2 z'.head_not_blank h
      exact ⟨by rw [Subtype.ext hw], Residue.text_injective hz⟩
    | lexeme w' x' more' =>
      simp only [Layout.text, List.append_assoc] at h
      obtain ⟨_, hz⟩ := span_unique w.2 z.head_not_blank w'.2 (x'.head_not_blank _) h
      exact absurd hz (z.ne_written_append _ _)
  | lexeme w x more ih =>
    cases l' with
    | blanks w' =>
      simp only [Layout.text, List.append_assoc] at h
      obtain ⟨_, hz⟩ := span_unique w.2 (x.head_not_blank _) w'.2 z'.head_not_blank h
      exact absurd hz.symm (z'.ne_written_append _ _)
    | lexeme w' x' more' =>
      simp only [Layout.text, List.append_assoc] at h
      obtain ⟨hw, hx⟩ := span_unique w.2 (x.head_not_blank _) w'.2 (x'.head_not_blank _) h
      obtain ⟨rfl, hmore⟩ := Lexeme.written_unique hl.1 hl'.1 hx
      obtain ⟨rfl, hz⟩ := ih hl.2 hl'.2 hmore
      exact ⟨by rw [Subtype.ext hw], hz⟩

theorem layout_unique_of_text {l l' : Layout} (hl : l.Munched []) (hl' : l'.Munched [])
    (h : l.text = l'.text) : l = l' := by
  have hz : Residue.nothing.text = [] := rfl
  rw [← hz] at hl hl'
  exact (layout_unique hl hl' (by rw [h])).1

/-! ### There is a layout -/

theorem head_dropWhile_eq_false {α : Type} (p : α → Bool) (l : List α) :
    ∀ c ∈ (l.dropWhile p).head?, p c = false := by
  intro c hc
  have h := List.head?_dropWhile_not p l
  rw [Option.mem_def.1 hc] at h
  simpa using h

/-- Where no blank stands, a lexeme starts or the text is a residue. -/
theorem exists_lexeme_or_residue {c : CodePoint} {u : Text} (hblank : c.isBlank = false) :
    (∃ (x : Lexeme) (t : Text), c :: u = x.written ++ t ∧ x.EndsBefore t) ∨
      ∃ z : Residue, c :: u = z.text := by
  by_cases hl : c = CodePoint.ofChar '('
  · exact .inl ⟨.leftParen, u, by rw [hl]; rfl, nofun⟩
  by_cases hr : c = CodePoint.ofChar ')'
  · exact .inl ⟨.rightParen, u, by rw [hr]; rfl, nofun⟩
  by_cases hm : c = stringMark
  · subst hm
    -- The string is closed iff a further mark follows.
    have hbody : stringMark ∉ u.takeWhile (· != stringMark) := by
      intro h
      simpa using List.mem_takeWhile_imp h
    have hstop := head_dropWhile_eq_false (· != stringMark) u
    have hsplit := List.takeWhile_append_dropWhile (p := (· != stringMark)) (l := u)
    cases hrest : u.dropWhile (· != stringMark) with
    | nil =>
      rw [hrest, List.append_nil] at hsplit
      exact .inr ⟨.openString _ hbody, by rw [Residue.text, hsplit]⟩
    | cons d t =>
      rw [hrest] at hstop hsplit
      obtain rfl : d = stringMark := by simpa using hstop d (by simp)
      exact .inl ⟨.string _ hbody, t, by simp [Lexeme.written, hsplit], nofun⟩
  by_cases hletter : c.isLetter = true
  · refine .inl ⟨.identifier c (u.takeWhile CodePoint.continuesIdentifier) hletter ?_,
      u.dropWhile CodePoint.continuesIdentifier, ?_, fun _ => head_dropWhile_eq_false _ u⟩
    · exact fun d hd => List.mem_takeWhile_imp hd
    · simp [Lexeme.written, List.takeWhile_append_dropWhile]
  · have hc : c.StartsNothing := ⟨hblank, by simpa using hletter, hl, hr, hm⟩
    exact .inr ⟨.unexpected c u hc, rfl⟩

/-- **Existence.** Every text is a munched layout and a residue. -/
theorem exists_layout (s : Text) : ∃ (l : Layout) (z : Residue), s = l.text ++ z.text ∧ l.Munched z.text := by
  let w : Blanks := ⟨s.takeWhile CodePoint.isBlank, fun c hc => List.mem_takeWhile_imp hc⟩
  have hsplit : s = w.val ++ s.dropWhile CodePoint.isBlank := List.takeWhile_append_dropWhile.symm
  have hstop := head_dropWhile_eq_false CodePoint.isBlank s
  -- Behind the blanks stands a lexeme, before a shorter text, or the residue.
  cases hrest : s.dropWhile CodePoint.isBlank with
  | nil => exact ⟨.blanks w, .nothing, by rwa [hrest] at hsplit, trivial⟩
  | cons c u =>
    rw [hrest] at hsplit hstop
    rcases exists_lexeme_or_residue (u := u) (hstop c rfl) with ⟨x, t, hxt, hends⟩ | ⟨z, hz⟩
    · have hshort : t.length < s.length := by
        obtain ⟨d, v, hd, _⟩ := x.exists_written_eq_cons
        rw [hsplit, hxt, hd]
        simp only [List.length_append, List.length_cons]
        omega
      obtain ⟨l, z, rfl, hl⟩ := exists_layout t
      exact ⟨.lexeme w x l, z, by rw [hsplit, hxt]; simp [Layout.text], hends, hl⟩
    · exact ⟨.blanks w, z, by rw [hsplit, hz]; rfl, trivial⟩
termination_by s.length

end ParenTokens
