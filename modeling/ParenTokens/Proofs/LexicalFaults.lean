import ParenTokens.Yaml.Lexer

namespace ParenTokens

/-!
# What stops the reading of a YAML text

A text that leaves the grammar is invalid; everything else that stops its reading is a refusal.  The tokens of a text
are had or refused without knowing what its scalars denote, so few refusals are met here.

* `Raises`, `Gives` — what is known of the errors of a computation, and of its result; `Gives.bind` and the other rules
  follow the steps of one.
* `Yaml.Fault.Lexical` — the faults in question.
* `Yaml.Property.raises_readDirective`, `Yaml.QuotedScalar.raises_read` — the two places where something is refused.
* `Yaml.Lexer.raises_fetch` — one token; `Yaml.Lexer.lexical_run` — all of them.
* `Yaml.TokenStream.lexical_ending` — the fault behind the tokens of a text.
-/

/-! ### Rules for computations that may fail -/

/-- If `x` fails, its error has the property `P`; if not, its result has `Q`. -/
def Gives {ε α : Type} (P : ε → Prop) (Q : α → Prop) : Except ε α → Prop
  | .error e => P e
  | .ok a => Q a

/-- If `x` fails, its error has the property `P`. -/
abbrev Raises {ε α : Type} (P : ε → Prop) (x : Except ε α) : Prop := Gives P (fun _ => True) x

section

variable {ε α β : Type} {P : ε → Prop} {Q : α → Prop} {R : β → Prop}

theorem Gives.of_error {x : Except ε α} (h : Gives P Q x) {e : ε} (he : x = .error e) : P e := by
  subst he
  exact h

theorem Gives.bind {x : Except ε α} {f : α → Except ε β} (hx : Gives P Q x) (hf : ∀ a, Q a → Gives P R (f a)) :
    Gives P R (x >>= f) := by
  cases x with
  | error e => exact hx
  | ok a => exact hf a hx

theorem Gives.mono {x : Except ε α} {P' : ε → Prop} {Q' : α → Prop} (h : Gives P Q x) (hP : ∀ e, P e → P' e)
    (hQ : ∀ a, Q a → Q' a) : Gives P' Q' x := by
  cases x with
  | error e => exact hP e h
  | ok a => exact hQ a h

theorem Gives.ite {c : Prop} [Decidable c] {x y : Except ε α} (hx : Gives P Q x) (hy : Gives P Q y) :
    Gives P Q (if c then x else y) := by
  split
  · exact hx
  · exact hy

theorem Raises.ok (a : α) : Raises P (.ok a : Except ε α) := trivial

theorem Raises.bind {x : Except ε α} {f : α → Except ε β} (hx : Raises P x) (hf : ∀ a, Raises P (f a)) :
    Raises P (x >>= f) :=
  Gives.bind hx fun a _ => hf a

/-- What is only done to the result does not fail. -/
theorem Raises.map {x : Except ε α} (hx : Raises P x) (f : α → β) : Raises P (x >>= fun a => pure (f a)) :=
  hx.bind fun a => Raises.ok (f a)

end

namespace Yaml

/-- What stops the reading of a text, before anything is known of what it denotes: it leaves the grammar, or an escape
    has a number beyond the last code point, or a version has a number of too many digits. -/
inductive Fault.Lexical : Fault → Prop
  | invalid : Lexical .invalid
  | codePoint (n : Nat) (h : 0x110000 ≤ n) : Lexical (.refused (.codePoint n))
  | tooManyDigits (count : Nat) (h : Decimal.digitLimit < count) : Lexical (.refused (.tooManyDigits count))

open Yaml.Fault (Lexical)

/-! ### Directives and tags -/

theorem BlockScalar.raises_ignoreLine (p : Place) : Raises Lexical (ignoreLine p) := by
  unfold ignoreLine
  apply Gives.ite
  · exact Raises.ok _
  · exact Lexical.invalid

theorem BlockScalar.raises_readHeader (p : Place) : Raises Lexical (readHeader p) := by
  unfold readHeader
  apply Gives.ite
  · exact Lexical.invalid
  · exact (raises_ignoreLine _).map _

theorem BlockScalar.raises_read (folded : Bool) (indent : Int) (p : Place) : Raises Lexical (read folded indent p) := by
  apply Raises.bind (raises_readHeader p.step)
  rintro ⟨header, q⟩
  apply Gives.ite
  · exact Raises.ok _
  · exact Raises.ok _

namespace Property

theorem raises_readName (p : Place) : Raises Lexical (readName p) := by
  unfold readName
  split
  · exact Lexical.invalid
  · apply Gives.ite
    · exact Raises.ok _
    · exact Lexical.invalid

theorem raises_escapedBytes (steps : Nat) (p : Place) : Raises Lexical (escapedBytes steps p) := by
  induction steps generalizing p with
  | zero => exact Raises.ok _
  | succ steps ih =>
    apply Gives.ite
    · split
      · exact (ih _).map _
      · exact Lexical.invalid
    · exact Raises.ok _

theorem raises_readUriParts (steps : Nat) (p : Place) : Raises Lexical (readUriParts steps p) := by
  induction steps generalizing p with
  | zero => exact Raises.ok _
  | succ steps ih =>
    apply Gives.ite
    · apply Raises.bind (raises_escapedBytes _ p)
      rintro ⟨bytes, q⟩
      simp only
      split
      · exact Lexical.invalid
      · exact (ih q).map _
    · split
      · exact Raises.ok _
      · exact (ih _).map _

theorem raises_readUri (p : Place) : Raises Lexical (readUri p) := by
  apply Gives.ite
  · exact raises_readUriParts _ p
  · exact Lexical.invalid

theorem raises_readHandle (p : Place) : Raises Lexical (readHandle p) := by
  apply Gives.ite
  · exact Lexical.invalid
  apply Gives.ite
  · exact Raises.ok _
  apply Gives.ite
  · exact Raises.ok _
  · exact Lexical.invalid

theorem raises_readTag (p : Place) : Raises Lexical (readTag p) := by
  -- Whatever the tag is, its field must end behind it.
  have hend : ∀ x : Token × Place, Raises Lexical (if endsField x.2.peek then pure (x.1, x.2) else throw .invalid) := by
    intro x
    apply Gives.ite
    · exact Raises.ok _
    · exact Lexical.invalid
  unfold readTag
  simp only
  apply Gives.ite
  · apply Raises.bind (raises_readUri _)
    intro x
    apply Gives.ite
    · exact hend _
    · exact Lexical.invalid
  apply Gives.ite
  · exact hend _
  apply Gives.ite
  · apply Raises.bind (raises_readHandle p)
    intro x
    apply Raises.bind (raises_readUri _)
    intro y
    exact hend _
  · apply Raises.bind (raises_readUri _)
    intro x
    exact hend _

/-- A number is refused only if it has too many digits. -/
theorem raises_readNumber (p : Place) : Raises Lexical (readNumber p) := by
  unfold readNumber
  split
  · exact Lexical.invalid
  · split
    · next ds q _ hlimit => exact Lexical.tooManyDigits _ hlimit
    · exact Raises.ok _

theorem raises_readVersion (p : Place) : Raises Lexical (readVersion p) := by
  apply Raises.bind (raises_readNumber _)
  rintro ⟨major, q⟩
  apply Gives.ite
  · exact Lexical.invalid
  apply Raises.bind (raises_readNumber _)
  rintro ⟨minor, q⟩
  apply Gives.ite
  · exact Raises.ok _
  · exact Lexical.invalid

theorem raises_readHandleMeaning (p : Place) : Raises Lexical (readHandleMeaning p) := by
  apply Raises.bind (raises_readHandle _)
  rintro ⟨name, q⟩
  apply Gives.ite
  · exact Lexical.invalid
  apply Raises.bind (raises_readUri _)
  rintro ⟨uri, q⟩
  apply Gives.ite
  · exact Raises.ok _
  · exact Lexical.invalid

theorem raises_readDirective (p : Place) : Raises Lexical (readDirective p) := by
  have hline : ∀ x : Directive × Place, Raises Lexical (BlockScalar.ignoreLine x.2 >>= fun q => pure (x.1, q)) :=
    fun x => (BlockScalar.raises_ignoreLine x.2).map _
  unfold readDirective
  simp only
  apply Gives.ite
  · exact Lexical.invalid
  apply Gives.ite
  · exact (raises_readVersion _).bind hline
  apply Gives.ite
  · exact (raises_readHandleMeaning _).bind hline
  · exact hline _

end Property

/-! ### Scalars between quotation marks -/

namespace QuotedScalar

theorem raises_breaks (steps : Nat) (p : Place) : Raises Lexical (breaks steps p) := by
  induction steps generalizing p with
  | zero => exact Lexical.invalid
  | succ steps ih =>
    apply Gives.ite
    · exact Lexical.invalid
    · simp only
      split
      · exact Raises.ok _
      · exact (ih _).map _

theorem raises_gap (p : Place) : Raises Lexical (gap p) := by
  apply Gives.ite
  · exact Lexical.invalid
  · simp only
    split
    · exact Raises.ok _
    · exact (raises_breaks _ _).map _

/-- An escape is refused only if its number is beyond the last code point. -/
theorem raises_escaped (p : Place) : Raises Lexical (escaped p) := by
  unfold escaped
  split
  · exact Lexical.invalid
  · -- A letter for a code point, some digits for one, or the end of a line.
    split
    · exact Raises.ok _
    · split
      · exact Lexical.invalid
      · split
        · exact Raises.ok _
        · next n _ hn => exact Lexical.codePoint n (Nat.le_of_not_lt hn)
    · split
      · exact Lexical.invalid
      · exact raises_breaks _ _

theorem raises_readRest (double : Bool) (steps : Nat) (p : Place) : Raises Lexical (readRest double steps p) := by
  induction steps generalizing p with
  | zero => exact Lexical.invalid
  | succ steps ih =>
    rw [readRest]
    simp only
    split
    · exact Lexical.invalid
    · apply Gives.ite
      · apply Raises.bind (raises_gap p)
        intro x
        exact (ih _).map _
      apply Gives.ite
      · apply Gives.ite
        · exact (ih _).map _
        · exact Raises.ok _
      apply Gives.ite
      · apply Raises.bind (raises_escaped p.step)
        intro x
        exact (ih _).map _
      · exact (ih _).map _

theorem raises_read (double : Bool) (p : Place) : Raises Lexical (read double p) :=
  raises_readRest double _ p.step

end QuotedScalar

/-! ### Tokens -/

namespace Lexer

theorem raises_dropStaleKeys (s : Lexer) : Raises Lexical s.dropStaleKeys := by
  apply Gives.ite
  · exact Lexical.invalid
  · exact Raises.ok _

theorem raises_dropKey (s : Lexer) : Raises Lexical s.dropKey := by
  unfold dropKey
  split
  · apply Gives.ite
    · exact Lexical.invalid
    · exact Raises.ok _
  · exact Raises.ok _

theorem raises_saveKey (s : Lexer) : Raises Lexical s.saveKey := by
  apply Gives.ite
  · exact (raises_dropKey s).map _
  · exact Raises.ok _

theorem raises_openBlockHere (t : Token) (s : Lexer) : Raises Lexical (s.openBlockHere t) := by
  apply Gives.ite
  · exact Raises.ok _
  apply Gives.ite
  · exact Raises.ok _
  · exact Lexical.invalid

theorem raises_betweenDocuments (s : Lexer) : Raises Lexical s.betweenDocuments := (raises_dropKey _).map _

theorem raises_fetchEnd (s : Lexer) : Raises Lexical s.fetchEnd := (raises_dropKey _).map _

theorem raises_fetchDirective (s : Lexer) : Raises Lexical s.fetchDirective := by
  apply Raises.bind (raises_betweenDocuments s)
  intro s
  exact (Property.raises_readDirective s.place).map _

theorem raises_fetchFlowStart (t : Token) (s : Lexer) : Raises Lexical (s.fetchFlowStart t) := (raises_saveKey s).map _

theorem raises_fetchFlowEnd (t : Token) (s : Lexer) : Raises Lexical (s.fetchFlowEnd t) := by
  apply Raises.bind (raises_dropKey s)
  intro s
  apply Gives.ite
  · exact Raises.ok _
  · exact Lexical.invalid

theorem raises_fetchFlowEntry (s : Lexer) : Raises Lexical s.fetchFlowEntry := (raises_dropKey _).map _

theorem raises_fetchBlockEntry (s : Lexer) : Raises Lexical s.fetchBlockEntry := by
  apply Raises.bind (raises_openBlockHere _ s)
  intro s
  exact (raises_dropKey _).map _

theorem raises_fetchKey (s : Lexer) : Raises Lexical s.fetchKey := by
  apply Raises.bind (raises_openBlockHere _ s)
  intro s
  exact (raises_dropKey _).map _

theorem raises_fetchValue (s : Lexer) : Raises Lexical s.fetchValue := by
  unfold fetchValue
  split
  · exact Raises.ok _
  · apply Raises.bind (raises_openBlockHere _ s)
    intro s
    exact (raises_dropKey _).map _

theorem raises_fetchProperty {read : Place → Except Fault (Token × Place)} (hread : ∀ p, Raises Lexical (read p))
    (s : Lexer) : Raises Lexical (s.fetchProperty read) := by
  apply Raises.bind (raises_saveKey s)
  intro s
  exact (hread s.place).map _

theorem raises_fetchQuoted (double : Bool) (s : Lexer) : Raises Lexical (s.fetchQuoted double) :=
  raises_fetchProperty (fun p => (QuotedScalar.raises_read double p).map _) s

theorem raises_fetchBlockScalar (folded : Bool) (s : Lexer) : Raises Lexical (s.fetchBlockScalar folded) := by
  apply Raises.bind (raises_dropKey _)
  intro s
  exact (BlockScalar.raises_read folded s.indent s.place).map _

theorem raises_fetchPlain (s : Lexer) : Raises Lexical s.fetchPlain := (raises_saveKey s).map _

theorem raises_fetchAt (c : CodePoint) (next : Option CodePoint) (s : Lexer) : Raises Lexical (s.fetchAt c next) := by
  have hname : ∀ (t : Text → Token) (p : Place),
      Raises Lexical (Property.readName p.step >>= fun x => pure (t x.1, x.2)) :=
    fun t p => (Property.raises_readName p.step).map _
  have hmark : ∀ t : Token, Raises Lexical (s.betweenDocuments >>= fun s => pure (s.sign 3 t)) :=
    fun t => (raises_betweenDocuments s).map _
  unfold fetchAt
  simp only
  -- One case for each sign that a token starts with.
  apply Gives.ite (raises_fetchDirective s)
  apply Gives.ite (hmark .documentStart)
  apply Gives.ite (hmark .documentEnd)
  apply Gives.ite (raises_fetchFlowStart _ s)
  apply Gives.ite (raises_fetchFlowStart _ s)
  apply Gives.ite (raises_fetchFlowEnd _ s)
  apply Gives.ite (raises_fetchFlowEnd _ s)
  apply Gives.ite (raises_fetchFlowEntry s)
  apply Gives.ite (raises_fetchBlockEntry s)
  apply Gives.ite (raises_fetchKey s)
  apply Gives.ite (raises_fetchValue s)
  apply Gives.ite (raises_fetchProperty (hname .reference) s)
  apply Gives.ite (raises_fetchProperty (hname .anchor) s)
  apply Gives.ite (raises_fetchProperty Property.raises_readTag s)
  apply Gives.ite (raises_fetchBlockScalar false s)
  apply Gives.ite (raises_fetchBlockScalar true s)
  apply Gives.ite (raises_fetchQuoted false s)
  apply Gives.ite (raises_fetchQuoted true s)
  apply Gives.ite (raises_fetchPlain s)
  exact Lexical.invalid

theorem raises_fetch (s : Lexer) : Raises Lexical s.fetch := by
  apply Raises.bind (raises_dropStaleKeys _)
  intro s
  simp only
  split
  · exact raises_fetchEnd _
  · exact raises_fetchAt _ _ _

theorem raises_needsMore (s : Lexer) : Raises Lexical s.needsMore := by
  apply Gives.ite
  · exact Raises.ok _
  apply Gives.ite
  · exact Raises.ok _
  · exact (raises_dropStaleKeys s).map _

/-- **All tokens.** However many are given out, what stops that is lexical. -/
theorem lexical_run (steps : Nat) (before : List Token) (s : Lexer) : Lexical (run steps before s).2 := by
  induction steps generalizing before s with
  | zero => exact Lexical.invalid
  | succ steps ih =>
    rw [run]
    -- Either one more token is fetched or one is given out; only the first may fail in a way of its own.
    have hneeds := s.raises_needsMore
    split
    · next e h => exact hneeds.of_error h
    · next s h =>
      have hfetch := s.raises_fetch
      split
      · next e h => exact hfetch.of_error h
      · exact ih _ _
    · split
      · exact Lexical.invalid
      · exact ih _ _

end Lexer

/-- **The fault behind the tokens.** It is lexical, whatever the text is. -/
theorem TokenStream.lexical_ending (t : Text) : Lexical (ofText t).ending := by
  unfold ofText
  split
  · exact Lexer.lexical_run _ _ _
  · exact Lexical.invalid

end Yaml

end ParenTokens
