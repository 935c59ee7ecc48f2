import ParenTokens.Proofs.Limits

namespace ParenTokens

/-!
# How loading fails

The steps of loading are written for objects with certain keys, but any value may stand at any place, and each step
fails in its own way on a value that it was not written for.  Here those steps are taken on values of unknown type,
with all their failures, and with the handler that turns some of these into refusals.

* `Transcript.Untyped.Failure`, `Transcript.Untyped.guarded` — the failures of a step, and the handler.
* `Transcript.Untyped.load` — loading by such steps.
* `Transcript.Untyped.Agrees` — under the handler, a computation is one that refuses only; kept by sequencing.
* `Transcript.Untyped.load_eq` — loading by such steps is `Transcript.load`.
* `Transcript.load_refuses_or_restores` — so it refuses a text, or gives a transcript that can be dumped and loaded again.
-/

namespace Transcript.Untyped

/-! ### Failures -/

/-- What a step needs of a value. -/
inductive Use
  | lookup
  | iteration
  | hashing

/-- How a step fails. -/
inductive Failure
  /-- A key is not there. -/
  | missingKey (key : Text)
  /-- A value is of a type that is of no use for the step. -/
  | wrongType (use : Use) (found : Json)
  /-- Fields of a record have wrong values. -/
  | violations (vs : List Violation)
  /-- A value is of a type without the method that is called. -/
  | missingMethod (found : Json)
  /-- The text is refused. -/
  | refused (e : LoadError)

/-- What the handler makes of a failure: it knows missing keys, wrong types and violations, and passes on the rest. -/
def Failure.handled : Failure → Failure
  | missingKey key => refused (.malformed (.missing key))
  | wrongType .lookup found => refused (.malformed (.noObject found))
  | wrongType .iteration found => refused (.malformed (.noItems found))
  | wrongType .hashing found => refused (.malformed (.noName found))
  | violations vs => refused (.malformed (.violations vs))
  | missingMethod found => missingMethod found
  | refused e => refused e

/-- A computation under the handler. -/
def guarded {α : Type} (a : Except Failure α) : Except Failure α := a.mapError Failure.handled

/-! ### Steps -/

/-- The value of a key that is taken to be there. -/
def item (key : Text) : Json → Except Failure Json
  | .object fields =>
    match Json.Fields.get? key fields with
    | some value => .ok value
    | none => .error (.missingKey key)
  | found => .error (.wrongType .lookup found)

/-- The value of a key that may be absent, by a method that only objects have. -/
def itemOrNone (key : Text) : Json → Except Failure (Option Json)
  | .object fields => .ok (Json.Fields.get? key fields)
  | found => .error (.missingMethod found)

def iterate : Json → Except Failure (List Json)
  | .array items => .ok items
  | .string t => .ok (t.map fun c => .string [c])
  | .object fields => .ok (fields.map fun (key, _) => .string key)
  | found => .error (.wrongType .iteration found)

/-- Whether a value is one of the names of kinds. -/
def isKindName (name : Json) : Except Failure Bool :=
  match name with
  | .array _ | .object _ => .error (.wrongType .hashing name)
  | .string t => .ok (TokenKind.ofName? t).isSome
  | _ => .ok false

/-- The kind of a name that is taken to be one. -/
def kindNamed (name : Json) : Except Failure TokenKind :=
  match name with
  | .array _ | .object _ => .error (.wrongType .hashing name)
  | .string t =>
    match TokenKind.ofName? t with
    | some kind => .ok kind
    | none => .error (.missingKey t)
  | other => .error (.missingKey other.display)

/-- The kind of fault of a name, which values of all types may be compared with. -/
def faultKindNamed (name : Json) : Except Failure FaultKind :=
  match name with
  | .string t =>
    match FaultKind.ofName? t with
    | some kind => .ok kind
    | none => .error (.refused (.unknownFaultKind name))
  | _ => .error (.refused (.unknownFaultKind name))

def makeEntry (kind : TokenKind) (position : Json) (text : Option Json) : Except Failure Entry :=
  match position.toPosition, optionalTextOf text with
  | .ok position, .ok text => .ok { kind, position, text }
  | position, text => .error (.violations (violation .position position ++ violation .text text))

def makeFault (kind : FaultKind) (position message : Json) : Except Failure FaultRecord :=
  match position.toPosition, textOf message with
  | .ok position, .ok message => .ok { kind, position, message }
  | position, message => .error (.violations (violation .position position ++ violation .message message))

def makeTranscript (label : Json) (entries : List Entry) (fault : Option FaultRecord) : Except Failure Transcript :=
  match textOf label with
  | .ok label => .ok { label, entries, fault }
  | .error complaint => .error (.violations [⟨.label, complaint⟩])

/-! ### Loading -/

/-- A name is looked up only after it was found to be one. -/
def kindOf (name : Json) : Except Failure TokenKind := do
  if ← isKindName name then kindNamed name else throw (.refused (.unknownKind name))

def entryOf (x : Json) : Except Failure Entry := do
  let kind ← kindOf (← item "type" x)
  let position ← item "pos" x
  let text ← itemOrNone "text" x
  makeEntry kind position text

def faultRecordOf (x : Json) : Except Failure FaultRecord := do
  let kind ← faultKindNamed (← item "kind" x)
  let position ← item "pos" x
  let message ← item "message" x
  makeFault kind position message

def optionalFaultOf (field : Option Json) : Except Failure (Option FaultRecord) :=
  match field with
  | none | some .null => .ok none
  | some x => some <$> faultRecordOf x

def ofJson (x : Json) : Except Failure Transcript := do
  let error ← itemOrNone "error" x
  let label ← item "source" x
  let tokens ← itemOrNone "tokens" x
  let entries ← (← iterate (tokens.getD (.array []))).mapM entryOf
  let fault ← optionalFaultOf error
  makeTranscript label entries fault

def isObject : Json → Bool
  | .object _ => true
  | _ => false

def isVersion : Option Json → Bool
  | some (.string v) => v = version
  | _ => false

/-- Only what follows the check of the version is under the handler. -/
def ofAnyJson (x : Json) : Except Failure Transcript := do
  if !isObject x then throw (.refused .notAnObject)
  let stated ← itemOrNone "v" x
  if !isVersion stated then throw (.refused (.unsupportedVersion (stated.getD .null)))
  guarded (ofJson x)

def load (t : Text) : Except Failure Transcript :=
  match Json.read t with
  | .ok x => ofAnyJson x
  | .error e => .error (.refused (.json e))

/-! ### Agreement -/

/-- Under the handler, the first computation is the second one, which refuses only. -/
def Agrees {α : Type} (a : Except Failure α) (b : Except LoadError α) : Prop :=
  guarded a = b.mapError .refused

section

variable {α β : Type}

theorem agrees_ok (x : α) : Agrees (.ok x) (.ok x) := rfl

theorem agrees_error {f : Failure} {e : LoadError} (h : f.handled = .refused e) :
    Agrees (.error f : Except Failure α) (.error e) :=
  congrArg Except.error h

theorem Agrees.bind {a : Except Failure α} {b : Except LoadError α} {f : α → Except Failure β}
    {g : α → Except LoadError β} (h : Agrees a b) (hnext : ∀ x, Agrees (f x) (g x)) : Agrees (a >>= f) (b >>= g) := by
  -- The handler makes no value of a failure: either both fail here, or both go on with the same value.
  cases a with
  | error failure =>
    cases b with
    | error e => exact agrees_error (Except.error.inj h)
    | ok y => cases h
  | ok x =>
    cases b with
    | error e => cases h
    | ok y =>
      obtain rfl : x = y := Except.ok.inj h
      exact hnext x

theorem Agrees.map {a : Except Failure α} {b : Except LoadError α} (h : Agrees a b) (f : α → β) :
    Agrees (f <$> a) (f <$> b) := by
  rw [map_eq_pure_bind, map_eq_pure_bind]
  exact h.bind fun x => agrees_ok (f x)

theorem Agrees.mapM {f : α → Except Failure β} {g : α → Except LoadError β} (h : ∀ x, Agrees (f x) (g x))
    (xs : List α) : Agrees (xs.mapM f) (xs.mapM g) := by
  induction xs with
  | nil => exact agrees_ok []
  | cons x xs ih =>
    rw [List.mapM_cons, List.mapM_cons]
    exact (h x).bind fun y => ih.bind fun ys => agrees_ok (y :: ys)

end

/-! ### Steps that agree -/

theorem agrees_item (key : Text) (fields : List (Text × Json)) :
    Agrees (item key (.object fields)) (required key fields) := by
  rw [item, required]
  cases Json.Fields.get? key fields <;> rfl

theorem agrees_iterate (x : Json) : Agrees (iterate x) (itemsOf x) := by
  cases x <;> rfl

theorem agrees_kindOf (name : Json) : Agrees (kindOf name) (tokenKindOf name) := by
  cases name with
  | string t =>
    show Agrees (if (TokenKind.ofName? t).isSome then kindNamed (.string t) else _) _
    rw [kindNamed, tokenKindOf]
    cases TokenKind.ofName? t <;> rfl
  | _ => rfl

theorem agrees_faultKindNamed (name : Json) : Agrees (faultKindNamed name) (faultKindOf name) := by
  cases name with
  | string t =>
    rw [faultKindNamed, faultKindOf]
    cases FaultKind.ofName? t <;> rfl
  | _ => rfl

/-- **Entries.** -/
theorem agrees_entryOf (x : Json) : Agrees (entryOf x) (Transcript.entryOf x) := by
  -- Of a value that is no object the first key is looked up in vain, so no method is ever called on it.
  cases x with
  | object fields =>
    show Agrees _ (required "type" fields >>= _)
    rw [entryOf]
    apply (agrees_item "type" fields).bind
    intro name
    apply (agrees_kindOf name).bind
    intro kind
    apply (agrees_item "pos" fields).bind
    intro position
    show Agrees (makeEntry kind position (Json.Fields.get? "text" fields)) _
    rw [makeEntry]
    cases position.toPosition <;> cases optionalTextOf (Json.Fields.get? "text" fields) <;> rfl
  | _ => rfl

/-- **Faults.** -/
theorem agrees_faultRecordOf (x : Json) : Agrees (faultRecordOf x) (Transcript.faultRecordOf x) := by
  cases x with
  | object fields =>
    show Agrees _ (required "kind" fields >>= _)
    rw [faultRecordOf]
    apply (agrees_item "kind" fields).bind
    intro name
    apply (agrees_faultKindNamed name).bind
    intro kind
    apply (agrees_item "pos" fields).bind
    intro position
    apply (agrees_item "message" fields).bind
    intro message
    rw [makeFault]
    cases position.toPosition <;> cases textOf message <;> rfl
  | _ => rfl

theorem agrees_optionalFaultOf (field : Option Json) :
    Agrees (optionalFaultOf field) (Transcript.optionalFaultOf field) := by
  cases field with
  | none => rfl
  | some x =>
    have hfault := (agrees_faultRecordOf x).map some
    cases x with
    | null => rfl
    | _ => exact hfault

/-- **Transcripts.** -/
theorem agrees_ofJson {fields : List (Text × Json)} (h : Json.Fields.get? "v" fields = some (.string version)) :
    Agrees (ofJson (.object fields)) (Transcript.ofJson (.object fields)) := by
  rw [ofJson_of_version h, ofJson]
  -- Methods do not fail on an object, so only the other steps are left to compare.
  show Agrees (item "source" (.object fields) >>= _) _
  apply (agrees_item "source" fields).bind
  intro label
  show Agrees (iterate ((Json.Fields.get? "tokens" fields).getD (.array [])) >>= _) _
  apply (agrees_iterate _).bind
  intro items
  apply (Agrees.mapM agrees_entryOf items).bind
  intro entries
  apply (agrees_optionalFaultOf (Json.Fields.get? "error" fields)).bind
  intro fault
  rw [makeTranscript, labelOf]
  cases textOf label <;> rfl

theorem isVersion_iff {field : Option Json} : isVersion field = true ↔ field = some (.string version) := by
  constructor
  · intro h
    unfold isVersion at h
    split at h
    · rw [of_decide_eq_true h]
    · cases h
  · rintro rfl
    show decide (version = version) = true
    exact decide_eq_true rfl

theorem ofAnyJson_eq (x : Json) : ofAnyJson x = (Transcript.ofJson x).mapError .refused := by
  cases x with
  | object fields =>
    show (if !isVersion (Json.Fields.get? "v" fields) then _ else _ : Except Failure Transcript) = _
    cases hversion : isVersion (Json.Fields.get? "v" fields) with
    | false =>
      have hnot : Json.Fields.get? "v" fields ≠ some (.string version) := by
        intro hstated
        rw [isVersion_iff.2 hstated] at hversion
        cases hversion
      rw [ofJson_of_not_version hnot]
      rfl
    | true => exact agrees_ofJson (isVersion_iff.1 hversion)
  | _ =>
    rw [ofJson_of_not_object (by simp)]
    rfl

/-- **Loading.** The only failures that loading ends with are refusals, and they are those of `Transcript.load`. -/
theorem load_eq (t : Text) : load t = (Transcript.load t).mapError .refused := by
  rw [load, Transcript.load]
  cases Json.read t with
  | error e => rfl
  | ok x => exact ofAnyJson_eq x

end Transcript.Untyped

/-! ### What is loaded -/

namespace Transcript

/-- What is loaded is what the value of the text describes, perhaps a hollow one. -/
theorem exists_read_of_load {t : Text} {s : Transcript} (h : load t = .ok s) :
    ∃ x, Json.read t = .ok x ∧ (Describes x s ∨ DescribesHollow x s) := by
  rw [load] at h
  cases hread : Json.read t with
  | error e =>
    rw [hread] at h
    cases h
  | ok x =>
    rw [hread] at h
    exact ⟨x, rfl, ofJson_eq_ok_iff.1 h⟩

/-- **Refused or loaded for good.** Whatever the text, loading it step by step on values of unknown type either ends in
    a refusal, or gives a transcript; no other failure of a step gets out, and `load` does the same. The positions of the
    transcript are those that the value of the text gives, none of them negative. Its value can be written, and what is
    written is loaded as the same transcript. -/
theorem load_refuses_or_restores (t : Text) :
    (∃ e, Untyped.load t = .error (.refused e) ∧ load t = .error e) ∨
      ∃ s, Untyped.load t = .ok s ∧ load t = .ok s ∧
        (∃ x, Json.read t = .ok x ∧ (Describes x s ∨ DescribesHollow x s)) ∧
        (∀ e ∈ s.entries, 0 ≤ e.toToken.position) ∧ (∀ f ∈ s.fault, 0 ≤ (f.position : Int)) ∧
        s.toJson.write? = some s.dump ∧ Untyped.load s.dump = .ok s ∧ load s.dump = .ok s := by
  cases hload : load t with
  | error e =>
    refine .inl ⟨e, ?_, rfl⟩
    rw [Untyped.load_eq, hload]
    rfl
  | ok s =>
    obtain ⟨x, hread, hdescribes⟩ := exists_read_of_load hload
    have hstorable : s.Storable := storable_of_describes (Json.fits_of_read hread) hdescribes
    -- A loaded transcript keeps the limit on digits, which is all that the way back asks for.
    have hback : load s.dump = .ok s := by
      have hdump : Json.read s.dump = .ok s.toJson := Json.read_write (plain_toJson hstorable)
      rw [load, hdump]
      exact ofJson_toJson s
    refine .inr ⟨s, ?_, rfl, ⟨x, hread, hdescribes⟩, fun e _ => Int.natCast_nonneg e.position,
      fun f _ => Int.natCast_nonneg f.position, write?_toJson hstorable, ?_, hback⟩
    · rw [Untyped.load_eq, hload]
      rfl
    · rw [Untyped.load_eq, hback]
      rfl

-- Without the handler the steps fail in other ways, here for want of a label.
example : Untyped.ofJson (.object [("v", .string "1")]) = .error (.missingKey "source") := rfl

end Transcript

end ParenTokens
