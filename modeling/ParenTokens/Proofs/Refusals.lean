import ParenTokens.Proofs.LexicalFaults
import ParenTokens.Yaml.Document

namespace ParenTokens

/-!
# Where a refusal comes from

A document passes through the tokens of its text, the graph that they compose and the values of the graph, and each of
them may fail.  Composing brings no refusal of its own, nor does merging mappings; so a refusal is that of a token, or
there is a graph and one of its scalars is not what its tag asks for.

* `Keeps` — the rules for computations with a state that keep a property of it, beside those of `Gives`.
* `Yaml.Draft.composesNodes`, `Yaml.Graph.raises_ofTokens` — composing fails with the end of the tokens at most.
* `Yaml.Graph.Stays` — what merging keeps of a graph; `Yaml.Graph.gives_flatten`.
* `Yaml.Graph.Denies` — why a graph has no values; `Yaml.Document.raises_ofGraph`.
* `Yaml.Document.origin_of_refused` — the origin of any refusal.
-/

/-! ### Rules for computations with a state -/

/-- Started where `I` holds, `m` ends where `I` holds, or fails with an error that has the property `P`. -/
def Keeps {ε σ α : Type} (P : ε → Prop) (I : σ → Prop) (m : StateT σ (Except ε) α) : Prop :=
  ∀ s, I s → Gives P (fun x => I x.2) (m.run s)

section

variable {ε σ α β : Type} {P : ε → Prop} {I : σ → Prop}

theorem gives_foldlM {Q : β → Prop} {f : β → α → Except ε β} (hf : ∀ b a, Q b → Gives P Q (f b a)) {b : β} (hb : Q b)
    (l : List α) : Gives P Q (l.foldlM f b) := by
  induction l generalizing b with
  | nil => exact hb
  | cons a l ih =>
    rw [List.foldlM_cons]
    exact (hf b a hb).bind fun b' hb' => ih hb'

theorem keeps_pure (a : α) : Keeps P I (pure a : StateT σ (Except ε) α) := fun _ hs => hs

theorem keeps_throw {e : ε} (h : P e) : Keeps P I (throw e : StateT σ (Except ε) α) := fun _ _ => h

theorem Keeps.bind {m : StateT σ (Except ε) α} {f : α → StateT σ (Except ε) β} (hm : Keeps P I m)
    (hf : ∀ a, Keeps P I (f a)) : Keeps P I (m >>= f) :=
  fun s hs => Gives.bind (hm s hs) fun x hx => hf x.1 x.2 hx

/-- What follows may use that the property holds of the state. -/
theorem keeps_get_bind {f : σ → StateT σ (Except ε) β} (hf : ∀ s, I s → Keeps P I (f s)) : Keeps P I (get >>= f) :=
  fun s hs => hf s hs s hs

theorem keeps_set {s : σ} (h : I s) : Keeps P I (set s : StateT σ (Except ε) PUnit) := fun _ _ => h

theorem keeps_modify {f : σ → σ} (h : ∀ s, I s → I (f s)) : Keeps P I (modify f : StateT σ (Except ε) PUnit) :=
  fun s hs => h s hs

/-- A computation without the state changes nothing of it. -/
theorem keeps_lift_bind {Q : α → Prop} {x : Except ε α} {f : α → StateT σ (Except ε) β} (hx : Gives P Q x)
    (hf : ∀ a, Q a → Keeps P I (f a)) : Keeps P I (liftM x >>= f) := by
  intro s hs
  cases x with
  | error e => exact hx
  | ok a => exact hf a hx s hs

theorem Keeps.ite {c : Prop} [Decidable c] {m n : StateT σ (Except ε) α} (hm : Keeps P I m) (hn : Keeps P I n) :
    Keeps P I (if c then m else n) := by
  split
  · exact hm
  · exact hn

theorem Keeps.map {m : StateT σ (Except ε) α} (hm : Keeps P I m) (f : α → β) :
    Keeps P I (m >>= fun a => pure (f a)) :=
  hm.bind fun a => keeps_pure (f a)

theorem keeps_mapM {f : α → StateT σ (Except ε) β} (hf : ∀ a, Keeps P I (f a)) (l : List α) :
    Keeps P I (l.mapM f) := by
  induction l with
  | nil => exact keeps_pure []
  | cons a l ih =>
    rw [List.mapM_cons]
    exact (hf a).bind fun b => ih.map _

theorem keeps_foldlM {f : β → α → StateT σ (Except ε) β} (hf : ∀ b a, Keeps P I (f b a)) (l : List α) (b : β) :
    Keeps P I (l.foldlM f b) := by
  induction l generalizing b with
  | nil => exact keeps_pure b
  | cons a l ih =>
    rw [List.foldlM_cons]
    exact (hf b a).bind ih

end

namespace Yaml

open Yaml.Fault (Lexical)

namespace Draft

variable {z : Fault}

abbrev Composes {α : Type} (z : Fault) (m : Reading α) : Prop :=
  Keeps (fun e => e = .invalid ∨ e = z) (fun s => s.ending = z) m

theorem composes_invalid {α : Type} : Composes z (throw .invalid : Reading α) := keeps_throw (.inl rfl)

theorem composes_peek : Composes z peek := by
  apply keeps_get_bind
  intro s hs
  split
  · exact keeps_throw (.inr hs)
  · exact keeps_pure _

theorem composes_drop : Composes z drop := keeps_modify fun _ hs => hs

theorem composes_next : Composes z next := by
  apply Keeps.bind composes_peek
  intro t
  exact Keeps.bind composes_drop fun _ => keeps_pure t

theorem composes_add (tag : Tag) (content : Content) : Composes z (add tag content) := by
  apply keeps_get_bind
  intro s hs
  exact Keeps.bind (keeps_set hs) fun _ => keeps_pure _

theorem composes_fill (id : Nat) (content : Content) : Composes z (fill id content) := keeps_modify fun _ hs => hs

theorem composes_missing : Composes z missing := composes_add _ _

theorem composes_resolveHandle (handle : Option Text) (suffix : Text) : Composes z (resolveHandle handle suffix) := by
  unfold resolveHandle
  split
  · exact keeps_pure _
  · apply keeps_get_bind
    intro s hs
    split
    · exact composes_invalid
    · exact keeps_pure _

theorem composes_readProperties : Composes z readProperties := by
  apply Keeps.bind composes_peek
  intro t
  -- An anchor before a tag, a tag before an anchor, or neither.
  split
  · apply Keeps.bind composes_drop
    intro _
    apply Keeps.bind composes_peek
    intro t
    split
    · apply Keeps.bind composes_drop
      intro _
      exact (composes_resolveHandle _ _).map _
    · exact keeps_pure _
  · apply Keeps.bind composes_drop
    intro _
    apply Keeps.bind composes_peek
    intro t
    split
    · apply Keeps.bind composes_drop
      intro _
      exact (composes_resolveHandle _ _).map _
    · exact (composes_resolveHandle _ _).map _
  · exact keeps_pure _

theorem composes_addAnchored (ps : Properties) (tag : Tag) (content : Content) :
    Composes z (addAnchored ps tag content) := by
  unfold addAnchored
  split
  · exact composes_add tag content
  · apply keeps_get_bind
    intro s hs
    -- No two nodes have the same anchor.
    apply Keeps.ite
    · exact composes_invalid
    · apply Keeps.bind (composes_add tag content)
      intro id
      apply Keeps.map
      exact keeps_modify fun _ hs => hs

/-- What is to be shown of the productions with some steps. -/
structure ComposesNodes (z : Fault) (steps : Nat) : Prop where
  node : ∀ setting, Composes z (readNode steps setting)
  content : ∀ setting ps, Composes z (readContent steps setting ps)
  blockItems : Composes z (readBlockItems steps)
  unindentedItems : Composes z (readUnindentedItems steps)
  blockEntries : Composes z (readBlockEntries steps)
  flowItems : ∀ first, Composes z (readFlowItems steps first)
  flowEntries : ∀ first, Composes z (readFlowEntries steps first)

namespace ComposesNodes

variable {steps : Nat}

theorem node_succ (ih : ComposesNodes z steps) (setting : Setting) : Composes z (readNode (steps + 1) setting) := by
  apply Keeps.bind composes_peek
  intro t
  split
  · apply Keeps.bind composes_drop
    intro _
    apply keeps_get_bind
    intro s hs
    split
    · exact keeps_pure _
    · exact composes_invalid
  · apply Keeps.bind composes_readProperties
    intro ps
    exact ih.content setting ps

/-- The parts of a collection are read after it was added, and then it is filled with them. -/
theorem composes_filled {α : Type} {parts : Reading (List α)} (hparts : Composes z parts) (content : List α → Content)
    (id : Nat) : Composes z (parts >>= fun xs => fill id (content xs) >>= fun _ => pure id) := by
  apply Keeps.bind hparts
  intro xs
  exact (composes_fill id _).map _

theorem content_succ (ih : ComposesNodes z steps) (setting : Setting) (ps : Properties) :
    Composes z (readContent (steps + 1) setting ps) := by
  have hopened : ∀ {α : Type} {parts : Reading (List α)} (tag : Tag) (empty : Content) (content : List α → Content),
      Composes z parts → Composes z (addAnchored ps tag empty >>= fun id => drop >>= fun _ =>
        parts >>= fun xs => fill id (content xs) >>= fun _ => pure id) := by
    intro α parts tag empty content hparts
    apply Keeps.bind (composes_addAnchored ps tag empty)
    intro id
    apply Keeps.bind composes_drop
    intro _
    exact composes_filled hparts content id
  apply Keeps.bind composes_peek
  intro t
  -- Entries without indentation have no token that opens them; a scalar has no parts.
  split
  · apply Keeps.bind (composes_addAnchored ps _ _)
    intro id
    exact composes_filled ih.unindentedItems _ id
  · apply Keeps.bind composes_drop
    intro _
    exact composes_addAnchored ps _ _
  · exact hopened _ _ _ (ih.flowItems true)
  · exact hopened _ _ _ (ih.flowEntries true)
  · exact hopened _ _ _ ih.blockItems
  · exact hopened _ _ _ ih.blockItems
  · exact hopened _ _ _ ih.blockEntries
  · exact hopened _ _ _ ih.blockEntries
  · apply Keeps.ite
    · exact composes_invalid
    · exact composes_addAnchored ps _ _

theorem blockItems_succ (ih : ComposesNodes z steps) : Composes z (readBlockItems (steps + 1)) := by
  have hmore : ∀ item, Composes z (readBlockItems steps >>= fun items => pure (item :: items)) :=
    fun item => ih.blockItems.map _
  apply Keeps.bind composes_next
  intro t
  split
  · apply Keeps.bind composes_peek
    intro t
    simp only
    split
    · exact composes_missing.bind hmore
    · exact composes_missing.bind hmore
    · exact (ih.node .block).bind hmore
  · exact keeps_pure []
  · exact composes_invalid

theorem unindentedItems_succ (ih : ComposesNodes z steps) : Composes z (readUnindentedItems (steps + 1)) := by
  have hmore : ∀ item, Composes z (readUnindentedItems steps >>= fun items => pure (item :: items)) :=
    fun item => ih.unindentedItems.map _
  apply Keeps.bind composes_peek
  intro t
  split
  · apply Keeps.bind composes_drop
    intro _
    apply Keeps.bind composes_peek
    intro t
    simp only
    split
    · exact composes_missing.bind hmore
    · exact composes_missing.bind hmore
    · exact composes_missing.bind hmore
    · exact composes_missing.bind hmore
    · exact (ih.node .block).bind hmore
  · exact keeps_pure []

theorem blockEntries_succ (ih : ComposesNodes z steps) : Composes z (readBlockEntries (steps + 1)) := by
  have hmore : ∀ key value, Composes z (readBlockEntries steps >>= fun entries => pure ((key, value) :: entries)) :=
    fun key value => ih.blockEntries.map _
  apply Keeps.bind composes_next
  intro t
  split
  · apply Keeps.bind composes_peek
    intro t
    simp only
    -- Whether the key is missing or not, the value may be.
    split <;> refine Keeps.bind (by first | exact composes_missing | exact ih.node _) fun key => ?_
    all_goals
      apply Keeps.bind composes_peek
      intro t
      split
      · apply Keeps.bind composes_drop
        intro _
        apply Keeps.bind composes_peek
        intro t
        split
        · exact composes_missing.bind (hmore key)
        · exact composes_missing.bind (hmore key)
        · exact composes_missing.bind (hmore key)
        · exact (ih.node .entryPart).bind (hmore key)
      · exact composes_missing.bind (hmore key)
  · exact keeps_pure []
  · exact composes_invalid

/-- All parts of a flow collection but the first stand behind a comma. -/
theorem composes_separated {α : Type} {m : Reading α} (hm : Composes z m) (first : Bool) (t : Token) :
    Composes z (if (!first) = true then
      if t = .flowEntry then drop >>= fun _ => m else (throw .invalid : Reading Unit) >>= fun _ => m else m) := by
  apply Keeps.ite
  · apply Keeps.ite
    · exact composes_drop.bind fun _ => hm
    · exact composes_invalid.bind fun _ => hm
  · exact hm

theorem flowItems_succ (ih : ComposesNodes z steps) (first : Bool) : Composes z (readFlowItems (steps + 1) first) := by
  have hmore : ∀ item, Composes z (readFlowItems steps false >>= fun items => pure (item :: items)) :=
    fun item => (ih.flowItems false).map _
  apply Keeps.bind composes_peek
  intro t
  split
  · apply Keeps.bind composes_drop
    intro _
    exact keeps_pure []
  · simp only
    apply composes_separated
    apply Keeps.bind composes_peek
    intro t
    split
    · apply Keeps.bind composes_drop
      intro _
      exact keeps_pure []
    · apply Keeps.bind (composes_add _ _)
      intro id
      have hentry : ∀ key value, Composes z (fill id (.mapping [(key, value)]) >>= fun _ =>
          readFlowItems steps false >>= fun items => pure (id :: items)) :=
        fun key value => (composes_fill id _).bind fun _ => hmore id
      apply Keeps.bind composes_drop
      intro _
      apply Keeps.bind composes_peek
      intro t
      split <;> refine Keeps.bind (by first | exact composes_missing | exact ih.node _) fun key => ?_
      all_goals
        apply Keeps.bind composes_peek
        intro t
        split
        · apply Keeps.bind composes_drop
          intro _
          apply Keeps.bind composes_peek
          intro t
          split
          · exact composes_missing.bind (hentry key)
          · exact composes_missing.bind (hentry key)
          · exact (ih.node .flow).bind (hentry key)
        · exact composes_missing.bind (hentry key)
    · exact (ih.node .flow).bind hmore

theorem flowEntries_succ (ih : ComposesNodes z steps) (first : Bool) :
    Composes z (readFlowEntries (steps + 1) first) := by
  have hmore : ∀ key value, Composes z (readFlowEntries steps false >>= fun entries =>
      pure ((key, value) :: entries)) :=
    fun key value => (ih.flowEntries false).map _
  apply Keeps.bind composes_peek
  intro t
  split
  · apply Keeps.bind composes_drop
    intro _
    exact keeps_pure []
  · simp only
    apply composes_separated
    apply Keeps.bind composes_peek
    intro t
    split
    · apply Keeps.bind composes_drop
      intro _
      exact keeps_pure []
    · apply Keeps.bind composes_drop
      intro _
      apply Keeps.bind composes_peek
      intro t
      split <;> refine Keeps.bind (by first | exact composes_missing | exact ih.node _) fun key => ?_
      all_goals
        apply Keeps.bind composes_peek
        intro t
        split
        · apply Keeps.bind composes_drop
          intro _
          apply Keeps.bind composes_peek
          intro t
          split
          · exact composes_missing.bind (hmore key)
          · exact composes_missing.bind (hmore key)
          · exact (ih.node .flow).bind (hmore key)
        · exact composes_missing.bind (hmore key)
    · apply Keeps.bind (ih.node .flow)
      intro key
      exact composes_missing.bind (hmore key)

end ComposesNodes

/-- **The productions.** Each fails only where the grammar is left or the tokens end. -/
theorem composesNodes (z : Fault) (steps : Nat) : ComposesNodes z steps := by
  induction steps with
  | zero =>
    -- Without steps every production is refused.
    constructor
    · exact fun _ => composes_invalid
    · exact fun _ _ => composes_invalid
    · exact composes_invalid
    · exact composes_invalid
    · exact composes_invalid
    · exact fun _ => composes_invalid
    · exact fun _ => composes_invalid
  | succ steps ih =>
    exact ⟨ih.node_succ, ih.content_succ, ih.blockItems_succ, ih.unindentedItems_succ, ih.blockEntries_succ,
      ih.flowItems_succ, ih.flowEntries_succ⟩

theorem composes_readDirectives (steps : Nat) (versioned : Bool) (handles : List (Text × Text)) :
    Composes z (readDirectives steps versioned handles) := by
  induction steps generalizing versioned handles with
  | zero => exact composes_invalid
  | succ steps ih =>
    apply Keeps.bind composes_peek
    intro t
    simp only
    split
    · apply Keeps.bind composes_drop
      intro _
      apply Keeps.ite
      · exact composes_invalid.bind fun _ => ih _ _
      · exact ih _ _
    · apply Keeps.bind composes_drop
      intro _
      apply Keeps.ite
      · exact composes_invalid.bind fun _ => ih _ _
      · exact ih _ _
    · exact composes_drop.bind fun _ => ih _ _
    · exact keeps_pure _

theorem composes_readDocumentStart (steps : Nat) : Composes z (readDocumentStart steps) := by
  apply Keeps.bind (composes_readDirectives steps _ _)
  intro handles
  apply Keeps.bind composes_next
  intro t
  split
  · exact keeps_modify fun _ hs => hs
  · exact composes_invalid

theorem composes_readMarkedDocument (steps : Nat) : Composes z (readMarkedDocument steps) := by
  apply Keeps.bind (composes_readDocumentStart steps)
  intro _
  apply Keeps.bind composes_peek
  intro t
  split
  · exact composes_missing
  · exact composes_missing
  · exact composes_missing
  · exact composes_missing
  · exact (composesNodes z steps).node .block

theorem composes_skipDocumentEnds (steps : Nat) : Composes z (skipDocumentEnds steps) := by
  induction steps with
  | zero => exact composes_invalid
  | succ steps ih =>
    apply Keeps.bind composes_peek
    intro t
    split
    · exact composes_drop.bind fun _ => ih
    · exact keeps_pure _

theorem composes_readDocument (steps : Nat) : Composes z (readDocument steps) := by
  apply Keeps.bind composes_peek
  intro t
  simp only
  split
  · exact keeps_pure none
  -- However it starts, nothing may follow the document.
  all_goals
    refine Keeps.bind (by first | exact composes_readMarkedDocument steps | exact (composesNodes z steps).node _)
      fun root => ?_
    apply Keeps.bind (composes_skipDocumentEnds steps)
    intro _
    apply Keeps.bind composes_peek
    intro t
    split
    · exact keeps_pure (some root)
    · exact (composes_readDocumentStart steps).bind fun _ => composes_invalid

end Draft

/-- **The graph.** It fails to be made only where the grammar is left or the tokens end. -/
theorem Graph.raises_ofTokens (stream : TokenStream) :
    Raises (fun e => e = .invalid ∨ e = stream.ending) (ofTokens stream) := by
  apply Gives.bind (Draft.composes_readDocument (z := stream.ending) _ _ rfl)
  intro x _
  exact Raises.ok _

/-! ### Merge keys -/

namespace Graph

theorem content?_setContent (g : Graph) (id j : Nat) (content : Content) :
    (g.setContent id content).content? j = if id = j then (g.content? j).map fun _ => content else g.content? j := by
  unfold content? setContent
  rw [Array.getElem?_modify]
  split
  · rw [Option.map_map, Option.map_map]
    rfl
  · rfl

theorem tag?_setContent (g : Graph) (id j : Nat) (content : Content) :
    (g.setContent id content).tag? j = g.tag? j := by
  unfold tag? setContent
  rw [Array.getElem?_modify]
  split
  · rw [Option.map_map]
    rfl
  · rfl

theorem content?_setTag (g : Graph) (id j : Nat) (tag : Tag) : (g.setTag id tag).content? j = g.content? j := by
  unfold content? setTag
  rw [Array.getElem?_modify]
  split
  · rw [Option.map_map]
    rfl
  · rfl

theorem tag?_setTag (g : Graph) (id j : Nat) (tag : Tag) :
    (g.setTag id tag).tag? j = if id = j then (g.tag? j).map fun _ => tag else g.tag? j := by
  unfold tag? setTag
  rw [Array.getElem?_modify]
  split
  · rw [Option.map_map, Option.map_map]
    rfl
  · rfl

/-- The node is a mapping. -/
def IsMapping (g : Graph) (id : Nat) : Prop := ∃ entries, g.content? id = some (.mapping entries)

theorem isMapping_of_entries? {g : Graph} {id : Nat} {entries : List (Nat × Nat)} (h : g.entries? id = some entries) :
    g.IsMapping id := by
  unfold entries? at h
  split at h
  · next entries' hcontent => exact ⟨entries', hcontent⟩
  · cases h

/-- What the making of values keeps of a graph `g`, now `g'`: which nodes are scalars, and their texts; which nodes are
    mappings; and each tag, unless it is that of texts now. -/
structure Stays (g g' : Graph) : Prop where
  scalars : ∀ id t, g'.content? id = some (.scalar t) ↔ g.content? id = some (.scalar t)
  mappings : ∀ id, g'.IsMapping id ↔ g.IsMapping id
  tags : ∀ id tag, g'.tag? id = some tag → tag = .text ∨ g.tag? id = some tag

theorem Stays.refl (g : Graph) : g.Stays g := ⟨fun _ _ => .rfl, fun _ => .rfl, fun _ _ h => .inr h⟩

theorem Stays.trans {g g' g'' : Graph} (h : g.Stays g') (h' : g'.Stays g'') : g.Stays g'' := by
  refine ⟨fun id t => (h'.scalars id t).trans (h.scalars id t), fun id => (h'.mappings id).trans (h.mappings id), ?_⟩
  intro id tag htag
  rcases h'.tags id tag htag with htext | htag
  · exact .inl htext
  · exact h.tags id tag htag

/-- A mapping may get other entries. -/
theorem stays_setContent {g : Graph} {id : Nat} (h : g.IsMapping id) (entries : List (Nat × Nat)) :
    g.Stays (g.setContent id (.mapping entries)) := by
  obtain ⟨old, hold⟩ := h
  constructor
  · intro j t
    rw [content?_setContent]
    split
    · next hj => simp [← hj, hold]
    · rfl
  · intro j
    unfold IsMapping
    rw [content?_setContent]
    split
    · next hj => simp [← hj, hold]
    · rfl
  · intro j tag htag
    rw [tag?_setContent] at htag
    exact .inr htag

theorem stays_setTag (g : Graph) (id : Nat) : g.Stays (g.setTag id .text) := by
  constructor
  · intro j t
    rw [content?_setTag]
  · intro j
    unfold IsMapping
    rw [content?_setTag]
  · intro j tag h
    rw [tag?_setTag] at h
    split at h
    · obtain ⟨_, -, htag⟩ := Option.map_eq_some_iff.1 h
      exact .inl htag.symm
    · exact .inr h

theorem stays_settleDefaultKeys (id : Nat) (g : Graph) : g.Stays (g.settleDefaultKeys id) := by
  unfold settleDefaultKeys
  generalize (g.entries? id).getD [] = entries
  induction entries generalizing g with
  | nil => exact .refl g
  | cons entry entries ih =>
    rw [List.foldl_cons]
    split
    · exact (stays_setTag g entry.1).trans (ih _)
    · exact ih g

theorem stays_of_takeMergeKey? {id value : Nat} {g g' : Graph} (h : g.takeMergeKey? id = some (value, g')) :
    g.Stays g' := by
  obtain ⟨entries, hentries, h⟩ := Option.bind_eq_some_iff.1 h
  obtain ⟨⟨merged, rest⟩, -, h⟩ := Option.bind_eq_some_iff.1 h
  cases h
  exact stays_setContent (isMapping_of_entries? hentries) rest

/-- **Merging.** It fails only where the grammar of merge keys is left. -/
theorem gives_flattenFrom (steps : Nat) {id : Nat} {g : Graph} (hid : g.IsMapping id) (merged : List (Nat × Nat)) :
    Gives (· = .invalid) (fun g' => g.Stays g') (flattenFrom steps id merged g) := by
  induction steps generalizing id merged g with
  | zero => exact rfl
  | succ steps ih =>
    have hmore : ∀ {g' : Graph}, g.Stays g' → ∀ {id}, g'.IsMapping id → ∀ merged,
        Gives (· = .invalid) (fun g'' => g.Stays g'') (flattenFrom steps id merged g') :=
      fun h _ hid merged => (ih hid merged).mono (fun _ he => he) fun _ h' => h.trans h'
    rw [flattenFrom]
    split
    · exact (stays_setContent hid _).trans (stays_settleDefaultKeys id _)
    · next value g' htake =>
      have hstays := stays_of_takeMergeKey? htake
      split
      · next entries hvalue =>
        apply Gives.bind (hmore hstays ⟨entries, hvalue⟩ [])
        intro g'' h
        exact hmore h ((h.mappings id).2 hid) _
      · next items _ =>
        -- The mappings of a list are flattened one after another, so that the graph stays through all of them.
        refine Gives.bind (Q := fun x => g.Stays x.2) (gives_foldlM ?_ ?_ items) ?_
        · rintro ⟨parts, g₁⟩ item h
          simp only
          split
          · exact rfl
          · next entries hentries =>
            apply Gives.bind (hmore h (isMapping_of_entries? hentries) [])
            intro g₂ h'
            exact h'
        · exact hstays
        · intro x h
          exact hmore h ((h.mappings id).2 hid) _
      · exact rfl

theorem gives_flatten {id : Nat} {g : Graph} (hid : g.IsMapping id) :
    Gives (· = .invalid) (fun g' => g.Stays g') (flatten id g) :=
  gives_flattenFrom _ hid []

end Graph

/-! ### Values -/

/-- The text of a node: its own if it is a scalar, or for a mapping that of some scalar. -/
def Graph.Bears (g : Graph) (id : Nat) (t : Text) : Prop :=
  g.content? id = some (.scalar t) ∨ (g.IsMapping id ∧ ∃ j, g.content? j = some (.scalar t))

theorem Graph.Stays.bears {g g' : Graph} (h : g.Stays g') {id : Nat} {t : Text} (hid : g'.Bears id t) :
    g.Bears id t := by
  rcases hid with hself | ⟨hmapping, j, hj⟩
  · exact .inl ((h.scalars id t).1 hself)
  · exact .inr ⟨(h.mappings id).1 hmapping, j, (h.scalars j t).1 hj⟩

/-- Why the values of a graph cannot be made: it uses tags wrongly, or the text of a node is none of the kind that its
    tag asks for, or a mapping has the tag of timestamps. -/
inductive Graph.Denies (g : Graph) : Fault → Prop
  | invalid : Denies g .invalid
  | scalar {id : Nat} {tag : Tag} {t : Text} {r : Refusal} (tagged : g.tag? id = some tag) (bears : g.Bears id t)
      (refused : Scalar.ofText tag t = .error (.refused r)) : Denies g (.refused r)
  | timestampMapping {id : Nat} (tagged : g.tag? id = some .timestamp) (mapping : g.IsMapping id) :
      Denies g (.refused .timestampMapping)

namespace Building

theorem bears_of_scalarText? {g : Graph} {steps id : Nat} {t : Text} (h : scalarText? g steps id = some t) :
    g.Bears id t := by
  induction steps generalizing id with
  | zero => cases h
  | succ steps ih =>
    rw [scalarText?] at h
    split at h
    · next hcontent =>
      cases h
      exact .inl hcontent
    · next entries hcontent =>
      -- The text of a mapping is that of a node under it.
      split at h
      · rcases ih h with hself | ⟨-, hdeeper⟩
        · exact .inr ⟨⟨entries, hcontent⟩, _, hself⟩
        · exact .inr ⟨⟨entries, hcontent⟩, hdeeper⟩
      · cases h
    · cases h

theorem raises_scalarOf {g g' : Graph} (hstays : g.Stays g') {id : Nat} {tag : Tag} (htag : g'.tag? id = some tag) :
    Raises g.Denies (scalarOf g' id tag) := by
  unfold scalarOf
  split
  · exact Graph.Denies.invalid
  · next t htext =>
    have hbears := hstays.bears (bears_of_scalarText? htext)
    split
    · next hstamp =>
      obtain ⟨htimestamp, hentries⟩ := Bool.and_eq_true_iff.1 hstamp
      obtain rfl : tag = .timestamp := beq_iff_eq.1 htimestamp
      obtain ⟨entries, hentries⟩ := Option.isSome_iff_exists.1 hentries
      have hmapping := (hstays.mappings id).1 (Graph.isMapping_of_entries? hentries)
      exact Graph.Denies.timestampMapping ((hstays.tags id _ htag).resolve_left nofun) hmapping
    · cases hvalue : Scalar.ofText tag t with
      | ok v => exact Raises.ok v
      | error e =>
        cases e with
        | invalid => exact Graph.Denies.invalid
        | refused r =>
          -- A text is never refused, so the tag is one of the graph.
          rcases hstays.tags id tag htag with rfl | htagged
          · cases hvalue
          · exact Graph.Denies.scalar htagged hbears hvalue

abbrev Makes {α : Type} (g : Graph) (m : Making α) : Prop := Keeps g.Denies (fun s => g.Stays s.graph) m

theorem makes_valueOf (g : Graph) (id : Nat) : Makes g (valueOf id) := by
  apply keeps_get_bind
  intro s hs
  split
  · exact keeps_pure _
  · exact keeps_throw Graph.Denies.invalid
  · next tag _ htag =>
    apply Keeps.ite
    · apply Keeps.map
      exact keeps_set hs
    · apply keeps_lift_bind (raises_scalarOf hs htag)
      intro v _
      apply Keeps.map
      exact keeps_set hs

theorem makes_makeEntries (g : Graph) (id : Nat) : Makes g (makeEntries id) := by
  apply keeps_get_bind
  intro s hs
  split
  · exact keeps_throw Graph.Denies.invalid
  · next entries hentries =>
    have hflatten : Gives g.Denies (fun g' => g.Stays g') (s.graph.flatten id) := by
      apply (Graph.gives_flatten (Graph.isMapping_of_entries? hentries)).mono
      · rintro _ rfl
        exact .invalid
      · exact fun _ h => hs.trans h
    apply keeps_lift_bind hflatten
    intro g' hg'
    refine Keeps.bind (keeps_set ?_) fun _ => Keeps.map (keeps_foldlM ?_ _ _) _
    · exact hg'
    · rintro entries ⟨key, value⟩
      apply Keeps.bind (makes_valueOf g key)
      intro k
      split
      · exact keeps_throw Graph.Denies.invalid
      · exact (makes_valueOf g value).map _

theorem makes_makeItems (g : Graph) (id : Nat) : Makes g (makeItems id) := by
  apply keeps_get_bind
  intro s hs
  split
  · exact keeps_mapM (makes_valueOf g) _
  · exact keeps_throw Graph.Denies.invalid

theorem makes_makePairs (g : Graph) (id : Nat) : Makes g (makePairs id) := by
  apply keeps_get_bind
  intro s hs
  split
  · apply keeps_mapM
    intro item
    apply keeps_get_bind
    intro s hs
    split
    · apply Keeps.bind (makes_valueOf g _)
      intro key
      exact (makes_valueOf g _).map _
    · exact keeps_throw Graph.Denies.invalid
  · exact keeps_throw Graph.Denies.invalid

theorem makes_makeCollection (g : Graph) (id : Nat) : Makes g (makeCollection id) := by
  apply keeps_get_bind
  intro s hs
  split
  · exact (makes_makeItems g id).map _
  · exact (makes_makeEntries g id).map _
  · exact (makes_makeEntries g id).map _
  · exact (makes_makePairs g id).map _
  · exact (makes_makePairs g id).map _
  · exact keeps_throw Graph.Denies.invalid

theorem makes_finish (g : Graph) (steps : Nat) : Makes g (finish steps) := by
  induction steps with
  | zero => exact keeps_pure _
  | succ steps ih =>
    apply keeps_get_bind
    intro s hs
    split
    · exact keeps_pure _
    · next id pending _ =>
      refine Keeps.bind (keeps_set ?_) fun _ => Keeps.bind (makes_makeCollection g id) fun c =>
        Keeps.bind (keeps_modify ?_) fun _ => ih
      · exact hs
      · exact fun _ h => h

end Building

namespace Document

/-- **Values.** Those of a graph fail to be made only for a reason in the graph itself. -/
theorem raises_ofGraph (root : Nat) (g : Graph) : Raises g.Denies (ofGraph root g) := by
  have hmakes : Building.Makes g (do
      let v ← Building.valueOf root
      Building.finish g.size
      return v) := by
    apply Keeps.bind (Building.makes_valueOf g root)
    intro v
    exact (Building.makes_finish g g.size).map _
  apply Gives.bind (hmakes _ (.refl g))
  intro x _
  exact Raises.ok _

/-- **Refusals.** A text that follows the grammar is refused for what stands in it.  Either its tokens end with the
    refusal, which is that of an escape or of a version; or its graph is had, and a scalar in the graph is none of the
    kind that a tag in it asks for, or a mapping has the tag of timestamps. -/
theorem origin_of_refused {t : Text} {r : Refusal} (h : ofText t = .error (.refused r)) :
    ((TokenStream.ofText t).ending = .refused r ∧ Lexical (.refused r)) ∨
      ∃ root g, Graph.ofTokens (TokenStream.ofText t) = .ok (some (root, g)) ∧ g.Denies (.refused r) := by
  unfold ofText at h
  cases hgraph : Graph.ofTokens (TokenStream.ofText t) with
  | error e =>
    rw [hgraph] at h
    obtain rfl : e = .refused r := Except.error.inj h
    have hending := ((Graph.raises_ofTokens _).of_error hgraph).resolve_left nofun
    exact .inl ⟨hending.symm, hending ▸ TokenStream.lexical_ending t⟩
  | ok made =>
    rw [hgraph] at h
    cases made with
    | none => cases h
    | some x => exact .inr ⟨x.1, x.2, rfl, (raises_ofGraph x.1 x.2).of_error h⟩

end Document

end Yaml

end ParenTokens
