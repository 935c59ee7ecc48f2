import ParenTokens.Proofs.Refusals
import ParenTokens.Proofs.Schema

namespace ParenTokens

/-!
# No mapping has a key twice

The entries of a mapping are put one after another, and one with a key that is there already only changes the value.  So
the keys of a mapping, and the items of a set, are different from each other in every document that a text denotes; for
values that are no numbers this says nothing, since they may differ from themselves.

* `Leaves` — the rules for computations with a state whose result has a property, beside those of `Keeps`.
* `Yaml.Scalar.Apart` — two keys that one mapping may have; `Yaml.Collection.KeysApart`.
* `Yaml.Building.pairwise_putEntry` — one entry; `Yaml.Building.settles_makeEntries` — all entries of a mapping.
* `Yaml.Document.keysApart_of_ofText` — the document of a text.
-/

/-! ### Rules for computations with a state and a result -/

/-- Started where `I` holds, `m` ends where `I` holds with a result that has the property `Q`, or fails with an error that
has `P`. -/
def Leaves {ε σ α : Type} (P : ε → Prop) (I : σ → Prop) (Q : α → Prop) (m : StateT σ (Except ε) α) : Prop :=
  ∀ s, I s → Gives P (fun x => Q x.1 ∧ I x.2) (m.run s)

section

variable {ε σ α β : Type} {P : ε → Prop} {I : σ → Prop} {Q : α → Prop} {R : β → Prop}

theorem Keeps.leaves {m : StateT σ (Except ε) α} (hm : Keeps P I m) : Leaves P I (fun _ => True) m :=
  fun s hs => (hm s hs).mono (fun _ he => he) fun _ hx => ⟨trivial, hx⟩

theorem leaves_pure {a : α} (h : Q a) : Leaves P I Q (pure a : StateT σ (Except ε) α) := fun _ hs => ⟨h, hs⟩

theorem leaves_throw {e : ε} (h : P e) : Leaves P I Q (throw e : StateT σ (Except ε) α) := fun _ _ => h

theorem Leaves.bind {m : StateT σ (Except ε) α} {f : α → StateT σ (Except ε) β} (hm : Leaves P I Q m)
    (hf : ∀ a, Q a → Leaves P I R (f a)) : Leaves P I R (m >>= f) :=
  fun s hs => Gives.bind (hm s hs) fun x hx => hf x.1 hx.1 x.2 hx.2

theorem Leaves.map {m : StateT σ (Except ε) α} (hm : Leaves P I Q m) {f : α → β} (hf : ∀ a, Q a → R (f a)) :
    Leaves P I R (m >>= fun a => pure (f a)) :=
  hm.bind fun a ha => leaves_pure (hf a ha)

theorem leaves_get_bind {f : σ → StateT σ (Except ε) β} (hf : ∀ s, I s → Leaves P I R (f s)) :
    Leaves P I R (get >>= f) :=
  fun s hs => hf s hs s hs

/-- A computation without the state may fail in any way that is allowed. -/
theorem leaves_lift_bind {x : Except ε α} {f : α → StateT σ (Except ε) β} (hx : Raises P x)
    (hf : ∀ a, Leaves P I R (f a)) : Leaves P I R (liftM x >>= f) := by
  intro s hs
  cases x with
  | error e => exact hx
  | ok a => exact hf a s hs

theorem leaves_foldlM {f : β → α → StateT σ (Except ε) β} (hf : ∀ b a, R b → Leaves P I R (f b a)) {b : β} (hb : R b)
    (l : List α) : Leaves P I R (l.foldlM f b) := by
  induction l generalizing b with
  | nil => exact leaves_pure hb
  | cons a l ih =>
    rw [List.foldlM_cons]
    exact (hf b a hb).bind fun b' hb' => ih hb'

end

namespace Yaml

/-! ### Keys -/

/-- Two values that may be keys of one mapping: they are not the same, or neither is a number. -/
def Scalar.Apart (a b : Scalar) : Prop := (a.isNaN = true ∧ b.isNaN = true) ∨ a.same b = false

theorem Scalar.Apart.ne_of_text {s t : Text} (h : Apart (.text s) (.text t)) : s ≠ t := by
  rcases h with ⟨hnan, -⟩ | hsame
  · cases hnan
  · rintro rfl
    simp [same, count?] at hsame

/-- The keys of a mapping, or the items of a set, are apart. -/
def Collection.KeysApart : Collection → Prop
  | mapping entries => (entries.map Prod.fst).Pairwise Scalar.Apart
  | set items => items.Pairwise Scalar.Apart
  | sequence _ | pairs _ => True

namespace Building

theorem apart_of_sameKey {g : Graph} {a b : Nat × Scalar} (h : sameKey g a b = false) : a.2.Apart b.2 := by
  unfold sameKey at h
  split at h
  · next hnan => exact .inl (Bool.and_eq_true_iff.1 hnan)
  · exact .inr h

/-- Putting an entry changes no key, and adds none but its own. -/
theorem map_fst_putEntry (g : Graph) (key : Nat × Scalar) (value : Value) (entries : List ((Nat × Scalar) × Value)) :
    (putEntry g key value entries).map Prod.fst = entries.map Prod.fst ∨
      ((putEntry g key value entries).map Prod.fst = entries.map Prod.fst ++ [key] ∧
        ∀ old ∈ entries.map Prod.fst, sameKey g old key = false) := by
  induction entries with
  | nil => exact .inr ⟨rfl, nofun⟩
  | cons entry entries ih =>
    obtain ⟨old, v⟩ := entry
    rw [putEntry]
    by_cases hsame : sameKey g old key = true
    · rw [if_pos hsame]
      exact .inl rfl
    · rw [if_neg hsame, List.map_cons, List.map_cons]
      rcases ih with hkept | ⟨hadded, hapart⟩
      · exact .inl (by rw [hkept])
      · refine .inr ⟨by rw [hadded, List.cons_append], ?_⟩
        exact List.forall_mem_cons.2 ⟨Bool.eq_false_iff.2 hsame, hapart⟩

theorem pairwise_putEntry {g : Graph} (key : Nat × Scalar) (value : Value) {entries : List ((Nat × Scalar) × Value)}
    (h : (entries.map Prod.fst).Pairwise fun a b => a.2.Apart b.2) :
    ((putEntry g key value entries).map Prod.fst).Pairwise fun a b => a.2.Apart b.2 := by
  rcases map_fst_putEntry g key value entries with hkept | ⟨hadded, hapart⟩
  · rwa [hkept]
  · rw [hadded, List.pairwise_append]
    refine ⟨h, List.pairwise_singleton _ _, ?_⟩
    intro old hold b hb
    rw [List.mem_singleton.1 hb]
    exact apart_of_sameKey (hapart old hold)

/-! ### Collections -/

/-- A part of the making of a document that finishes no collection with a key twice, and has a result with `Q`. -/
abbrev Settles {α : Type} (Q : α → Prop) (m : Making α) : Prop :=
  Leaves (fun _ => True) (fun s => ∀ x ∈ s.finished, x.2.KeysApart) Q m

abbrev Retains {α : Type} (m : Making α) : Prop :=
  Keeps (fun _ => True) (fun s => ∀ x ∈ s.finished, x.2.KeysApart) m

theorem raises_anything {α : Type} (x : Except Fault α) : Raises (fun _ => True) x := by
  cases x <;> trivial

theorem retains_valueOf (id : Nat) : Retains (valueOf id) := by
  apply keeps_get_bind
  intro s hs
  split
  · exact keeps_pure _
  · exact keeps_throw trivial
  · apply Keeps.ite
    · apply Keeps.map
      exact keeps_set hs
    · apply keeps_lift_bind (raises_anything _)
      intro v _
      apply Keeps.map
      exact keeps_set hs

theorem settles_makeEntries (id : Nat) :
    Settles (fun entries => (entries.map Prod.fst).Pairwise Scalar.Apart) (makeEntries id) := by
  apply leaves_get_bind
  intro s hs
  split
  · exact leaves_throw trivial
  · apply leaves_lift_bind (raises_anything _)
    intro g
    apply Leaves.bind (Keeps.leaves (keeps_set hs))
    intro _ _
    -- The entries put so far are the ones that are had in the end, up to the nodes of their keys.
    refine Leaves.map (Q := fun entries => (entries.map Prod.fst).Pairwise fun a b => a.2.Apart b.2)
      (leaves_foldlM ?_ ?_ _) ?_
    · rintro entries ⟨key, value⟩ hentries
      apply Leaves.bind (retains_valueOf key).leaves
      intro k _
      split
      · exact leaves_throw trivial
      · apply Leaves.map (retains_valueOf value).leaves
        intro v _
        exact pairwise_putEntry _ _ hentries
    · exact List.Pairwise.nil
    · intro entries hentries
      rw [List.pairwise_map] at hentries
      rwa [List.map_map, List.pairwise_map]

theorem retains_makeItems (id : Nat) : Retains (makeItems id) := by
  apply keeps_get_bind
  intro s hs
  split
  · exact keeps_mapM retains_valueOf _
  · exact keeps_throw trivial

theorem retains_makePairs (id : Nat) : Retains (makePairs id) := by
  apply keeps_get_bind
  intro s hs
  split
  · apply keeps_mapM
    intro item
    apply keeps_get_bind
    intro s hs
    split
    · apply Keeps.bind (retains_valueOf _)
      intro key
      exact (retains_valueOf _).map _
    · exact keeps_throw trivial
  · exact keeps_throw trivial

theorem settles_makeCollection (id : Nat) : Settles Collection.KeysApart (makeCollection id) := by
  apply leaves_get_bind
  intro s hs
  split
  · exact (retains_makeItems id).leaves.map fun _ _ => trivial
  · exact (settles_makeEntries id).map fun _ h => h
  · exact (settles_makeEntries id).map fun _ h => h
  · exact (retains_makePairs id).leaves.map fun _ _ => trivial
  · exact (retains_makePairs id).leaves.map fun _ _ => trivial
  · exact leaves_throw trivial

theorem settles_finish (steps : Nat) : Settles (fun _ => True) (finish steps) := by
  induction steps with
  | zero => exact leaves_pure trivial
  | succ steps ih =>
    apply leaves_get_bind
    intro s hs
    split
    · exact leaves_pure trivial
    · next id pending _ =>
      apply Leaves.bind (Keeps.leaves (keeps_set hs))
      intro _ _
      apply Leaves.bind (settles_makeCollection id)
      intro c hc
      refine Leaves.bind (Keeps.leaves (keeps_modify ?_)) fun _ _ => ih
      exact fun s hs => List.forall_mem_cons.2 ⟨hc, hs⟩

end Building

namespace Document

theorem keysApart_ofGraph (root : Nat) (g : Graph) :
    Gives (fun _ => True) (fun d => ∀ x ∈ d.collections, x.2.KeysApart) (ofGraph root g) := by
  have hmakes : Building.Settles (fun _ => True) (do
      let v ← Building.valueOf root
      Building.finish g.size
      return v) := by
    apply Leaves.bind (Building.retains_valueOf root).leaves
    intro v _
    exact (Building.settles_finish g.size).map fun _ _ => trivial
  refine Gives.bind (hmakes _ ?_) ?_
  · exact nofun
  · intro x hx
    exact hx.2

/-- **Keys.** No two entries of a mapping that a text denotes have the same key. -/
theorem keysApart_of_ofText {t : Text} {d : Document} (h : ofText t = .ok d) {entries : List (Scalar × Value)}
    (hentries : d.entries? = some entries) : (entries.map Prod.fst).Pairwise Scalar.Apart := by
  have hall : ∀ x ∈ d.collections, x.2.KeysApart := by
    unfold ofText at h
    obtain ⟨graph, -, h⟩ := bind_eq_ok_iff.1 h
    cases graph with
    | none =>
      obtain rfl := Except.ok.inj h
      exact nofun
    | some x =>
      have hgives := keysApart_ofGraph x.1 x.2
      rwa [show ofGraph x.1 x.2 = .ok d from h] at hgives
  unfold entries? at hentries
  split at hentries
  · cases hentries
  · next id _ =>
    split at hentries
    · next hlookup =>
      obtain rfl := Option.some.inj hentries
      obtain ⟨before, after, hsplit, -⟩ := List.lookup_eq_some_iff.1 hlookup
      exact hall (id, .mapping _) (by rw [hsplit]; exact List.mem_append_right _ List.mem_cons_self)
    · cases hentries

end Document

end Yaml

end ParenTokens
