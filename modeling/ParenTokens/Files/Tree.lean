import ParenTokens.Text.CodePoint

namespace ParenTokens

/-!
# Trees of files

* `Tree`: a file with its bytes, or a directory with its names, which may bar new ones.
* `Tree.at?`: what stands at a location.
* `Tree.put`: a tree with something put at a location.
* `Tree.files`: the locations of all files with their bytes.
* `at?_put`: what was put is found where it was put.
* `at?_put_of_not_prefix`: and nothing changes at a location that does not start or end on the way there.
-/

/-- A file, or a directory. No names can be added to a directory that is not writable. -/
inductive Tree
  | file (content : List UInt8)
  | directory (children : List (Text × Tree)) (writable : Bool := true)
deriving Repr

namespace Tree

def children : Tree → List (Text × Tree)
  | file _ => []
  | directory cs _ => cs

def isDirectory : Tree → Bool
  | file _ => false
  | directory _ _ => true

/-- Whether it may be written to, as a file always may. -/
def isWritable : Tree → Bool
  | file _ => true
  | directory _ writable => writable

def content? : Tree → Option (List UInt8)
  | file content => some content
  | directory _ _ => none

/-- What a name leads to in a directory. -/
def child? (name : Text) (t : Tree) : Option Tree := t.children.lookup name

/-- What stands at a location, the names from the tree down. -/
def at? : List Text → Tree → Option Tree
  | [], t => some t
  | name :: rest, t => (t.child? name).bind (at? rest)

/-- Some children with a name set to a tree. -/
def setChild (name : Text) (t : Tree) : List (Text × Tree) → List (Text × Tree)
  | [] => [(name, t)]
  | (other, u) :: cs => if name = other then (name, t) :: cs else (other, u) :: setChild name t cs

/-- A tree with another one put at a location. Directories that are missing on the way are made. -/
def put (new : Tree) : List Text → Tree → Tree
  | [], _ => new
  | name :: rest, t =>
    directory (setChild name (put new rest ((t.child? name).getD (directory []))) t.children) t.isWritable

mutual

/-- The files of a tree, each with its location. -/
def files : Tree → List (List Text × List UInt8)
  | file content => [([], content)]
  | directory cs _ => filesOf cs

/-- The files of some children, each with its location. -/
def filesOf : List (Text × Tree) → List (List Text × List UInt8)
  | [] => []
  | (name, t) :: cs => t.files.map (fun (location, content) => (name :: location, content)) ++ filesOf cs

end

theorem lookup_setChild (name other : Text) (t : Tree) (cs : List (Text × Tree)) :
    (setChild name t cs).lookup other = if other = name then some t else cs.lookup other := by
  induction cs with
  | nil =>
    by_cases h : other = name
    · simp [setChild, h]
    · have hb : (other == name) = false := by simpa using h
      simp [setChild, List.lookup_cons, h, hb]
  | cons c cs ih =>
    obtain ⟨key, u⟩ := c
    unfold setChild
    by_cases hk : name = key
    · subst hk
      by_cases h : other = name
      · simp [h]
      · have hb : (other == name) = false := by simpa using h
        simp [List.lookup_cons, h, hb]
    · simp only [hk, if_false]
      by_cases ho : other = key
      · subst ho
        have hn : ¬ other = name := fun h => hk h.symm
        simp [hn]
      · have hb : (other == key) = false := by simpa using ho
        simp only [List.lookup_cons, hb, ih]

theorem child?_put_cons (new : Tree) (name other : Text) (rest : List Text) (t : Tree) :
    (put new (name :: rest) t).child? other =
      if other = name then some (put new rest ((t.child? name).getD (directory []))) else t.child? other := by
  simp only [put, child?, children, lookup_setChild]

/-- What was put is found where it was put. -/
theorem at?_put (new : Tree) (location : List Text) (t : Tree) : (put new location t).at? location = some new := by
  induction location generalizing t with
  | nil => rfl
  | cons name rest ih => simp [at?, child?_put_cons, ih]

theorem at?_directory_nil {location : List Text} (h : location ≠ []) : (directory []).at? location = none := by
  cases location with
  | nil => exact absurd rfl h
  | cons name rest => rfl

/-- Nothing changes at a location that neither lies on the way to where something is put nor beyond it. -/
theorem at?_put_of_not_prefix {new : Tree} {location other : List Text} {t : Tree} (h₁ : ¬ location <+: other)
    (h₂ : ¬ other <+: location) : (put new location t).at? other = t.at? other := by
  induction location generalizing other t with
  | nil => exact absurd List.nil_prefix h₁
  | cons name rest ih =>
    cases other with
    | nil => exact absurd List.nil_prefix h₂
    | cons first others =>
      simp only [at?, child?_put_cons]
      by_cases hn : first = name
      · subst hn
        rw [List.prefix_cons_inj] at h₁ h₂
        simp only [if_true, Option.bind_some, ih h₁ h₂]
        cases hc : t.child? first with
        | some u => rfl
        | none =>
          -- a directory made on the way holds nothing else
          have hne : others ≠ [] := fun h => h₂ (h ▸ List.nil_prefix)
          simp [at?_directory_nil hne]
      · simp [hn]

end Tree

end ParenTokens
