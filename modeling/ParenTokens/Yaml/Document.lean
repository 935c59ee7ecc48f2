import ParenTokens.Yaml.Composition
import ParenTokens.Yaml.Merge
import ParenTokens.Yaml.Scalar

namespace ParenTokens.Yaml

/-!
# Documents

A document is a value: a scalar, or one of its collections. The values are made in breadth: a collection is known
before its items are, so that it may contain itself.

* `Value`, `Collection`, `Document`: what a text denotes.
* `Document.entries?`: the entries of a document that is a mapping.
* `Building`: the collections made so far, and those still to make.
* `Document.ofGraph`: the document of a graph.
* `Document.ofText`: the document of a text.
-/

/-- A scalar, or a collection by its number. -/
inductive Value
  | scalar (s : Scalar)
  | collection (id : Nat)
deriving DecidableEq, Repr

/-- The kinds of collections. Keys of mappings and sets are scalars, none twice; an ordered mapping and a list of pairs
are the same. -/
inductive Collection
  | sequence (items : List Value)
  | mapping (entries : List (Scalar × Value))
  | set (items : List Scalar)
  | pairs (entries : List (Value × Value))
deriving DecidableEq, Repr

/-- What a text denotes: a value, and the collections by their numbers. -/
structure Document where
  root : Value
  collections : List (Nat × Collection)
deriving DecidableEq, Repr

namespace Document

/-- The document of a stream that holds none. -/
def empty : Document := { root := .scalar .null, collections := [] }

/-- The entries of a document that is a mapping. -/
def entries? (d : Document) : Option (List (Scalar × Value)) :=
  match d.root with
  | .scalar _ => none
  | .collection id =>
    match d.collections.lookup id with
    | some (.mapping entries) => some entries
    | _ => none

end Document

/-! ### Making values -/

/-- The values of nodes made so far, the collections whose items are still to be made, in order, and those that are
finished. -/
structure Building where
  graph : Graph
  values : List (Nat × Value)
  pending : List Nat
  finished : List (Nat × Collection)
deriving Repr

/-- A part of the making of a document. -/
abbrev Making := StateT Building (Except Fault)

namespace Building

/-- The text of a node. A mapping with a default key has the text of the value under it. -/
def scalarText? (g : Graph) : (steps : Nat) → (id : Nat) → Option Text
  | 0, _ => none
  | steps + 1, id =>
    match g.content? id with
    | some (.scalar t) => some t
    | some (.mapping entries) =>
      match entries.find? fun entry => g.hasTag .default entry.1 with
      | some (_, value) => scalarText? g steps value
      | none => none
    | _ => none

/-- Whether a tag stands for a collection. -/
def isCollection : Tag → Bool
  | .sequence | .mapping | .set | .orderedMapping | .pairs => true
  | _ => false

/-- The scalar that a node denotes under a tag. -/
def scalarOf (g : Graph) (id : Nat) (tag : Tag) : Except Fault Scalar :=
  match scalarText? g (g.size + 1) id with
  | none => .error .invalid
  | some t =>
    if tag == .timestamp && (g.entries? id).isSome then .error (.refused .timestampMapping)
    else Scalar.ofText tag t

/-- The value of a node. Each node has one value, however often it is asked for. -/
def valueOf (id : Nat) : Making Value := do
  let s ← get
  match s.values.lookup id, s.graph.tag? id with
  | some v, _ => return v
  | none, none => throw .invalid
  | none, some tag =>
    if isCollection tag then
      set { s with values := (id, .collection id) :: s.values, pending := s.pending ++ [id] }
      return .collection id
    else
      let v := Value.scalar (← scalarOf s.graph id tag)
      set { s with values := (id, v) :: s.values }
      return v

/-- Whether a node denotes the one value that the word for no number has; any other such value equals only itself. -/
def isNaNWord (g : Graph) (id : Nat) : Bool :=
  (scalarText? g (g.size + 1) id).any fun t =>
    (Numeral.splitSign (Numeral.withoutLines t).lower).2 == Text.ofString ".nan"

/-- Whether the values of two nodes are the same key. -/
def sameKey (g : Graph) (a b : Nat × Scalar) : Bool :=
  if a.2.isNaN && b.2.isNaN then a.1 == b.1 || (isNaNWord g a.1 && isNaNWord g b.1)
  else a.2.same b.2

/-- An entry put into a mapping, whose keys come with their nodes: under the same key it replaces the value. -/
def putEntry (g : Graph) (key : Nat × Scalar) (value : Value) :
    List ((Nat × Scalar) × Value) → List ((Nat × Scalar) × Value)
  | [] => [(key, value)]
  | (old, v) :: entries => if sameKey g old key then (old, value) :: entries else (old, v) :: putEntry g key value entries

/-- The entries of a mapping, without its merge keys. A collection is no key. -/
def makeEntries (id : Nat) : Making (List (Scalar × Value)) := do
  let s ← get
  match s.graph.entries? id with
  | none => throw .invalid
  | some _ =>
    let g ← s.graph.flatten id
    set { s with graph := g }
    let entries ← ((g.entries? id).getD []).foldlM (fun entries (key, value) => do
      match ← valueOf key with
      | .collection _ => throw .invalid
      | .scalar k => return putEntry g (key, k) (← valueOf value) entries) []
    return entries.map fun ((_, k), v) => (k, v)

/-- The items of a sequence. -/
def makeItems (id : Nat) : Making (List Value) := do
  match (← get).graph.content? id with
  | some (.sequence items) => items.mapM valueOf
  | _ => throw .invalid

/-- The items of a sequence of mappings with one entry each. -/
def makePairs (id : Nat) : Making (List (Value × Value)) := do
  match (← get).graph.content? id with
  | some (.sequence items) => items.mapM fun item => do
      match (← get).graph.entries? item with
      | some [(key, value)] => return (← valueOf key, ← valueOf value)
      | _ => throw .invalid
  | _ => throw .invalid

/-- The collection that a node denotes. -/
def makeCollection (id : Nat) : Making Collection := do
  match (← get).graph.tag? id with
  | some .sequence => return .sequence (← makeItems id)
  | some .mapping => return .mapping (← makeEntries id)
  | some .set => return .set ((← makeEntries id).map Prod.fst)
  | some .orderedMapping | some .pairs => return .pairs (← makePairs id)
  | _ => throw .invalid

/-- Makes the pending collections in order. Each node is pending at most once. -/
def finish : (steps : Nat) → Making Unit
  | 0 => return
  | steps + 1 => do
    let s ← get
    match s.pending with
    | [] => return
    | id :: pending =>
      set { s with pending }
      let c ← makeCollection id
      modify fun s => { s with finished := (id, c) :: s.finished }
      finish steps

end Building

namespace Document

/-- The document of a graph that starts at a node. -/
def ofGraph (root : Nat) (g : Graph) : Except Fault Document := do
  let start : Building := { graph := g, values := [], pending := [], finished := [] }
  let (v, s) ← (do
    let v ← Building.valueOf root
    Building.finish g.size
    return v : Making Value).run start
  return { root := v, collections := s.finished }

/-- The document of a text. -/
def ofText (t : Text) : Except Fault Document := do
  match ← Graph.ofTokens (TokenStream.ofText t) with
  | none => return empty
  | some (root, g) => ofGraph root g

end Document

end ParenTokens.Yaml
