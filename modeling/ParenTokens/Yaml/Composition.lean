import ParenTokens.Yaml.Implicit
import ParenTokens.Yaml.Lexer

namespace ParenTokens.Yaml

/-!
# From tokens to the graph

Each production of the grammar takes tokens from the front of a stream and adds nodes to a graph. A production that
finds a token it does not know refuses it; where a node may be missing, it is an empty scalar.

* `Draft`: the tokens that are left, and the graph with its anchors and tag handles so far.
* `Draft.readNode`, `Draft.readContent`: a node with its properties, and what follows them.
* `Draft.readDocument`: the only document of a stream.
* `Graph.ofTokens`: the graph of a stream, and the number of its first node.
-/

/-- Tokens that are left, and what was made of those before them. -/
structure Draft where
  tokens : List Token
  ending : Fault
  graph : Graph
  anchors : List (Text × Nat)
  handles : List (Text × Text)
deriving Repr

/-- A production of the grammar. -/
abbrev Reading := StateT Draft (Except Fault)

namespace Draft

/-- The next token, which stays. -/
def peek : Reading Token := do
  let s ← get
  match s.tokens with
  | [] => throw s.ending
  | t :: _ => return t

/-- Passes over the next token. -/
def drop : Reading Unit := modify fun s => { s with tokens := s.tokens.drop 1 }

/-- The next token, passed over. -/
def next : Reading Token := do
  let t ← peek
  drop
  return t

/-- Adds a node and gives its number. -/
def add (tag : Tag) (content : Content) : Reading Nat := do
  let s ← get
  set { s with graph := s.graph.push ⟨tag, content⟩ }
  return s.graph.size

/-- Fixes the items of a collection that was added before them. -/
def fill (id : Nat) (content : Content) : Reading Unit :=
  modify fun s => { s with graph := s.graph.setContent id content }

/-- A node that is not written. -/
def missing : Reading Nat := add .null (.scalar [])

/-! ### Properties -/

/-- What stands before the content of a node. -/
structure Properties where
  anchor : Option Text
  tag : Option Text
deriving DecidableEq, Repr

/-- The handles that need no directive. -/
def standardHandles : List (Text × Text) := [("!", "!"), ("!!", Tag.standard)]

/-- The full name of a tag. -/
def resolveHandle (handle : Option Text) (suffix : Text) : Reading Text := do
  match handle with
  | none => return suffix
  | some name =>
    match (← get).handles.lookup name with
    | none => throw .invalid
    | some uri => return uri ++ suffix

/-- An anchor and a tag in either order, each of them perhaps missing. -/
def readProperties : Reading Properties := do
  match ← peek with
  | .anchor name =>
    drop
    match ← peek with
    | .tag handle suffix =>
      drop
      return ⟨some name, some (← resolveHandle handle suffix)⟩
    | _ => return ⟨some name, none⟩
  | .tag handle suffix =>
    drop
    match ← peek with
    | .anchor name =>
      drop
      return ⟨some name, some (← resolveHandle handle suffix)⟩
    | _ => return ⟨none, some (← resolveHandle handle suffix)⟩
  | _ => return ⟨none, none⟩

/-- The tag that asks for the one of the content. -/
def plainTag : Text := "!"

/-- The tag of a scalar. -/
def Properties.scalarTag (ps : Properties) (plain : Bool) (t : Text) : Tag :=
  match ps.tag with
  | none => if plain then Implicit.tag t else .text
  | some name => if name = plainTag then Implicit.tag t else .ofName name

/-- The tag of a collection. -/
def Properties.collectionTag (ps : Properties) (standard : Tag) : Tag :=
  match ps.tag with
  | none => standard
  | some name => if name = plainTag then standard else .ofName name

/-- Adds a node under its anchor, which must be a new one. -/
def addAnchored (ps : Properties) (tag : Tag) (content : Content) : Reading Nat := do
  match ps.anchor with
  | none => add tag content
  | some name =>
    if ((← get).anchors.lookup name).isSome then throw .invalid
    else
      let id ← add tag content
      modify fun s => { s with anchors := (name, id) :: s.anchors }
      return id

/-! ### Nodes -/

/-- Where a node stands. Only as a part of an entry of a block mapping, a block sequence may have the indentation of the
block around it. -/
inductive Setting
  | flow
  | block
  | entryPart
deriving DecidableEq, Repr

mutual

/-- A node. Each nested production takes one of the `steps`. -/
def readNode : (steps : Nat) → Setting → Reading Nat
  | 0, _ => throw .invalid
  | steps + 1, setting => do
    match ← peek with
    | .reference name =>
      drop
      match (← get).anchors.lookup name with
      | some id => return id
      | none => throw .invalid
    | _ => readContent steps setting (← readProperties)

/-- What follows the properties of a node. -/
def readContent : (steps : Nat) → Setting → Properties → Reading Nat
  | 0, _, _ => throw .invalid
  | steps + 1, setting, ps => do
    match setting, ← peek with
    | .entryPart, .blockEntry =>
      let id ← addAnchored ps (ps.collectionTag .sequence) (.sequence [])
      fill id (.sequence (← readUnindentedItems steps))
      return id
    | _, .scalar t plain =>
      drop
      addAnchored ps (ps.scalarTag plain t) (.scalar t)
    | _, .flowSequenceStart =>
      let id ← addAnchored ps (ps.collectionTag .sequence) (.sequence [])
      drop
      fill id (.sequence (← readFlowItems steps true))
      return id
    | _, .flowMappingStart =>
      let id ← addAnchored ps (ps.collectionTag .mapping) (.mapping [])
      drop
      fill id (.mapping (← readFlowEntries steps true))
      return id
    | .block, .blockSequenceStart | .entryPart, .blockSequenceStart =>
      let id ← addAnchored ps (ps.collectionTag .sequence) (.sequence [])
      drop
      fill id (.sequence (← readBlockItems steps))
      return id
    | .block, .blockMappingStart | .entryPart, .blockMappingStart =>
      let id ← addAnchored ps (ps.collectionTag .mapping) (.mapping [])
      drop
      fill id (.mapping (← readBlockEntries steps))
      return id
    | _, _ =>
      if ps.anchor.isNone && ps.tag.isNone then throw .invalid
      else addAnchored ps (ps.scalarTag true []) (.scalar [])

/-- The items of a block sequence and its end. -/
def readBlockItems : (steps : Nat) → Reading (List Nat)
  | 0 => throw .invalid
  | steps + 1 => do
    match ← next with
    | .blockEntry =>
      let item ← match ← peek with
        | .blockEntry | .blockEnd => missing
        | _ => readNode steps .block
      return item :: (← readBlockItems steps)
    | .blockEnd => return []
    | _ => throw .invalid

/-- The items of a block sequence that has no end of its own. -/
def readUnindentedItems : (steps : Nat) → Reading (List Nat)
  | 0 => throw .invalid
  | steps + 1 => do
    match ← peek with
    | .blockEntry =>
      drop
      let item ← match ← peek with
        | .blockEntry | .key | .value | .blockEnd => missing
        | _ => readNode steps .block
      return item :: (← readUnindentedItems steps)
    | _ => return []

/-- The entries of a block mapping and its end. -/
def readBlockEntries : (steps : Nat) → Reading (List (Nat × Nat))
  | 0 => throw .invalid
  | steps + 1 => do
    match ← next with
    | .key =>
      let key ← match ← peek with
        | .key | .value | .blockEnd => missing
        | _ => readNode steps .entryPart
      let value ← match ← peek with
        | .value => do
          drop
          match ← peek with
          | .key | .value | .blockEnd => missing
          | _ => readNode steps .entryPart
        | _ => missing
      return (key, value) :: (← readBlockEntries steps)
    | .blockEnd => return []
    | _ => throw .invalid

/-- The items of a flow sequence and its end. A single entry of a mapping may stand as an item. -/
def readFlowItems : (steps : Nat) → (first : Bool) → Reading (List Nat)
  | 0, _ => throw .invalid
  | steps + 1, first => do
    match ← peek with
    | .flowSequenceEnd =>
      drop
      return []
    | t =>
      if !first then
        if t = .flowEntry then drop else throw .invalid
      match ← peek with
      | .flowSequenceEnd =>
        drop
        return []
      | .key =>
        let id ← add .mapping (.mapping [])
        drop
        let key ← match ← peek with
          | .value | .flowEntry | .flowSequenceEnd => missing
          | _ => readNode steps .flow
        let value ← match ← peek with
          | .value => do
            drop
            match ← peek with
            | .flowEntry | .flowSequenceEnd => missing
            | _ => readNode steps .flow
          | _ => missing
        fill id (.mapping [(key, value)])
        return id :: (← readFlowItems steps false)
      | _ =>
        let item ← readNode steps .flow
        return item :: (← readFlowItems steps false)

/-- The entries of a flow mapping and its end. A key may stand alone. -/
def readFlowEntries : (steps : Nat) → (first : Bool) → Reading (List (Nat × Nat))
  | 0, _ => throw .invalid
  | steps + 1, first => do
    match ← peek with
    | .flowMappingEnd =>
      drop
      return []
    | t =>
      if !first then
        if t = .flowEntry then drop else throw .invalid
      match ← peek with
      | .flowMappingEnd =>
        drop
        return []
      | .key =>
        drop
        let key ← match ← peek with
          | .value | .flowEntry | .flowMappingEnd => missing
          | _ => readNode steps .flow
        let value ← match ← peek with
          | .value => do
            drop
            match ← peek with
            | .flowEntry | .flowMappingEnd => missing
            | _ => readNode steps .flow
          | _ => missing
        return (key, value) :: (← readFlowEntries steps false)
      | _ =>
        let key ← readNode steps .flow
        let value ← missing
        return (key, value) :: (← readFlowEntries steps false)

end

/-! ### Documents -/

/-- The directives before a document: at most one version, which is the first major one, and no handle twice. -/
def readDirectives : (steps : Nat) → (versioned : Bool) → (handles : List (Text × Text)) → Reading (List (Text × Text))
  | 0, _, _ => throw .invalid
  | steps + 1, versioned, handles => do
    match ← peek with
    | .directive (.version major _) =>
      drop
      if versioned || major != 1 then throw .invalid
      readDirectives steps true handles
    | .directive (.handle name uri) =>
      drop
      if (handles.lookup name).isSome then throw .invalid
      readDirectives steps versioned ((name, uri) :: handles)
    | .directive .other =>
      drop
      readDirectives steps versioned handles
    | _ => return handles

/-- Directives and the mark that starts a document. -/
def readDocumentStart (steps : Nat) : Reading Unit := do
  let handles ← readDirectives steps false []
  match ← next with
  | .documentStart => modify fun s => { s with handles := handles ++ standardHandles }
  | _ => throw .invalid

/-- The first node of a document that starts with a mark; it may be missing. -/
def readMarkedDocument (steps : Nat) : Reading Nat := do
  readDocumentStart steps
  match ← peek with
  | .directive _ | .documentStart | .documentEnd | .streamEnd => missing
  | _ => readNode steps .block

/-- Marks that end documents. -/
def skipDocumentEnds : (steps : Nat) → Reading Unit
  | 0 => throw .invalid
  | steps + 1 => do
    match ← peek with
    | .documentEnd =>
      drop
      skipDocumentEnds steps
    | _ => return

/-- The only document of a stream, which may be missing: the number of its first node. -/
def readDocument (steps : Nat) : Reading (Option Nat) := do
  let root ← match ← peek with
    | .streamEnd => return none
    | .directive _ | .documentStart => readMarkedDocument steps
    | _ => readNode steps .block
  skipDocumentEnds steps
  match ← peek with
  | .streamEnd => return some root
  | _ =>
    readDocumentStart steps
    throw .invalid

end Draft

/-- The graph of a stream and the number of its first node, or none for a stream without a document. -/
def Graph.ofTokens (stream : TokenStream) : Except Fault (Option (Nat × Graph)) := do
  let start : Draft :=
    { tokens := stream.tokens, ending := stream.ending, graph := #[], anchors := [], handles := Draft.standardHandles }
  let (root, s) ← (Draft.readDocument (3 * stream.tokens.length + 3)).run start
  return root.map fun id => (id, s.graph)

end ParenTokens.Yaml
