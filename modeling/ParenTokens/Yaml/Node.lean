import ParenTokens.Text.CodePoint

namespace ParenTokens.Yaml

/-!
# The graph of a YAML document

A document is a graph: a reference leads back to the node with its anchor, which may even contain it.

* `Tag`, `Tag.ofName`: what kind of value a node denotes.
* `Content`, `Node`: a scalar with its text, or a collection with the numbers of its items.
* `Graph`: the nodes of a document by number.
-/

/-- The tags that denote something; `unknown` stands for all others. -/
inductive Tag
  | null
  | truthValue
  | integer
  | float
  | text
  | binary
  | timestamp
  | sequence
  | mapping
  | set
  | orderedMapping
  | pairs
  | merge
  | default
  | unknown
deriving DecidableEq, Repr

namespace Tag

/-- What the names of the standard tags start with. -/
def standard : Text := "tag:yaml.org,2002:"

/-- The names of the standard tags after their common start. -/
def names : List (Text × Tag) :=
  [("null", .null), ("bool", .truthValue), ("int", .integer), ("float", .float), ("str", .text), ("binary", .binary),
    ("timestamp", .timestamp), ("seq", .sequence), ("map", .mapping), ("set", .set), ("omap", .orderedMapping),
    ("pairs", .pairs), ("merge", .merge), ("value", .default)]

/-- The tag of a full name. -/
def ofName (name : Text) : Tag :=
  if name.take standard.length = standard then
    ((names.find? fun entry => entry.1 == name.drop standard.length).map Prod.snd).getD .unknown
  else .unknown

end Tag

/-- What a node consists of. Collections hold the numbers of other nodes. -/
inductive Content
  | scalar (text : Text)
  | sequence (items : List Nat)
  | mapping (entries : List (Nat × Nat))
deriving DecidableEq, Repr

structure Node where
  tag : Tag
  content : Content
deriving DecidableEq, Repr

/-- Nodes by number. -/
abbrev Graph := Array Node

namespace Graph

def content? (g : Graph) (id : Nat) : Option Content := (g[id]?).map Node.content

def tag? (g : Graph) (id : Nat) : Option Tag := (g[id]?).map Node.tag

/-- The entries of a node that is a mapping. -/
def entries? (g : Graph) (id : Nat) : Option (List (Nat × Nat)) :=
  match g.content? id with
  | some (.mapping entries) => some entries
  | _ => none

def hasTag (g : Graph) (tag : Tag) (id : Nat) : Bool := g.tag? id == some tag

def setContent (id : Nat) (content : Content) (g : Graph) : Graph :=
  g.modify id fun node => { node with content }

def setTag (id : Nat) (tag : Tag) (g : Graph) : Graph := g.modify id fun node => { node with tag }

end Graph

end ParenTokens.Yaml
