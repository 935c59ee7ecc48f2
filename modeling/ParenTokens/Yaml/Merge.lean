import ParenTokens.Yaml.Fault
import ParenTokens.Yaml.Node

namespace ParenTokens.Yaml

/-!
# Merge keys

A mapping takes over the entries of the mappings under its merge keys. They come before its own entries, so that its
own entries win, and in a list of mappings the earlier ones win.

* `Graph.takeMergeKey?`: the first merge key of a mapping, taken out of it.
* `Graph.flatten`: a mapping without merge keys.
-/

namespace Graph

/-- The value under the first merge key among some entries, and the entries without it. -/
def splitMergeKey? (g : Graph) : List (Nat × Nat) → Option (Nat × List (Nat × Nat))
  | [] => none
  | (key, value) :: entries =>
    if g.hasTag .merge key then some (value, entries)
    else (splitMergeKey? g entries).map fun (merged, rest) => (merged, (key, value) :: rest)

/-- The value under the first merge key of a mapping, and the graph where that key is gone. -/
def takeMergeKey? (id : Nat) (g : Graph) : Option (Nat × Graph) := do
  let (merged, rest) ← g.splitMergeKey? (← g.entries? id)
  some (merged, g.setContent id (.mapping rest))

/-- How many merge keys there are. -/
def countMergeKeys (g : Graph) : Nat :=
  let entriesOf (node : Node) : List (Nat × Nat) := match node.content with
    | .mapping entries => entries
    | _ => []
  (g.toList.flatMap entriesOf).countP fun (key, _) => g.hasTag .merge key

/-- The keys of a mapping that are tagged as defaults denote their texts. -/
def settleDefaultKeys (id : Nat) (g : Graph) : Graph :=
  ((g.entries? id).getD []).foldl
    (fun g entry => if g.hasTag .default entry.1 then g.setTag entry.1 .text else g) g

/-- Takes the merge keys out of a mapping, one after another, and puts the entries that were merged before the others.
A mapping under a merge key is itself flattened first; every step takes a merge key out of the graph. -/
def flattenFrom : (steps : Nat) → (id : Nat) → (merged : List (Nat × Nat)) → Graph → Except Fault Graph
  | 0, _, _, _ => .error .invalid
  | steps + 1, id, merged, g =>
    match g.takeMergeKey? id with
    | none =>
      let own := (g.entries? id).getD []
      .ok ((g.setContent id (.mapping (merged ++ own))).settleDefaultKeys id)
    | some (value, g) =>
      match g.content? value with
      | some (.mapping _) => do
        let g ← flattenFrom steps value [] g
        flattenFrom steps id (merged ++ (g.entries? value).getD []) g
      | some (.sequence items) => do
        let (parts, g) ← items.foldlM (fun (parts, g) item =>
          match g.entries? item with
          | none => throw .invalid
          | some _ => do
            let g ← flattenFrom steps item [] g
            return ((g.entries? item).getD [] :: parts, g)) (([], g) : List (List (Nat × Nat)) × Graph)
        flattenFrom steps id (merged ++ parts.flatten) g
      | _ => .error .invalid

/-- The graph where a mapping has no merge keys. -/
def flatten (id : Nat) (g : Graph) : Except Fault Graph := flattenFrom (g.countMergeKeys + 1) id [] g

end Graph

end ParenTokens.Yaml
