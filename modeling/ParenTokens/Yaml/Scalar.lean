import ParenTokens.Number.Shortest
import ParenTokens.Text.Base64
import ParenTokens.Yaml.Node
import ParenTokens.Yaml.Numeral
import ParenTokens.Yaml.Timestamp

namespace ParenTokens.Yaml

/-!
# Scalar values

* `Scalar`: the values that a scalar node can denote.
* `Scalar.ofText`: the value of a text under a tag.
* `Scalar.display?`: the text that shows a value.
* `Scalar.same`: whether two values are the same key; numbers are compared by what they count, and a truth value
  counts as zero or one.
-/

/-- A value without parts. -/
inductive Scalar
  | null
  | truthValue (b : Bool)
  | integer (n : Int)
  | float (x : Binary64)
  | text (t : Text)
  | binary (bytes : List UInt8)
  | timestamp (t : Timestamp)
deriving DecidableEq, Repr

namespace Scalar

/-- The words for truth values, in lower case. -/
def truthValues : List (Text × Bool) :=
  [("yes", true), ("no", false), ("true", true), ("false", false), ("on", true), ("off", false)]

/-- The value of a text under a tag. Tags of collections and unknown ones give no scalar. -/
def ofText (tag : Tag) (t : Text) : Except Fault Scalar :=
  match tag with
  | .null => .ok .null
  | .truthValue =>
    match truthValues.lookup t.lower with
    | some b => .ok (.truthValue b)
    | none => .error (.refused (.truthValue t.lower))
  | .integer => ((Numeral.integer t).map integer).mapError .refused
  | .float => ((Numeral.float t).map float).mapError .refused
  | .text => .ok (.text t)
  | .binary =>
    if t.all Numeral.isAscii then
      match Base64.decode t with
      | some bytes => .ok (.binary bytes)
      | none => .error .invalid
    else .error .invalid
  | .timestamp =>
    match Stamp.parse? t with
    | none => .error (.refused .timestamp)
    | some s => (s.toTimestamp.map timestamp).mapError .refused
  | _ => .error .invalid

/-- The text that shows a value. An integer of too many digits has none. -/
def display? : Scalar → Option Text
  | null => some "None"
  | truthValue b => some (if b then "True" else "False")
  | integer n =>
    let shown := Decimal.ofInt n
    if Decimal.digitLimit < (Decimal.ofNat n.natAbs).length then none else some shown
  | float x => some x.display
  | text t => some t
  | binary bytes => some (Quoted.quoteBytes bytes)
  | timestamp t => some t.display

/-- The number that a value counts as: an integer, or what is no integer. -/
def count? : Scalar → Option (Int ⊕ Binary64)
  | truthValue b => some (.inl (if b then 1 else 0))
  | integer n => some (.inl n)
  | float x => some (match x.toInt? with
    | some n => .inl n
    | none => .inr x)
  | _ => none

def isNaN : Scalar → Bool
  | float .nan => true
  | _ => false

/-- Whether two values are the same key. -/
def same (a b : Scalar) : Bool :=
  match a, b with
  | timestamp s, timestamp t => s.same t
  | _, _ =>
    match a.count?, b.count? with
    | some m, some n => m == n
    | none, none => a == b
    | _, _ => false

end Scalar

end ParenTokens.Yaml
