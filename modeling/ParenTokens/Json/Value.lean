import ParenTokens.Number.Shortest
import ParenTokens.Text.Quoted

namespace ParenTokens

/-!
# JSON values

* `Json`: a value; an object keeps its fields in order, each key once.
* `Json.Fields.put`, `Json.Fields.ofPairs`: the last value given for a key, at the place of the first.
* `Json.get?`: a field of an object.
* `Json.display`: a value as messages show it.
-/

/-- A JSON value. Integers and floating-point numbers are told apart by how they are written. -/
inductive Json
  | null
  | bool (b : Bool)
  | int (i : Int)
  | float (x : Binary64)
  | string (t : Text)
  | array (items : List Json)
  | object (fields : List (Text × Json))

namespace Json

instance : Inhabited Json := ⟨null⟩

/-! ### Fields -/

/-- Gives a key a value: in its place if the key is there, else at the end. -/
def Fields.put (key : Text) (value : Json) : List (Text × Json) → List (Text × Json)
  | [] => [(key, value)]
  | (k, v) :: fields => if k = key then (k, value) :: fields else (k, v) :: Fields.put key value fields

/-- The fields that pairs of keys and values give one after another. -/
def Fields.ofPairs (pairs : List (Text × Json)) : List (Text × Json) :=
  pairs.foldl (fun fields (key, value) => Fields.put key value fields) []

/-- The value of a key. -/
def Fields.get? (key : Text) (fields : List (Text × Json)) : Option Json := fields.lookup key

/-! ### Display -/

/-- What messages call the type of a value. -/
def typeName : Json → Text
  | null => "NoneType"
  | bool _ => "bool"
  | int _ => "int"
  | float _ => "float"
  | string _ => "str"
  | array _ => "list"
  | object _ => "dict"

mutual

/-- A value as messages show it: texts quoted, a comma and a space between items. -/
def display : Json → Text
  | null => "None"
  | bool b => if b then "True" else "False"
  | int i => Decimal.ofInt i
  | float x => x.display
  | string t => Quoted.quote t
  | array items => ("[" : Text) ++ Text.join ", " (displayItems items) ++ ("]" : Text)
  | object fields => ("\x7b" : Text) ++ Text.join ", " (displayFields fields) ++ ("\x7d" : Text)

def displayItems : List Json → List Text
  | [] => []
  | item :: items => item.display :: displayItems items

def displayFields : List (Text × Json) → List Text
  | [] => []
  | (key, value) :: fields => (Quoted.quote key ++ (": " : Text) ++ value.display) :: displayFields fields

end

end Json

end ParenTokens
