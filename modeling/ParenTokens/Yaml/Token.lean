import ParenTokens.Text.CodePoint

namespace ParenTokens.Yaml

/-!
# YAML tokens

A block collection starts with a token of its own and ends with `blockEnd`; both come from indentation alone.

* `Directive`: a line that starts with a percent sign.
* `Token`: the tokens.
-/

/-- What a line that starts with a percent sign says. -/
inductive Directive
  | version (major minor : Nat)
  | handle (name uri : Text)
  | other
deriving DecidableEq, Repr

/-- Tokens. A tag keeps its handle, if it is written with one; a scalar keeps whether it is written without marks. -/
inductive Token
  | directive (d : Directive)
  | documentStart
  | documentEnd
  | streamEnd
  | blockSequenceStart
  | blockMappingStart
  | blockEnd
  | flowSequenceStart
  | flowSequenceEnd
  | flowMappingStart
  | flowMappingEnd
  | key
  | value
  | blockEntry
  | flowEntry
  | reference (name : Text)
  | anchor (name : Text)
  | tag (handle : Option Text) (suffix : Text)
  | scalar (text : Text) (plain : Bool)
deriving DecidableEq, Repr

end ParenTokens.Yaml
