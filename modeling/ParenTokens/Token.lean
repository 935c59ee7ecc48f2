import ParenTokens.Text.Quoted

namespace ParenTokens

/-!
# Tokens

* `TokenKind`: the five kinds, with the names that listings and dumps use.
* `Token`: a kind, the position of its first code point, and a text for strings and identifiers.
* `Token.display`: a token on one line.
-/

inductive TokenKind
  | leftParen
  | rightParen
  | string
  | identifier
  | endOfInput
deriving DecidableEq, Repr

namespace TokenKind

def name : TokenKind → Text
  | leftParen => "LPAREN"
  | rightParen => "RPAREN"
  | string => "STRING"
  | identifier => "IDENTIFIER"
  | endOfInput => "EOF"

def all : List TokenKind := [leftParen, rightParen, string, identifier, endOfInput]

/-- The kind of a given name. -/
def ofName? (name : Text) : Option TokenKind := all.find? fun kind => kind.name == name

/-- Strings and identifiers are told apart by their texts, the other kinds have none. -/
def hasText : TokenKind → Bool
  | string | identifier => true
  | leftParen | rightParen | endOfInput => false

end TokenKind

/-- A token. A scanner gives only positions from zero on; tokens made by hand may have any. -/
structure Token where
  kind : TokenKind
  position : Int
  text : Text
deriving DecidableEq, Repr

/-- The kind, the quoted text of a string or an identifier in parentheses, and the position after an at sign. -/
def Token.display (t : Token) : Text :=
  let text := if t.kind.hasText then ("(" : Text) ++ Quoted.quote t.text ++ (")" : Text) else []
  t.kind.name ++ text ++ ("@" : Text) ++ Decimal.ofInt t.position

end ParenTokens
