import ParenTokens.Json.Value
import ParenTokens.Text.Slice

namespace ParenTokens

/-!
# Reading JSON

Each reading function takes the text that is left and gives what it read and what is left after it. A fault is noted
with how much text is left where it lies, from which its place is computed at the end.

* `Json.ReadError`: why a text is no JSON value.
* `Json.readString`, `Json.readNumber`: the two scalars with a grammar of their own.
* `Json.readValue`: a value at the front of a text.
* `Json.read`: the value of a whole text.
-/

namespace Json

/-- What is wrong at some place of a text. -/
inductive Flaw
  | value
  | propertyName
  | colon
  | comma
  | extraData
  | controlCharacter
  | escape
  | unicodeEscape
  | unterminatedString
  | byteOrderMark
deriving DecidableEq, Repr

def Flaw.message : Flaw → Text
  | value => "Expecting value"
  | propertyName => "Expecting property name enclosed in double quotes"
  | colon => "Expecting ':' delimiter"
  | comma => "Expecting ',' delimiter"
  | extraData => "Extra data"
  | controlCharacter => "Invalid control character at"
  | escape => "Invalid \\escape"
  | unicodeEscape => "Invalid \\uXXXX escape"
  | unterminatedString => "Unterminated string starting at"
  | byteOrderMark => "Unexpected UTF-8 BOM (decode using utf-8-sig)"

/-- Why a text is no JSON value. -/
inductive ReadError
  /-- A flaw, with its position, line and column. -/
  | flaw (flaw : Flaw) (position line : Nat) (column : Int)
  /-- An integer of more digits than are read. -/
  | tooManyDigits (count : Nat)
deriving DecidableEq, Repr

def ReadError.message : ReadError → Text
  | flaw f position line column =>
    f.message ++ (": line " : Text) ++ Decimal.ofNat line ++ (" column " : Text) ++ Decimal.ofInt column ++
      (" (char " : Text) ++ Decimal.ofNat position ++ (")" : Text)
  | tooManyDigits count => Decimal.tooManyDigitsMessage count

/-- Where reading stopped: a flaw and the length of the text that was left there, or too long an integer. -/
inductive Stop
  | flaw (flaw : Flaw) (left : Nat)
  | tooManyDigits (count : Nat)
deriving DecidableEq, Repr

/-! ### Blanks and words -/

/-- The four blanks of JSON. -/
def isSpace (c : CodePoint) : Bool := c == ' ' || c == '\t' || c == '\n' || c == '\r'

def skipSpace (t : Text) : Text := t.dropWhile isSpace

/-- The text after a word that it starts with. -/
def after? : (word t : Text) → Option Text
  | [], t => some t
  | _ :: _, [] => none
  | w :: word, c :: t => if w = c then after? word t else none

/-! ### Strings -/

/-- The number that four hexadecimal digits denote. -/
def hex4? (a b c d : CodePoint) : Option Nat := do
  return ((((← a.hexValue?) * 16 + (← b.hexValue?)) * 16 + (← c.hexValue?)) * 16 + (← d.hexValue?))

/-- The code point of a high and a low surrogate. -/
def joinSurrogates (high low : Nat) : CodePoint :=
  CodePoint.ofNat (0x10000 + (high - 0xD800) * 0x400 + (low - 0xDC00))

/-- What a letter after a backslash stands for. -/
def shortEscape? (c : CodePoint) : Option CodePoint :=
  if c = Quoted.doubleQuote ∨ c = Quoted.backslash ∨ c = '/' then some c
  else if c = 'b' then some '\x08'
  else if c = 'f' then some '\x0c'
  else if c = 'n' then some '\n'
  else if c = 'r' then some '\r'
  else if c = 't' then some '\t'
  else none

/-- The rest of a string after its opening mark; `opened` is the length of the text from that mark on. A high surrogate
followed by the escape of a low one makes one code point with it, any other surrogate stands for itself. -/
def readString (opened : Nat) : Text → Except Stop (Text × Text)
  | [] => .error (.flaw .unterminatedString opened)
  | c :: rest =>
    if c = Quoted.doubleQuote then .ok ([], rest)
    else if c = Quoted.backslash then
      match rest with
      | [] => .error (.flaw .unterminatedString opened)
      | e :: rest =>
        if e = 'u' then
          match rest with
          | h₁ :: h₂ :: h₃ :: h₄ :: next :: rest =>
            match hex4? h₁ h₂ h₃ h₄ with
            | none => .error (.flaw .unicodeEscape (rest.length + 6))
            | some n =>
              let single := do
                let (t, left) ← readString opened (next :: rest)
                return (CodePoint.ofNat n :: t, left)
              if (CodePoint.ofNat n).isHighSurrogate && next == Quoted.backslash then
                match rest with
                | u :: l₁ :: l₂ :: l₃ :: l₄ :: next :: rest =>
                  if u = 'u' then
                    match hex4? l₁ l₂ l₃ l₄ with
                    | none => .error (.flaw .unicodeEscape (rest.length + 6))
                    | some m =>
                      if (CodePoint.ofNat m).isLowSurrogate then do
                        let (t, left) ← readString opened (next :: rest)
                        return (joinSurrogates n m :: t, left)
                      else single
                  else single
                | _ => single
              else single
          | _ => .error (.flaw .unicodeEscape (rest.length + 1))
        else
          match shortEscape? e with
          | none => .error (.flaw .escape (rest.length + 2))
          | some d => do
            let (t, left) ← readString opened rest
            return (d :: t, left)
    else if c.val < 0x20 then .error (.flaw .controlCharacter (rest.length + 1))
    else do
      let (t, left) ← readString opened rest
      return (c :: t, left)

/-! ### Numbers -/

/-- The digits at the front of a text, and what follows them. -/
def spanDigits (t : Text) : List Nat × Text :=
  ((t.takeWhile CodePoint.isAsciiDigit).map fun c => c.val - 0x30, t.dropWhile CodePoint.isAsciiDigit)

/-- A point and at least one digit. -/
def readFraction? : Text → Option (List Nat × Text)
  | [] => none
  | c :: t =>
    if c = '.' then
      match spanDigits t with
      | ([], _) => none
      | (ds, rest) => some (ds, rest)
    else none

/-- The letter E, perhaps a sign, and at least one digit. -/
def readExponent? : Text → Option (Int × Text)
  | [] => none
  | c :: t =>
    if c = 'e' ∨ c = 'E' then
      let (negative, t) := match t with
        | [] => (false, [])
        | s :: t' => if s = '-' then (true, t') else if s = '+' then (false, t') else (false, t)
      match spanDigits t with
      | ([], _) => none
      | (ds, rest) => some (if negative then -(Decimal.ofDigits ds : Int) else Decimal.ofDigits ds, rest)
    else none

/-- The whole part of a number: a zero, or digits that start with no zero. -/
def readWhole? (t : Text) : Option (List Nat × Text) :=
  match t with
  | [] => none
  | c :: rest =>
    if c = '0' then some ([0], rest)
    else match spanDigits t with
      | ([], _) => none
      | (ds, rest) => some (ds, rest)

/-- A number: a sign, a whole part, and perhaps a fraction and an exponent. One with neither is an integer. -/
def readNumber (t : Text) : Except Stop (Json × Text) :=
  let (negative, unsigned) := match t with
    | [] => (false, [])
    | c :: rest => if c = '-' then (true, rest) else (false, t)
  match readWhole? unsigned with
  | none => .error (.flaw .value t.length)
  | some (whole, rest) =>
    let (fraction, rest₁) := (readFraction? rest).getD ([], rest)
    let (exponent, rest₂) := match readExponent? rest₁ with
      | some (e, left) => (some e, left)
      | none => (none, rest₁)
    if fraction.isEmpty && exponent.isNone then
      if Decimal.digitLimit < whole.length then .error (.tooManyDigits whole.length)
      else .ok (.int (Binary64.signed negative (Decimal.ofDigits whole)), rest₂)
    else
      .ok (.float (Binary64.ofDecimal negative (Decimal.ofDigits (whole ++ fraction))
        (exponent.getD 0 - fraction.length)), rest₂)

/-! ### Values -/

/-- The words that denote values. -/
def words : List (Text × Json) :=
  [("null", .null), ("true", .bool true), ("false", .bool false), ("NaN", .float .nan),
    ("Infinity", .float (.infinite false)), ("-Infinity", .float (.infinite true))]

/-- A value denoted by a word. -/
def readWord? (t : Text) : Option (Json × Text) :=
  words.findSome? fun (word, value) => (after? word t).map fun rest => (value, rest)

mutual

/-- A value at the front of a text, which starts with no blank. Each nested value takes two `steps`. -/
def readValue : (steps : Nat) → Text → Except Stop (Json × Text)
  | 0, t => .error (.flaw .value t.length)
  | _ + 1, [] => .error (.flaw .value 0)
  | steps + 1, c :: rest =>
    if c = Quoted.doubleQuote then do
      let (t, left) ← readString (rest.length + 1) rest
      return (.string t, left)
    else if c = '[' then
      match skipSpace rest with
      | [] => .error (.flaw .value 0)
      | d :: inside =>
        if d = ']' then .ok (.array [], inside)
        else do
          let (items, left) ← readItems steps (d :: inside)
          return (.array items, left)
    else if c = '\x7b' then
      match skipSpace rest with
      | [] => .error (.flaw .propertyName 0)
      | d :: inside =>
        if d = '\x7d' then .ok (.object [], inside)
        else do
          let (pairs, left) ← readPairs steps (d :: inside)
          return (.object (Fields.ofPairs pairs), left)
    else
      match readWord? (c :: rest) with
      | some (value, left) => .ok (value, left)
      | none => readNumber (c :: rest)

/-- The items of an array that has some, and the closing bracket. -/
def readItems : (steps : Nat) → Text → Except Stop (List Json × Text)
  | 0, t => .error (.flaw .value t.length)
  | steps + 1, t => do
    let (item, left) ← readValue steps t
    match skipSpace left with
    | [] => .error (.flaw .comma 0)
    | c :: left =>
      if c = ']' then return ([item], left)
      else if c = ',' then do
        let (items, left) ← readItems steps (skipSpace left)
        return (item :: items, left)
      else .error (.flaw .comma (left.length + 1))

/-- The keys and values of an object that has some, and the closing brace. -/
def readPairs : (steps : Nat) → Text → Except Stop (List (Text × Json) × Text)
  | 0, t => .error (.flaw .propertyName t.length)
  | _ + 1, [] => .error (.flaw .propertyName 0)
  | steps + 1, c :: rest =>
    if c = Quoted.doubleQuote then do
      let (key, left) ← readString (rest.length + 1) rest
      match skipSpace left with
      | [] => .error (.flaw .colon 0)
      | c :: left =>
        if c = ':' then do
          let (value, left) ← readValue steps (skipSpace left)
          match skipSpace left with
          | [] => .error (.flaw .comma 0)
          | c :: left =>
            if c = '\x7d' then return ([(key, value)], left)
            else if c = ',' then do
              let (pairs, left) ← readPairs steps (skipSpace left)
              return ((key, value) :: pairs, left)
            else .error (.flaw .comma (left.length + 1))
        else .error (.flaw .colon (left.length + 1))
    else .error (.flaw .propertyName (rest.length + 1))

end

/-- The flaw in a text where so much of it was left. -/
def ReadError.at (t : Text) (f : Flaw) (left : Nat) : ReadError :=
  let position := t.length - left
  let (line, column) := t.lineColumn position
  .flaw f position line column

/-- The value of a text that holds one and nothing else but blanks. -/
def read (t : Text) : Except ReadError Json :=
  if t.head?.any (·.val == 0xFEFF) then .error (.at t .byteOrderMark t.length)
  else
    match readValue (2 * t.length + 2) (skipSpace t) with
    | .error (.flaw f left) => .error (.at t f left)
    | .error (.tooManyDigits count) => .error (.tooManyDigits count)
    | .ok (value, left) =>
      match skipSpace left with
      | [] => .ok value
      | rest => .error (.at t .extraData rest.length)

end Json

end ParenTokens
