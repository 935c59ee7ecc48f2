import ParenTokens.Text.Slice
import ParenTokens.Number.Decimal

namespace ParenTokens

/-!
# UTF-8

* `CodePoint.utf8`: the bytes of a code point; a surrogate gets the three bytes its number calls for.
* `Utf8.sequenceLength`: how many bytes a lead byte announces.
* `Utf8.step`: the code point at the front of some bytes, or how many of them start none and why.
* `Utf8.decode`: all of the bytes, or the first malformed sequence.
* `Utf8.decodeReplacing`: all of the bytes, with U+FFFD for each malformed sequence.
* `Utf8.step_width_pos`: each step passes over at least one byte.
-/

/-- The bytes of a code point in UTF-8, without the exception that the standard makes for surrogates. -/
def CodePoint.utf8 (c : CodePoint) : List UInt8 :=
  let n := c.val
  if n < 0x80 then [n.toUInt8]
  else if n < 0x800 then [(0xC0 + n / 0x40).toUInt8, (0x80 + n % 0x40).toUInt8]
  else if n < 0x10000 then
    [(0xE0 + n / 0x1000).toUInt8, (0x80 + n / 0x40 % 0x40).toUInt8, (0x80 + n % 0x40).toUInt8]
  else
    [(0xF0 + n / 0x40000).toUInt8, (0x80 + n / 0x1000 % 0x40).toUInt8, (0x80 + n / 0x40 % 0x40).toUInt8,
      (0x80 + n % 0x40).toUInt8]

/-- The bytes of a text in UTF-8. -/
def Text.utf8 (t : Text) : List UInt8 := t.flatMap CodePoint.utf8

namespace Utf8

/-- The number of bytes that a lead byte announces; zero for a byte that leads none. -/
def sequenceLength (lead : UInt8) : Nat :=
  if lead < 0x80 then 1
  else if lead < 0xC2 then 0
  else if lead < 0xE0 then 2
  else if lead < 0xF0 then 3
  else if lead < 0xF5 then 4
  else 0

/-- Whether a byte has the form of a continuation byte. -/
def isContinuation (b : UInt8) : Bool := 0x80 ≤ b && b < 0xC0

/-- Whether a byte may follow a lead byte: a continuation byte that gives neither a longer form than needed, nor a
surrogate, nor a number beyond the last code point. -/
def maySecond (lead b : UInt8) : Bool :=
  isContinuation b && (lead != 0xE0 || 0xA0 ≤ b) && (lead != 0xED || b < 0xA0) && (lead != 0xF0 || 0x90 ≤ b) &&
    (lead != 0xF4 || b < 0x90)

/-- Why bytes are not UTF-8. -/
inductive Reason
  | invalidStart
  | invalidContinuation
  | unexpectedEnd
deriving DecidableEq, Repr

def Reason.message : Reason → Text
  | .invalidStart => "invalid start byte"
  | .invalidContinuation => "invalid continuation byte"
  | .unexpectedEnd => "unexpected end of data"

/-- What stands at the front of some bytes: a code point in `width` bytes, or `width` bytes that begin no code point. -/
inductive Step
  | codePoint (c : CodePoint) (width : Nat)
  | malformed (width : Nat) (reason : Reason)
deriving DecidableEq, Repr

def Step.width : Step → Nat
  | .codePoint _ width => width
  | .malformed width _ => width

/-- The low six bits of a continuation byte. -/
def payload (b : UInt8) : Nat := b.toNat % 0x40

/-- The continuation bytes after a lead byte and a fitting second byte: `value` holds the bits read so far, `width` the
bytes read so far, and `more` says how many are still due. -/
def continuations : (more width value : Nat) → List UInt8 → Step
  | 0, width, value, _ => .codePoint (CodePoint.ofNat value) width
  | _ + 1, width, _, [] => .malformed width .unexpectedEnd
  | more + 1, width, value, b :: bs =>
    if isContinuation b then continuations more (width + 1) (value * 0x40 + payload b) bs
    else .malformed width .invalidContinuation

/-- What a lead byte and the bytes after it begin with. A malformed sequence is as long as it still agrees with some
well-formed one, and at least one byte. -/
def step (lead : UInt8) (tail : List UInt8) : Step :=
  match sequenceLength lead with
  | 0 => .malformed 1 .invalidStart
  | 1 => .codePoint (CodePoint.ofNat lead.toNat) 1
  | more + 2 =>
    match tail with
    | [] => .malformed 1 .unexpectedEnd
    | b :: bs =>
      if maySecond lead b then
        continuations more 2 (lead.toNat % Nat.pow 2 (5 - more) * 0x40 + payload b) bs
      else .malformed 1 .invalidContinuation

theorem width_continuations_ge (more width value : Nat) (bs : List UInt8) :
    width ≤ (continuations more width value bs).width := by
  induction more generalizing width value bs with
  | zero => simp [continuations, Step.width]
  | succ more ih =>
    cases bs with
    | nil => simp [continuations, Step.width]
    | cons b bs =>
      simp only [continuations]
      split
      · exact Nat.le_trans (Nat.le_succ _) (ih _ _ _)
      · simp [Step.width]

/-- A step passes over at least one byte. -/
theorem step_width_pos (lead : UInt8) (tail : List UInt8) : 0 < (step lead tail).width := by
  unfold step
  split
  · simp [Step.width]
  · simp [Step.width]
  · split
    · simp [Step.width]
    · split
      · exact Nat.lt_of_lt_of_le (by decide) (width_continuations_ge _ _ _ _)
      · simp [Step.width]

/-- The first malformed sequence of some bytes: where it starts, its bytes, and what is wrong. -/
structure DecodeError where
  start : Nat
  bytes : List UInt8
  reason : Reason
deriving DecidableEq, Repr

/-- A single byte is named by its value, several by the places of the first and the last. -/
def DecodeError.message (e : DecodeError) : Text :=
  let subject : Text := match e.bytes with
    | [b] => ("byte 0x" : Text) ++ Decimal.hex 2 b.toNat ++ (" in position " : Text) ++ Decimal.ofNat e.start
    | bytes => ("bytes in position " : Text) ++ Decimal.ofNat e.start ++ ("-" : Text) ++
        Decimal.ofNat (e.start + bytes.length - 1)
  ("'utf-8' codec can't decode " : Text) ++ subject ++ (": " : Text) ++ e.reason.message

/-- Decodes bytes that start at place `start` of a larger whole. -/
def decodeFrom (start : Nat) : List UInt8 → Except DecodeError Text
  | [] => .ok []
  | b :: bs =>
    match h : step b bs with
    | .codePoint c width =>
      have : width ≠ 0 := by
        have := step_width_pos b bs
        rw [h] at this
        exact Nat.pos_iff_ne_zero.1 this
      match decodeFrom (start + width) ((b :: bs).drop width) with
      | .ok t => .ok (c :: t)
      | .error e => .error e
    | .malformed width reason => .error ⟨start, (b :: bs).take width, reason⟩
termination_by bytes => bytes.length
decreasing_by
  simp only [List.length_drop, List.length_cons]
  omega

/-- The text that bytes encode, or their first malformed sequence. -/
def decode (bytes : List UInt8) : Except DecodeError Text := decodeFrom 0 bytes

/-- The text that bytes encode, with U+FFFD in the place of each malformed sequence. -/
def decodeReplacing : List UInt8 → Text
  | [] => []
  | b :: bs =>
    have : (step b bs).width ≠ 0 := Nat.pos_iff_ne_zero.1 (step_width_pos b bs)
    let c := match step b bs with
      | .codePoint c _ => c
      | .malformed _ _ => CodePoint.replacement
    c :: decodeReplacing ((b :: bs).drop (step b bs).width)
termination_by bytes => bytes.length
decreasing_by
  simp only [List.length_drop, List.length_cons]
  omega

end Utf8

end ParenTokens
