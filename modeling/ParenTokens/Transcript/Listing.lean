import ParenTokens.Transcript.Record
import ParenTokens.Transcript.Paint

namespace ParenTokens

/-!
# Listings: transcripts for people

* `Entry.line`, `Transcript.entryLines`: one line for each token.
* `Transcript.faultLine?`: the line for the fault.
* `Transcript.lines`: all lines.
-/

/-- The position, flush right in six columns, the kind, in ten, and the quoted text; without spaces at the end. -/
def Entry.line (color : Bool) (e : Entry) : Text :=
  let kind := Paint.applyIf color .blue (e.kind.name.padRight 10)
  let text := match e.text with
    | some t => ([' '] : Text) ++ Paint.applyIf color .green (Quoted.quote t)
    | none => []
  Text.dropTrailingSpaces ((Decimal.ofNat e.position).padLeft 6 ++ ("  " : Text) ++ kind ++ text)

namespace Transcript

def entryLines (color : Bool) (s : Transcript) : List Text := s.entries.map (Entry.line color)

/-- Where the fault is: the label, and line and column if the input is given. -/
def faultPlace (s : Transcript) (f : FaultRecord) : (input : Option Text) → Text
  | none => s.label
  | some input =>
    let (line, column) := input.lineColumn f.position
    s.label ++ (":" : Text) ++ Decimal.ofNat line ++ (":" : Text) ++ Decimal.ofInt column

/-- The place and the message of the fault, if there is one. -/
def faultLine? (color : Bool) (input : Option Text) (s : Transcript) : Option Text :=
  s.fault.map fun f => Paint.applyIf color .red (s.faultPlace f input ++ (": error: " : Text) ++ f.message)

/-- One line for each token and one for the fault. -/
def lines (color : Bool) (input : Option Text) (s : Transcript) : List Text :=
  s.entryLines color ++ (s.faultLine? color input).toList

end Transcript

end ParenTokens
