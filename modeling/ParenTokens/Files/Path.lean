import ParenTokens.Text.CodePoint

namespace ParenTokens

/-!
# Paths

A path is read from a text with slashes; empty parts and parts of one point mean nothing. Two points stay, since what
they lead to depends on the files.

* `Path`, `Path.ofText`, `Path.display`: paths and their texts.
* `Path.within`: the path of a name in the directory that a path leads to.
* `Path.canonical`: an absolute path without parts of two points, each of which takes the part before it away.
* `ofText_display_nil`: the empty path shows as a point and reads back.
-/

/-- A path: how many slashes it starts with (none if it is relative, and never more than two) and its parts. -/
structure Path where
  slashes : Nat
  parts : List Text
deriving DecidableEq, Repr

namespace Path

def slash : CodePoint := CodePoint.ofChar '/'

/-- The name for the directory that a path starts from. -/
def here : Text := "."

/-- The name for the directory above. -/
def above : Text := ".."

/-- The path that a text denotes. Just two slashes at the start stay two, any more are one. -/
def ofText (t : Text) : Path :=
  let slashes := (t.takeWhile (· == slash)).length
  { slashes := if slashes ≤ 2 then slashes else 1,
    parts := (t.splitOn slash).filter fun part => !part.isEmpty && part != here }

def isAbsolute (p : Path) : Bool := p.slashes != 0

/-- The text of a path. -/
def display (p : Path) : Text :=
  let body := List.replicate p.slashes slash ++ Text.join [slash] p.parts
  if body.isEmpty then here else body

/-- The path of a name below a path. -/
def within (p : Path) (name : Text) : Path := { p with parts := p.parts ++ [name] }

/-- Whether the text of a path holds the code point zero, which no name has. -/
def hasNul (p : Path) : Bool := p.parts.any fun part => part.any (·.val == 0)

/-- The path from the root to some location. -/
def absolute (location : List Text) : Path := { slashes := 1, parts := location }

/-- The location that remains of parts below a location when each pair of two points takes a part away. -/
def collapse (location : List Text) (parts : List Text) : List Text :=
  parts.foldl (fun location part => if part = above then location.dropLast else location ++ [part]) location

/-- The location that a path means for someone at a location, told from the names alone. -/
def canonical (home : List Text) (p : Path) : List Text :=
  collapse (if p.isAbsolute then [] else home) p.parts

theorem display_nil : (ofText []).display = here := rfl

theorem ofText_display_nil : ofText (ofText []).display = ofText [] := rfl

end Path

end ParenTokens
