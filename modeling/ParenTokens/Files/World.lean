import ParenTokens.Files.Path
import ParenTokens.Files.Tree
import ParenTokens.Text.Quoted
import ParenTokens.Text.Utf8

namespace ParenTokens

/-!
# Paths among files

* `World`: a tree of files and the location that relative paths start from.
* `FileFault`, `FileFault.message`: why a path leads nowhere or cannot be read.
* `World.find`: what a path leads to, part by part.
* `World.read`, `World.exists?`, `World.write`: reading a file, asking for one, and writing one.
-/

/-- A tree of files, and the names that lead from its root to where relative paths start. -/
structure World where
  root : Tree
  home : List Text
deriving Repr

/-- Why the system refuses a path. -/
inductive FileTrouble
  | missing
  | notDirectory
  | isDirectory
  | nameTooLong
  | denied
deriving DecidableEq, Repr

/-- A refused path. -/
structure FileFault where
  trouble : FileTrouble
  path : Path
deriving DecidableEq, Repr

/-- The number of a refusal. -/
def FileTrouble.number : FileTrouble → Nat
  | missing => 2
  | denied => 13
  | notDirectory => 20
  | isDirectory => 21
  | nameTooLong => 36

def FileTrouble.message : FileTrouble → Text
  | missing => "No such file or directory"
  | denied => "Permission denied"
  | notDirectory => "Not a directory"
  | isDirectory => "Is a directory"
  | nameTooLong => "File name too long"

def FileFault.message (f : FileFault) : Text :=
  ("[Errno " : Text) ++ Decimal.ofNat f.trouble.number ++ ("] " : Text) ++ f.trouble.message ++ (": " : Text) ++
    Quoted.quote f.path.display

namespace World

/-- The most bytes that a name may have. -/
def nameLimit : Nat := 255

/-- The most bytes that a path may have. -/
def pathLimit : Nat := 4095

/-- From the last of the trees on the way from the root, which are given in reverse, to a name in it. -/
def enter (way : List Tree) (name : Text) : Except FileTrouble (List Tree) :=
  match way with
  | .directory children _ :: outer =>
    if name = Path.above then .ok (if outer.isEmpty then way else outer)
    else if nameLimit < name.utf8.length then .error .nameTooLong
    else match children.lookup name with
      | some t => .ok (t :: way)
      | none => .error .missing
  | _ => .error .notDirectory

/-- The trees on the way that parts lead, in reverse. -/
def follow (way : List Tree) (parts : List Text) : Except FileTrouble (List Tree) := parts.foldlM enter way

/-- What a path leads to. -/
def find (w : World) (p : Path) : Except FileTrouble Tree := do
  if pathLimit < p.display.utf8.length then throw .nameTooLong
  let start ← if p.isAbsolute then pure [w.root] else follow [w.root] w.home
  match ← follow start p.parts with
  | [] => throw .missing
  | t :: _ => return t

/-- The bytes of the file that a path leads to. -/
def read (w : World) (p : Path) : Except FileFault (List UInt8) :=
  match w.find p with
  | .ok (.file content) => .ok content
  | .ok (.directory _ _) => .error ⟨.isDirectory, p⟩
  | .error trouble => .error ⟨trouble, p⟩

/-- Whether a path leads to anything. A path that is too long is refused even here. -/
def exists? (w : World) (p : Path) : Except FileFault Bool :=
  if p.hasNul then .ok false
  else match w.find p with
    | .ok _ => .ok true
    | .error .missing | .error .notDirectory => .ok false
    | .error trouble => .error ⟨trouble, p⟩

/-- The world with a file of a new name in the directory at a location. -/
def write (w : World) (location : List Text) (name : Text) (content : List UInt8) : Except FileFault World :=
  match w.find (.absolute location) with
  | .ok (.directory _ true) => .ok { w with root := .put (.file content) (location ++ [name]) w.root }
  | .ok (.directory _ false) => .error ⟨.denied, .absolute (location ++ [name])⟩
  | .ok (.file _) => .error ⟨.notDirectory, .absolute (location ++ [name])⟩
  | .error trouble => .error ⟨trouble, .absolute (location ++ [name])⟩

end World

end ParenTokens
