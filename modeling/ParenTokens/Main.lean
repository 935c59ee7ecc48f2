import ParenTokens.Command.Run

namespace ParenTokens

/-!
# The program

Looks at the files that the arguments name, runs the command on what it saw, and writes what the command wrote.
-/

/-- The paths that an invocation may look at. -/
def Command.Invocation.paths (home : Path) : Command.Invocation → List Path
  | init directory =>
    let p := Path.absolute ((Path.ofText directory).canonical home.parts)
    [p, p.within Settings.fileName]
  | tokenize file _ _ settings => [.ofText file] ++ ofChoice settings
  | check files _ settings => files.map .ofText ++ ofChoice settings
where
  /-- The paths where settings may be. -/
  ofChoice : Command.SettingsChoice → List Path
    | .near => [home.within Settings.fileName]
    | .file path => [.ofText path]
    | .unnamed => []

/-- Whether an invocation reads standard input. -/
def Command.Invocation.readsInput : Command.Invocation → Bool
  | tokenize file _ _ _ => file == Command.standardInput
  | init _ | check .. => false

/-- The world with what stands at a path on the disk. -/
def observe (w : World) (p : Path) : IO World := do
  let location := p.canonical w.home
  let seen (t : Tree) (location : List Text) : World := { w with root := .put t location w.root }
  try
    let bytes ← IO.FS.readBinFile (Text.toString p.display)
    return seen (.file bytes.toList) location
  catch e =>
    match e with
    | .inappropriateType _ code _ =>
      if code.toNat == FileTrouble.isDirectory.number then
        if (w.root.at? location).isSome then return w else return seen (.directory []) location
      else return seen (.file []) location.dropLast
    | _ => return w

/-- All bytes of a stream, after some that were read before. -/
partial def readAll (stream : IO.FS.Stream) (before : ByteArray) : IO ByteArray := do
  let bytes ← stream.read 65536
  if bytes.isEmpty then return before else readAll stream (before ++ bytes)

/-- Runs the program. -/
def runProgram (arguments : List String) : IO UInt32 := do
  let arguments := arguments.map Text.ofString
  let home := Path.ofText (Text.ofString (← IO.currentDir).toString)
  let empty : World := { root := .put (.directory []) home.parts (.directory []), home := home.parts }
  let (paths, reads) := match Command.Request.ofArguments arguments with
    | .invoke i => (i.paths home, i.readsInput)
    | _ => ([], false)
  let before ← paths.foldlM observe empty
  let input ← if reads then readAll (← IO.getStdin) .empty else pure .empty
  let outcome := Command.run before input.toList arguments
  for (location, content) in outcome.world.root.files do
    if (before.root.at? location).isNone then
      IO.FS.writeBinFile (Text.toString (Path.absolute location).display) ⟨content.toArray⟩
  (← IO.getStdout).putStr (Text.toString outcome.out)
  (← IO.getStderr).putStr (Text.toString outcome.err)
  match outcome.verdict with
  | .exit code => return code.toUInt32
  | .interrupted i =>
    (← IO.getStderr).putStrLn (Text.toString i.message)
    return 1

end ParenTokens

def main (arguments : List String) : IO UInt32 := ParenTokens.runProgram arguments
