import Pruner.Command.Run
import Pruner.Encoding.Charset
import Pruner.Scope.Check

namespace Pruner.Main

open Pruner.Text

def pathOf (names : List Text) : String :=
  String.ofList ('/' :: join ['/'] names)

def isThere (names : List Text) : IO Bool := do
  try
    discard (IO.FS.realPath (pathOf names))
    return true
  catch _ => return false

structure Refusals where
  reading : List (List Text × AccessError) := []
  writing : List (List Text × AccessError) := []

def Refusals.device (refusals : Refusals) : Device where
  unreadable? place := refusals.reading.lookup place
  unwritable? place := refusals.writing.lookup place

def reasonOf : IO.Error → AccessError
  | .permissionDenied .. => .denied
  | e => .device (toString e).toList

def loadFile (names : List Text) : StateT Refusals IO Node := do
  -- A file that is opened for appending keeps its content.
  try discard (IO.FS.Handle.mk (pathOf names) .append)
  catch e => modify fun r => { r with writing := (names, reasonOf e) :: r.writing }
  try return .file (← IO.FS.readBinFile (pathOf names)).toList
  catch e =>
    modify fun r => { r with reading := (names, reasonOf e) :: r.reading }
    return .file []

partial def loadAll (names : List Text) : StateT Refusals IO Node := do
  let path ← IO.FS.realPath (pathOf names)
  if ← path.isDir then
    let entries ← path.readDir
    let nodes ← entries.toList.mapM fun entry => do
      let name := entry.fileName.toList
      return (name, ← loadAll (names ++ [name]))
    return .directory nodes
  else loadFile names

def loadParts (deep : Bool) (root : Node) (names : List Text) : List Text → StateT Refusals IO Node
  | [] => do
    if deep then return (← loadAll names).put root names else return root
  | part :: rest => do
    let next := if part.isEmpty || part == ['.'] then names
      else if part == ['.', '.'] then names.dropLast
      else names ++ [part]
    unless ← isThere next do return root
    let path ← IO.FS.realPath (pathOf next)
    if ← path.isDir then
      let root := if (root.at? next).isSome then root else (Node.directory []).put root next
      loadParts deep root next rest
    else return (← loadFile next).put root next

def load (arguments : List Text) : IO FileTree := do
  let current := (toString (← IO.currentDir)).toList
  let working := (pieces (· == '/') current).filter (!·.isEmpty)
  let loading : StateT Refusals IO Node := do
    let mut root ← loadParts false (.directory []) [] working
    if let .ok settings := Command.readArguments arguments then
      for file in settings.files do
        let start := if file.head? == some '/' then [] else working
        root ← loadParts settings.recursive root start (pieces (· == '/') file)
    return root
  let (root, refusals) ← loading.run {}
  return { root, working, device := refusals.device }

def store (old new : FileTree) : IO Unit := do
  for (names, content) in new.root.files [] do
    let same := match old.root.at? names with
      | some (.file before) => before == content
      | _ => false
    unless same do
      IO.FS.writeBinFile (pathOf names) (ByteArray.mk content.toArray)

/-- Runs the command line with more and more rounds until they suffice. -/
partial def runThrough (tree : FileTree) (arguments : List Text) (rounds : Nat) :
    IO (Command.Session × Command.Ending) :=
  match Command.run ⟨Codecs.builtin, Scope.check, rounds⟩ tree arguments with
  | (_, .trouble .unfinished) => runThrough tree arguments (2 * rounds)
  | result => return result

def run (arguments : List Text) : IO UInt32 := do
  let tree ← load arguments
  let (session, ending) ← runThrough tree arguments 64
  store tree session.tree
  for piece in session.output do
    IO.print (String.ofList piece)
  for line in session.errors do
    IO.eprintln (String.ofList line)
  match ending with
  | .status code => return .ofNat code
  | .trouble t =>
    IO.eprintln (String.ofList t.message)
    return 1

end Pruner.Main

def main (arguments : List String) : IO UInt32 :=
  Pruner.Main.run (arguments.map String.toList)
