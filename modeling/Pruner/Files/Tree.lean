import Pruner.Encoding.Utf8
import Pruner.Text.Printable

namespace Pruner

inductive Node
  | file (content : Bytes)
  | directory (entries : List (Text × Node))

namespace Node

def isDirectory : Node → Bool
  | file _ => false
  | directory _ => true

def entries : Node → List (Text × Node)
  | file _ => []
  | directory entries => entries

def at? (node : Node) : List Text → Option Node
  | [] => some node
  | name :: names => (node.entries.lookup name).bind (·.at? names)

def setEntry (name : Text) (node : Node) : List (Text × Node) → List (Text × Node)
  | [] => [(name, node)]
  | (n, old) :: rest =>
    if n == name then (name, node) :: rest else (n, old) :: setEntry name node rest

def put (new : Node) : Node → List Text → Node
  | _, [] => new
  | node, name :: names =>
    let inner := (node.entries.lookup name).getD (directory [])
    directory (setEntry name (put new inner names) node.entries)

mutual

def files (names : List Text) : Node → List (List Text × Bytes)
  | file content => [(names, content)]
  | directory entries => filesOf names entries

def filesOf (names : List Text) : List (Text × Node) → List (List Text × Bytes)
  | [] => []
  | (name, node) :: rest => files (names ++ [name]) node ++ filesOf names rest

end

end Node

inductive AccessError
  | missing
  | notDirectory
  | isDirectory
  | denied
  | device (message : Text)
  deriving DecidableEq, Repr

namespace AccessError

def message (e : AccessError) (path : Text) : Text :=
  let about (reason : String) : Text := reason.toList ++ Text.quoted path
  match e with
  | missing => about "[Errno 2] No such file or directory: "
  | denied => about "[Errno 13] Permission denied: "
  | notDirectory => about "[Errno 20] Not a directory: "
  | isDirectory => about "[Errno 21] Is a directory: "
  | device message => message

end AccessError

/-- What can go wrong with a file that is there, told from its place and the bytes to be stored.
By default nothing does. -/
structure Device where
  unreadable? : (place : List Text) → Option AccessError := fun _ => none
  unwritable? : (place : List Text) → Option AccessError := fun _ => none
  /-- The bytes that get stored of those given, if not all do. -/
  shortfall? : (place : List Text) → Bytes → Option (Bytes × AccessError) := fun _ _ => none

structure FileTree where
  root : Node
  working : List Text := []
  device : Device := {}

namespace FileTree

def enter (tree : FileTree) (names : List Text) (part : Text) : Except AccessError (List Text) :=
  match tree.root.at? names with
  | none => .error .missing
  | some (.file _) => .error .notDirectory
  | some (.directory entries) =>
    if part.isEmpty || part == ['.'] then .ok names
    else if part == ['.', '.'] then .ok names.dropLast
    else if (entries.lookup part).isSome then .ok (names ++ [part])
    else .error .missing

def locate (tree : FileTree) (path : Text) : Except AccessError (List Text) :=
  let start := if path.head? == some '/' then [] else tree.working
  if path.isEmpty then .error .missing
  else (Text.pieces (· == '/') path).foldlM tree.enter start

def isDirectory (tree : FileTree) (path : Text) : Bool :=
  match tree.locate path with
  | .ok names => (tree.root.at? names).any Node.isDirectory
  | .error _ => false

def entries (tree : FileTree) (path : Text) : List (Text × Node) :=
  match tree.locate path with
  | .ok names => ((tree.root.at? names).map Node.entries).getD []
  | .error _ => []

def openFile (tree : FileTree) (refused? : List Text → Option AccessError) (path : Text) :
    Except AccessError (List Text × Bytes) := do
  let place ← tree.locate path
  match tree.root.at? place with
  | some (.file content) =>
    match refused? place with
    | none => .ok (place, content)
    | some e => .error e
  | some (.directory _) => .error .isDirectory
  | none => .error .missing

def read (tree : FileTree) (path : Text) : Except AccessError Bytes := do
  return (← tree.openFile tree.device.unreadable? path).2

def openForWriting (tree : FileTree) (path : Text) : Except AccessError (List Text) := do
  return (← tree.openFile tree.device.unwritable? path).1

def withFile (tree : FileTree) (place : List Text) (content : Bytes) : FileTree :=
  { tree with root := (Node.file content).put tree.root place }

def write (tree : FileTree) (place : List Text) (content : Bytes) :
    FileTree × Option AccessError :=
  match tree.device.shortfall? place content with
  | none => (tree.withFile place content, none)
  | some (stored, e) => (tree.withFile place stored, some e)

end FileTree

end Pruner
