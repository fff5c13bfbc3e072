import Pruner.Encoding.Detect
import Pruner.Files.Glob
import Pruner.Files.Tree

namespace Pruner.Files

open Pruner.Text

def lookedAt : Nat := 1024

def isScriptLine (line : Text) : Bool :=
  match line with
  | '#' :: '!' :: command =>
    let command := trimRight command
    let command := match command.reverse with
      | '2' :: rest | '3' :: rest => rest.reverse
      | _ => command
    endsWith "python".toList command &&
      !((command.take (command.length - 6)).getLast?).any isWord
  | _ => false

/-- Whether a file holds a source: by its name, or by its first line. Reading that line may end in
an error of the codec, which is passed on. -/
def isSource (codecs : Codecs) (tree : FileTree) (path : Text) : Except CodecError Bool :=
  if endsWith ".py".toList path then .ok true
  else
    match tree.read path with
    | .error _ => .ok false
    | .ok content => do
      let encoding ← Encoding.detect codecs (some lookedAt) content
      let text ← codecs.read encoding (some lookedAt) content
      return !text.isEmpty && isScriptLine (firstDisplayLine text)

def baseName (path : Text) : Text :=
  (path.reverse.takeWhile (· != '/')).reverse

def isAdmitted (codecs : Codecs) (tree : FileTree) (exclude : List Text) (path : Text) :
    Except CodecError Bool :=
  let base := baseName path
  let barred := startsWith ['.'] base ||
    exclude.any fun pattern => Glob.fits pattern base || Glob.fits pattern path
  if barred then .ok false
  else if tree.isDirectory path then .ok true
  else isSource codecs tree path

def joinPath (directory name : Text) : Text :=
  if directory.isEmpty || directory.getLast? == some '/' then directory ++ name
  else directory ++ '/' :: name

def filesAmong (admitted : Text → Except CodecError Bool) (path : Text) :
    List (Text × Node) → Except CodecError (List Text)
  | [] => .ok []
  | (name, node) :: rest => do
    let file := joinPath path name
    let found ← (if node.isDirectory then .ok false else admitted file)
    let others ← filesAmong admitted path rest
    return if found then file :: others else others

mutual

def filesBelow (admitted : Text → Except CodecError Bool) (path : Text) :
    Node → Except CodecError (List Text)
  | .file _ => .ok []
  | .directory entries => do
    let files ← filesAmong admitted path entries
    return files ++ (← filesDeeper admitted path entries)

def filesDeeper (admitted : Text → Except CodecError Bool) (path : Text) :
    List (Text × Node) → Except CodecError (List Text)
  | [] => .ok []
  | (name, node) :: rest => do
    let inner := joinPath path name
    let entered ← (if node.isDirectory then admitted inner else .ok false)
    let below ← (if entered then filesBelow admitted inner node else .ok [])
    return below ++ (← filesDeeper admitted path rest)

end

def filesOf (codecs : Codecs) (tree : FileTree) (exclude : List Text) (name : Text) :
    Except CodecError (List Text) :=
  filesBelow (isAdmitted codecs tree exclude) name (.directory (tree.entries name))

def isWalked (tree : FileTree) (recursive : Bool) (name : Text) : Bool :=
  recursive && tree.isDirectory name

section Visit

variable {m : Type → Type} [Monad m] {σ : Type} (walked : σ → Text → Bool)
  (look : σ → Text → m (List Text)) (visit : σ → Text → m σ)

/-- Visits what names stand for, one after the other. A name that is walked stands for the files
found there; any other name stands for itself. A directory is looked through when its turn comes, in
the state that the visits before have left, and the files found in it are visited after all
names. -/
def visitNames : (found : List Text) → σ → (names : List Text) → m σ
  | found, state, [] => found.foldlM visit state
  | found, state, name :: names =>
    if walked state name then do
      visitNames (found ++ (← look state name)) state names
    else do visitNames found (← visit state name) names

end Visit

def find (codecs : Codecs) (tree : FileTree) (recursive : Bool) (exclude names : List Text) :
    Except CodecError (List Text) :=
  visitNames (fun _ => isWalked tree recursive) (fun _ => filesOf codecs tree exclude)
    (fun found name => .ok (found ++ [name])) [] [] names

end Pruner.Files
