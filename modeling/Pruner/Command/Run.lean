import Pruner.Command.Arguments
import Pruner.Command.Usage
import Pruner.Diff.Unified
import Pruner.Files.Find
import Pruner.Fix

namespace Pruner.Command

open Pruner.Text

/-- What a run relies on besides the files: the codecs, the check, and how many rounds each file may
take. A run that is told to be unfinished is one that needs more rounds. -/
structure Tools where
  codecs : Codecs
  check : Text → List Diagnostic
  rounds : Nat

inductive Trouble
  /-- The file cannot be read or written. This is only reported, and the run goes on. -/
  | access (message : Text)
  | codec (e : CodecError)
  | fault (f : Fault)
  | unfinished
  deriving DecidableEq, Repr

def Trouble.message : Trouble → Text
  | access message => message
  | codec e => e.message
  | fault f => f.message
  | unfinished => []

structure Session where
  tree : FileTree
  output : List Text := []
  errors : List Text := []
  failed : Bool := false

inductive Ending
  | status (code : Nat)
  | trouble (t : Trouble)
  deriving DecidableEq, Repr

def commaSeparated (t : Text) : List Text :=
  sortDistinct ((commaPieces t).map trim |>.filter (!·.isEmpty))

namespace Settings

/-- What is to be fixed. The packages are taken as they stand between the commas. -/
def options (settings : Settings) : Options where
  additionalImports := if settings.imports.isEmpty then [] else commaPieces settings.imports
  expandStarImports := settings.expandStarImports
  removeAllUnusedImports := settings.removeAllUnusedImports
  removeDuplicateKeys := settings.removeDuplicateKeys
  removeUnusedVariables := settings.removeUnusedVariables

end Settings

structure Draft where
  encoding : Text
  source : Text
  fixed : Text
  deriving DecidableEq, Repr

def readSource (codecs : Codecs) (content : Bytes) : Except CodecError (Text × Text) := do
  let encoding ← Encoding.detect codecs none content
  return (encoding, ← codecs.read encoding none content)

def draft (tools : Tools) (options : Options) (content : Bytes) : Except Trouble Draft :=
  match readSource tools.codecs content with
  | .error e => .error (.codec e)
  | .ok (encoding, source) =>
    match (Fix.fixCode options (fun _ => tools.check) tools.rounds source).outcome with
    | .done fixed => .ok ⟨encoding, source, fixed⟩
    | .failed f => .error (.fault f)
    | .unfinished => .error .unfinished

/-- Stores a text in the file at a path. A file that is opened for writing is empty, and it stays so
if the text cannot be stored. -/
def store (codecs : Codecs) (session : Session) (path encoding fixed : Text) :
    Except (Session × Trouble) Session :=
  match session.tree.openForWriting path with
  | .error e => .error (session, .access (e.message path))
  | .ok place =>
    match codecs.store encoding fixed with
    | .error e => .error ({ session with tree := session.tree.withFile place [] }, .codec e)
    | .ok bytes =>
      match session.tree.write place bytes with
      | (tree, none) => .ok { session with tree }
      | (tree, some e) => .error ({ session with tree }, .access (e.message path))

def fixFile (tools : Tools) (settings : Settings) (session : Session) (path : Text) :
    Except (Session × Trouble) Session :=
  match session.tree.read path with
  | .error e => .error (session, .access (e.message path))
  | .ok content =>
    match draft tools settings.options content with
    | .error trouble => .error (session, trouble)
    | .ok ⟨encoding, source, fixed⟩ =>
      if fixed == source then .ok session
      else if settings.inPlace then store tools.codecs session path encoding fixed
      else
        let diff := Diff.unified (lines source) (lines fixed) path
        .ok { session with output := session.output ++ [diff] }

def visitFile (tools : Tools) (settings : Settings) (session : Session) (path : Text) :
    Except (Session × Trouble) Session :=
  match fixFile tools settings session path with
  | .error (after, .access message) =>
    .ok { after with errors := after.errors ++ [message], failed := true }
  | result => result

def runSettings (tools : Tools) (tree : FileTree) (settings : Settings) : Session × Ending :=
  if settings.removeAllUnusedImports && !settings.imports.isEmpty then
    ({ tree, errors := ["Using both --remove-all and --imports is redundant".toList] }, .status 1)
  else
    let exclude := commaSeparated settings.exclude
    let look (session : Session) (name : Text) : Except (Session × Trouble) (List Text) :=
      (Files.filesOf tools.codecs session.tree exclude name).mapError fun e => (session, .codec e)
    match Files.visitNames (fun session => Files.isWalked session.tree settings.recursive) look
      (visitFile tools settings) [] { tree } settings.files.eraseDups with
    | .ok session => (session, .status (if session.failed then 1 else 0))
    | .error (session, trouble) => (session, .trouble trouble)

def run (tools : Tools) (tree : FileTree) (arguments : List Text) : Session × Ending :=
  match readArguments arguments with
  | .ok settings => runSettings tools tree settings
  | .error .help => ({ tree, output := [help] }, .status 0)
  | .error .version => ({ tree, output := [version] }, .status 0)
  | .error (.error e) =>
    ({ tree
       errors := usageLines.map String.toList ++ [program ++ ": error: ".toList ++ e.message] },
      .status 2)

end Pruner.Command
