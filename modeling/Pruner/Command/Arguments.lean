import Pruner.Text.Printable

/-!
The arguments of the command line.

All arguments are first told apart: switches, values, and the double dash after which everything is
a value. The first group of values names the files; values after a later switch are too many.
-/
namespace Pruner.Command

open Pruner.Text

inductive Switch
  | help
  | inPlace
  | recursive
  | exclude
  | imports
  | expandStarImports
  | removeAllUnusedImports
  | removeDuplicateKeys
  | removeUnusedVariables
  | version
  deriving DecidableEq, Repr

namespace Switch

def all : List Switch :=
  [help, inPlace, recursive, exclude, imports, expandStarImports, removeAllUnusedImports,
    removeDuplicateKeys, removeUnusedVariables, version]

def names : Switch → List String
  | help => ["-h", "--help"]
  | inPlace => ["-i", "--in-place"]
  | recursive => ["-r", "--recursive"]
  | exclude => ["--exclude"]
  | imports => ["--imports"]
  | expandStarImports => ["--expand-star-imports"]
  | removeAllUnusedImports => ["--remove-all-unused-imports"]
  | removeDuplicateKeys => ["--remove-duplicate-keys"]
  | removeUnusedVariables => ["--remove-unused-variables"]
  | version => ["--version"]

def takesValue : Switch → Bool
  | exclude | imports => true
  | _ => false

def shown (s : Switch) : Text :=
  join ['/'] (s.names.map String.toList)

def spellings : List (Text × Switch) :=
  all.flatMap fun s => s.names.map fun name => (name.toList, s)

def ofName? (name : Text) : Option Switch :=
  spellings.lookup name

end Switch

structure Settings where
  inPlace : Bool := false
  recursive : Bool := false
  exclude : Text := []
  imports : Text := []
  expandStarImports : Bool := false
  removeAllUnusedImports : Bool := false
  removeDuplicateKeys : Bool := false
  removeUnusedVariables : Bool := false
  files : List Text := []
  deriving DecidableEq, Repr

inductive ArgumentError
  | noFiles
  | unrecognized (arguments : List Text)
  | ambiguous (given : Text) (candidates : List Text)
  | valueMissing (switch : Switch)
  | valueIgnored (switch : Switch) (value : Text)
  deriving DecidableEq, Repr

namespace ArgumentError

def message : ArgumentError → Text
  | noFiles => "the following arguments are required: files".toList
  | unrecognized arguments => "unrecognized arguments: ".toList ++ join [' '] arguments
  | ambiguous given candidates =>
    "ambiguous option: ".toList ++ given ++ " could match ".toList ++
      join ", ".toList candidates
  | valueMissing switch => "argument ".toList ++ switch.shown ++ ": expected one argument".toList
  | valueIgnored switch value =>
    "argument ".toList ++ switch.shown ++ ": ignored explicit argument ".toList ++ quoted value

end ArgumentError

inductive Stop
  | help
  | version
  | error (e : ArgumentError)
  deriving DecidableEq, Repr

inductive Argument
  | value (text : Text)
  | dashes
  /-- A switch, with the value that is attached to it; `short` if it has one dash and one letter. -/
  | switch (s : Switch) (short : Bool) (attached : Option Text)
  | unknown (text : Text)
  deriving DecidableEq, Repr

namespace Argument

def isDigit (c : Char) : Bool :=
  c.isDigit || inRanges decimalRanges c.toNat

/-- Whether a text is a negative number; it may end with a line feed. -/
def isNegativeNumber : Text → Bool
  | '-' :: rest =>
    let digits := if rest.getLast? == some '\n' then rest.dropLast else rest
    let fraction := digits.dropWhile isDigit
    if fraction.isEmpty then !digits.isEmpty
    else fraction.head? == some '.' && fraction.length > 1 && (fraction.drop 1).all isDigit
  | _ => false

def splitEquals (t : Text) : Text × Option Text :=
  let name := t.takeWhile (· != '=')
  (name, if name.length < t.length then some (t.drop (name.length + 1)) else none)

def isShort (name : Text) : Bool :=
  (name.drop 1).head? != some '-'

def candidates (t : Text) : List (Text × Argument) :=
  if isShort t then
    let name := t.take 2
    match Switch.ofName? name with
    | some s => [(name, .switch s true (some (t.drop 2)))]
    | none => []
  else
    let (name, attached) := splitEquals t
    (Switch.spellings.filter fun entry => startsWith name entry.1).map fun entry =>
      (entry.1, .switch entry.2 (isShort entry.1) attached)

def classify (t : Text) : Except ArgumentError Argument :=
  if t.head? != some '-' || t.length == 1 then .ok (.value t)
  else
    match Switch.ofName? t with
    | some s => .ok (.switch s (isShort t) none)
    | none =>
      let (name, attached) := splitEquals t
      match attached, Switch.ofName? name with
      | some _, some s => .ok (.switch s (isShort name) attached)
      | _, _ =>
        match candidates t with
        | [(_, found)] => .ok found
        | [] =>
          if isNegativeNumber t || t.contains ' ' then .ok (.value t) else .ok (.unknown t)
        | many => .error (.ambiguous t (many.map (·.1)))

def classifyAll : List Text → Except ArgumentError (List Argument)
  | [] => .ok []
  | t :: rest =>
    if t == ['-', '-'] then .ok (.dashes :: rest.map .value)
    else do
      let first ← classify t
      return first :: (← classifyAll rest)

def text? : Argument → Option Text
  | value t => some t
  | dashes => some ['-', '-']
  | _ => none

end Argument

namespace Settings

def apply (settings : Settings) (s : Switch) (value : Text) : Except Stop Settings :=
  let value := if value == ['-', '-'] then [] else value
  match s with
  | .help => .error .help
  | .version => .error .version
  | .inPlace => .ok { settings with inPlace := true }
  | .recursive => .ok { settings with recursive := true }
  | .exclude => .ok { settings with exclude := value }
  | .imports => .ok { settings with imports := value }
  | .expandStarImports => .ok { settings with expandStarImports := true }
  | .removeAllUnusedImports => .ok { settings with removeAllUnusedImports := true }
  | .removeDuplicateKeys => .ok { settings with removeDuplicateKeys := true }
  | .removeUnusedVariables => .ok { settings with removeUnusedVariables := true }

def applyAll (settings : Settings) : List (Switch × Text) → Except Stop Settings
  | [] => .ok settings
  | (s, value) :: rest => do (← settings.apply s value).applyAll rest

end Settings

/-- The switches that a switch and the text attached to it make: further letters after a letter, or
the value. -/
def spread (s : Switch) (short : Bool) : Text → Except ArgumentError (List (Switch × Text))
  | [] => if s.takesValue then .ok [(s, [])] else .error (.valueIgnored s [])
  | c :: rest =>
    if s.takesValue then .ok [(s, c :: rest)]
    else if short then
      match Switch.ofName? ['-', c] with
      | some next =>
        if rest.isEmpty then .ok [(s, []), (next, [])]
        else (spread next true rest).map ((s, []) :: ·)
      | none => .error (.valueIgnored s (c :: rest))
    else .error (.valueIgnored s (c :: rest))

structure Reading where
  settings : Settings := {}
  named : Bool := false
  extra : List Text := []

namespace Reading

def takeGroup (r : Reading) (group : List Argument) : Reading :=
  let isValue : Argument → Bool := (· != .dashes)
  if !r.named && group.any isValue then
    { r with
      named := true
      settings := { r.settings with files := (group.erase .dashes).filterMap Argument.text? } }
  else { r with extra := r.extra ++ group.filterMap Argument.text? }

/-- Reads arguments. `group` has the values since the last switch. -/
def readAll (r : Reading) (group : List Argument) : List Argument → Except Stop Reading
  | [] => .ok (if group.isEmpty then r else r.takeGroup group)
  | .unknown t :: rest =>
    let r := if group.isEmpty then r else r.takeGroup group
    readAll { r with extra := r.extra ++ [t] } [] rest
  | .switch s short attached :: rest =>
    let r := if group.isEmpty then r else r.takeGroup group
    match attached with
    | some text =>
      match spread s short text with
      | .error e => .error (.error e)
      | .ok switches => do
        readAll { r with settings := ← r.settings.applyAll switches } [] rest
    | none =>
      if s.takesValue then
        match rest with
        | .value v :: rest => do
          readAll { r with settings := ← r.settings.apply s v } [] rest
        | _ => .error (.error (.valueMissing s))
      else do
        readAll { r with settings := ← r.settings.apply s [] } [] rest
  | argument :: rest => readAll r (group ++ [argument]) rest

end Reading

def readArguments (arguments : List Text) : Except Stop Settings :=
  match Argument.classifyAll arguments with
  | .error e => .error (.error e)
  | .ok told => do
    let r ← Reading.readAll {} [] told
    if !r.named then .error (.error .noFiles)
    else if !r.extra.isEmpty then .error (.error (.unrecognized r.extra))
    else .ok r.settings

end Pruner.Command
