import Pruner.Scope.Statement
import Pruner.Syntax.Statement

namespace Pruner.Scope

open Pruner.Syntax

/-- The room for nested steps, at the module and in work that was put off. -/
def room : Nat := 985

def predefinedNames : List String := [
  "ArithmeticError", "AssertionError", "AttributeError", "BaseException", "BaseExceptionGroup",
  "BlockingIOError", "BrokenPipeError", "BufferError", "BytesWarning", "ChildProcessError",
  "ConnectionAbortedError", "ConnectionError", "ConnectionRefusedError", "ConnectionResetError",
  "DeprecationWarning", "EOFError", "Ellipsis", "EncodingWarning", "EnvironmentError", "Exception",
  "ExceptionGroup", "False", "FileExistsError", "FileNotFoundError", "FloatingPointError",
  "FutureWarning", "GeneratorExit", "IOError", "ImportError", "ImportWarning", "IndentationError",
  "IndexError", "InterruptedError", "IsADirectoryError", "KeyError", "KeyboardInterrupt",
  "LookupError", "MemoryError", "ModuleNotFoundError", "NameError", "None", "NotADirectoryError",
  "NotImplemented", "NotImplementedError", "OSError", "OverflowError", "PendingDeprecationWarning",
  "PermissionError", "ProcessLookupError", "RecursionError", "ReferenceError", "ResourceWarning",
  "RuntimeError", "RuntimeWarning", "StopAsyncIteration", "StopIteration", "SyntaxError",
  "SyntaxWarning", "SystemError", "SystemExit", "TabError", "TimeoutError", "True", "TypeError",
  "UnboundLocalError", "UnicodeDecodeError", "UnicodeEncodeError", "UnicodeError",
  "UnicodeTranslateError", "UnicodeWarning", "UserWarning", "ValueError", "Warning", "WindowsError",
  "ZeroDivisionError", "__annotations__", "__build_class__", "__builtins__", "__debug__", "__doc__",
  "__file__", "__import__", "__loader__", "__name__", "__package__", "__spec__", "abs", "aiter",
  "all", "anext", "any", "ascii", "bin", "bool", "breakpoint", "bytearray", "bytes", "callable",
  "chr", "classmethod", "compile", "complex", "copyright", "credits", "delattr", "dict", "dir",
  "divmod", "enumerate", "eval", "exec", "exit", "filter", "float", "format", "frozenset",
  "getattr", "globals", "hasattr", "hash", "help", "hex", "id", "input", "int", "isinstance",
  "issubclass", "iter", "len", "license", "list", "locals", "map", "max", "memoryview", "min",
  "next", "object", "oct", "open", "ord", "pow", "print", "property", "quit", "range", "repr",
  "reversed", "round", "set", "setattr", "slice", "sorted", "staticmethod", "str", "sum", "super",
  "tuple", "type", "vars", "zip"]

namespace Walk

def perform : Work → Walk Unit
  | .body params statements =>
    inScope .function do
      bindParams params
      statements.forM (statement room)
  | .result params value =>
    inScope .function do
      bindParams params
      expression room value
  | .type e => withTyping .plain (expression room e)
  | .typeText points =>
    match parseModule? (points.map Char.ofNat) with
    | some [.expression e] => withTyping .quoted (expression room e)
    | _ => return ()

def performAll : (fuel : Nat) → Walk Unit
  | 0 => failure
  | fuel + 1 => do
    match (← get).tasks with
    | [] => return ()
    | task :: rest =>
      modify fun s => { s with tasks := rest }
      withReader (fun _ => { task.place with typing := .outside }) (perform task.work)
      performAll fuel

end Walk

def unusedVariables (s : Scope) : List Diagnostic :=
  if s.kind == .function && !s.readWhole then
    s.entries.filterMap fun (name, b) =>
      if b.referent == .assigned && !b.used && name != "_" && !s.exempt.contains name then
        some ⟨b.line, .unusedVariable name.toList⟩
      else none
  else []

def exported (s : Scope) : List String × Nat :=
  match s.find? "__all__" with
  | some b => (b.exports?.getD [], b.line)
  | none => ([], 0)

def unusedImports (s : Scope) : List Diagnostic :=
  s.entries.filterMap fun (name, b) =>
    match b.importation? with
    | some i =>
      if b.used || (exported s).1.contains name then none
      else some ⟨b.line, .unusedImport i.shown.toList⟩
    | none => none

/-- What is reported when a scope has ended. Imports in a class are members of it. Exported names
that are not bound must come from the modules all of whose names are imported. -/
def closing (s : Scope) : List Diagnostic :=
  if s.kind == .body then []
  else
    let (names, line) := exported s
    let missing := names.filter (!s.contains ·)
    if s.starred && !missing.isEmpty then
      let sources := Walk.shownSources s.starSources
      unusedVariables s ++ missing.map (fun name => ⟨line, .starUsage name.toList sources⟩) ++
        unusedImports s.markStars
    else unusedVariables s ++ unusedImports s

def initial : Scope :=
  { kind := .whole
    entries := predefinedNames.map fun name => (name, { referent := .fixed, line := 0 }) }

def diagnose? (fuel : Nat) (module : List Stmt) : Option (List Diagnostic) := do
  let walk : Walk Unit := do
    module.forM (Walk.statement room)
    Walk.performAll fuel
  let ((), s) ← walk { scope := 0 } { scopes := #[initial] }
  let last := (s.ended.reverse ++ [0]).filterMap (s.scopes[·]?)
  return s.found.reverse ++ last.flatMap closing

def check (source : Text) : List Diagnostic :=
  let found := do
    let module ← parseModule? source
    diagnose? ((source.length + 2) * (source.length + 2)) module
  (found.getD []).mergeSort fun a b => a.line ≤ b.line

end Pruner.Scope
