import Pruner.Literal
import Pruner.Text.Printable

namespace Pruner

inductive TemplateProblem
  | unfinishedEscape
  | badEscape (escape : Text)
  | missingBracket
  | missingGroupName
  | unterminatedName
  | badGroupName (name : Text)
  | noSuchGroup (index : Nat)
  | octalTooLarge (escape : Text)
  deriving DecidableEq, Repr

namespace TemplateProblem

def message : TemplateProblem → Text
  | unfinishedEscape => "bad escape (end of pattern)".toList
  | badEscape escape => "bad escape ".toList ++ escape
  | missingBracket => "missing <".toList
  | missingGroupName => "missing group name".toList
  | unterminatedName => "missing >, unterminated name".toList
  | badGroupName name => "bad character in group name ".toList ++ Text.quoted name
  | noSuchGroup index => "invalid group reference ".toList ++ Nat.toDigits 10 index
  | octalTooLarge escape =>
    "octal escape value ".toList ++ escape ++ " outside of range 0-0o377".toList

end TemplateProblem

inductive Fault
  | unexpectedForm
  | noPackage
  | noImportWord
  | noModule
  | unreadableName
  | noSuchLine
  | unhashable (kind : Container)
  | overflow
  | template (problem : TemplateProblem) (text : Text) (position : Nat)
  | unknownGroup (name : Text)
  deriving DecidableEq, Repr

def Container.name : Container → Text
  | .list => "list".toList
  | .set => "set".toList
  | .dict => "dict".toList

namespace Fault

def place (text : Text) (position : Nat) : Text :=
  let before := text.take position
  if text.contains '\n' then
    let row := (before.filter (· == '\n')).length + 1
    let column := (before.reverse.takeWhile (· != '\n')).length + 1
    " (line ".toList ++ Nat.toDigits 10 row ++ ", column ".toList ++ Nat.toDigits 10 column ++ [')']
  else []

def message : Fault → Text
  | unexpectedForm => []
  | noPackage => "list index out of range".toList
  | noSuchLine => "list index out of range".toList
  | noImportWord => "not enough values to unpack (expected 2, got 1)".toList
  | noModule => "'NoneType' object has no attribute 'group'".toList
  | unreadableName => "'NoneType' object has no attribute 'group'".toList
  | unhashable kind => "unhashable type: '".toList ++ kind.name ++ ['\'']
  | overflow => "int too large to convert to float".toList
  | template problem text position =>
    problem.message ++ " at position ".toList ++ Nat.toDigits 10 position ++ place text position
  | unknownGroup name => "unknown group name ".toList ++ Text.quoted name

def ofLiteralError? : LiteralError → Option Fault
  | .malformed => none
  | .unhashable kind => some (.unhashable kind)
  | .overflow => some .overflow

end Fault

abbrev Edit := Except Fault

end Pruner
