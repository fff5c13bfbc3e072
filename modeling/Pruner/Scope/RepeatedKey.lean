import Pruner.Diagnostic
import Pruner.Syntax.Tree

/-!
Keys that occur more than once in one dictionary display.

Keys and values are compared as constants, variables and tuples of such; an expression of any other
kind equals nothing. A repeated key is reported only if one of its values occurs once.
-/
namespace Pruner.Scope

open Pruner.Syntax

mutual

def keyOf? : Expr → Option Key
  | .constant _ value => some (.constant value)
  | .name _ id _ => some (.name id)
  | .tuple _ items => (keysOf? items).map .tuple
  | _ => none

def keysOf? : List Expr → Option (List Key)
  | [] => some []
  | e :: es =>
    match keyOf? e, keysOf? es with
    | some k, some ks => some (k :: ks)
    | _, _ => none

end

def keyLine : Expr → Nat
  | .constant line _ | .name line _ _ | .tuple line _ => line
  | _ => 0

structure DictEntry where
  line : Nat
  key : Key
  value : Option Key

def dictEntries : List (Option Expr) → List Expr → List DictEntry
  | key :: keys, value :: values =>
    match key with
    | some e =>
      match keyOf? e with
      | some k => ⟨keyLine e, k, keyOf? value⟩ :: dictEntries keys values
      | none => dictEntries keys values
    | none => dictEntries keys values
  | _, _ => []

def hasSingleValue (group : List DictEntry) : Bool :=
  group.any fun entry =>
    match entry.value with
    | none => true
    | some v => (group.filter fun other => other.value.any v.same).length == 1

def groupEntries : (fuel : List DictEntry) → List DictEntry → List (List DictEntry)
  | _ :: fuel, entry :: rest =>
    (entry :: rest.filter (entry.key.same ·.key)) ::
      groupEntries fuel (rest.filter (!entry.key.same ·.key))
  | _, _ => []

/-- What is reported of a dictionary display: each occurrence of a repeated key, shown as it first
occurs. -/
def repeatedKeys (keys : List (Option Expr)) (values : List Expr) : List (Nat × Key) :=
  let entries := dictEntries keys values
  (groupEntries entries entries).flatMap fun group =>
    match group with
    | ⟨_, .name _, _⟩ :: _ => []
    | first :: _ :: _ =>
      if hasSingleValue group then group.map fun entry => (entry.line, first.key) else []
    | _ => []

end Pruner.Scope
