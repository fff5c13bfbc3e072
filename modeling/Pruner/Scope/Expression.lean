import Pruner.Scope.RepeatedKey
import Pruner.Scope.Walk

/-!
The walk over expressions.

The first argument of a walk is the room that is left for nested steps. Every level of the tree
takes two or three units of it, and a tree that is too deep for the room cannot be walked.
-/
namespace Pruner.Scope.Walk

open Pruner.Syntax

def laterText (line : Nat) (source : List Nat) : Walk Unit :=
  withReader (fun p => { p with line := some (p.lineOf line) }) (later (.typeText source))

def noteWhole (e : Expr) : Walk Unit := do
  match e with
  | .name _ "locals" .load =>
    modifyCurrent fun s => if s.kind == .function then { s with readWhole := true } else s
  | _ => return ()

def insideFunction : Walk Bool := do
  let kind := (← current).kind
  return kind == .function || kind == .comprehension

def pairs? : List Expr → Option (List Expr × List Expr)
  | [] => some ([], [])
  | e :: es =>
    match e, pairs? es with
    | .tuple _ [a, b], some (as, bs) => some (a :: as, b :: bs)
    | .list [a, b], some (as, bs) => some (a :: as, b :: bs)
    | _, _ => none

def typeArguments? (member : Option String) (args : List Expr) (keywords : List KeywordArg) :
    Option (List Expr × List Expr) :=
  let named := keywords.map (·.value)
  match member with
  | some "TypeVar" =>
    let (bounds, others) := keywords.partition (·.name == some "bound")
    some (others.map (·.value), args.drop 1 ++ bounds.map (·.value))
  | some "TypedDict" =>
    match args with
    | _ :: .dict keys values :: _ => some (keys.filterMap id, values ++ named)
    | _ => some (args, named)
  | some "NamedTuple" =>
    let fields? := match args with
      | _ :: .tuple _ items :: _ => pairs? items
      | _ :: .list items :: _ => pairs? items
      | _ => none
    match fields? with
    | some (names, types) => some (names, types ++ named)
    | none => some (args, named)
  | _ => none

mutual

def expression : (room : Nat) → Expr → Walk Unit
  | n + 3, e => do
    match e with
    | .name line id .load => load id line
    | .name _ _ _ => return ()
    | .constant line (.str points) =>
      unless (← read).typing == .outside do laterText line points
    | .constant _ _ => return ()
    | .joined parts => parts.forM (expression n)
    | .formatted value spec =>
      expression (n + 1) value
      spec.forM (expression (n + 1))
    | .tuple _ items | .list items => items.forM (expression n)
    | .set items => items.forM (expression (n + 1))
    | .dict keys values =>
      for (line, key) in repeatedKeys keys values do
        report line (.repeatedKey key)
      (keys.filterMap id).forM (expression n)
      values.forM (expression n)
    | .attribute value _ => expression (n + 1) value
    | .subscript value index =>
      match ← typingMember? value with
      | some "Literal" =>
        withTyping .outside do
          expression n value
          expression n index
      | some "Annotated" =>
        expression (n + 1) value
        match index with
        | .tuple _ (first :: second :: rest) =>
          expression (n + 1) first
          withTyping .outside ((second :: rest).forM (expression (n + 1)))
        | _ => expression (n + 1) index
      | some _ =>
        withTyping .plain do
          expression n value
          expression n index
      | none =>
        expression n value
        expression n index
    | .slice lower upper step =>
      lower.forM (expression (n + 1))
      upper.forM (expression (n + 1))
      step.forM (expression (n + 1))
    | .starred value => expression (n + 1) value
    | .call func args keywords =>
      let member ← typingMember? func
      match typeArguments? member args keywords with
      | some (values, types) =>
        withTyping .outside do
          expression n func
          values.forM (expression n)
        withTyping .plain (types.forM (expression n))
      | none =>
        if member == some "cast" then
          withTyping .plain ((args.take 1).forM (expression n))
        for child in func :: args do
          expression n child
          noteWhole child
        for keyword in keywords do
          expression n keyword.value
    | .unary _ operand => expression (n + 1) operand
    | .binary left _ right =>
      expression n left
      expression n right
    | .boolean items => items.forM (expression (n + 1))
    | .compare left rest =>
      expression n left
      rest.forM (expression n)
    | .conditional test body orelse =>
      expression n test
      expression n body
      expression n orelse
    | .lambda params body =>
      params.defaults.forM (expression (n + 1))
      (params.keywordDefaults.filterMap id).forM (expression (n + 1))
      withTyping .outside (later (.result params body))
    | .assignment set value =>
      expression (n + 1) value
      match set with
      | .name line id _ => bindOutside id line
      | _ => return ()
    | .comprehension item clauses =>
      inScope .comprehension do
        clauses.forM (clause n)
        expression n item
    | .dictComprehension key value clauses =>
      inScope .comprehension do
        clauses.forM (clause n)
        expression n key
        expression n value
    | .suspend value =>
      if ← insideFunction then value.forM (expression (n + 1))
  | _, _ => failure

/-- Walks over what is set or deleted. A name itself is bound to `direct`, names inside a sequence
to `nested`. -/
def target : (room : Nat) → (direct nested : Referent) → Expr → Walk Unit
  | n + 3, direct, nested, e => do
    match e with
    | .name line id .store => bindName id direct line
    | .name _ id .delete => delete id
    | .tuple _ items | .list items => items.forM (target n nested nested)
    | .starred value => target (n + 1) nested nested value
    | .attribute value _ => expression (n + 1) value
    | e => expression (n + 2) e
  | _, _, _, _ => failure

def clause : (room : Nat) → Clause → Walk Unit
  | n + 3, .mk set iter conditions => do
    expression (n + 1) iter
    target (n + 1) .fixed .fixed set
    conditions.forM (expression (n + 1))
  | _, _ => failure

end

end Pruner.Scope.Walk
