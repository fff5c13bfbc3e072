import Pruner.Syntax.Params

namespace Pruner

open Pruner.Syntax

inductive LiteralError
  | malformed
  | unhashable (kind : Container)
  | overflow
  deriving DecidableEq, Repr

namespace Literal

abbrev Result := Except LiteralError Value

def values (results : List Result) : Except LiteralError (List Value) :=
  results.mapM id

def elements : List Result → Except LiteralError Unit
  | [] => .ok ()
  | r :: rs => do
    let v ← r
    if let some kind := v.unhashable? then throw (.unhashable kind)
    elements rs

/-- The entries of a dictionary: key, value, then the check of the key. -/
def entries : List Result → List Result → Except LiteralError Unit
  | k :: ks, v :: vs => do
    let key ← k
    discard v
    if let some kind := key.unhashable? then throw (.unhashable kind)
    entries ks vs
  | _, _ => .ok ()

def number? : Expr → Option Constant
  | .constant _ (.int n) => some (.int n)
  | .constant _ (.float x) => some (.float x)
  | .constant _ (.complex re im) => some (.complex re im)
  | _ => none

def negate : Constant → Constant
  | .int n => .int (-n)
  | .float x => .float x.neg
  | .complex re im => .complex re.neg im.neg
  | c => c

def signedNumber? : Expr → Option Constant
  | .unary .plus e => number? e
  | .unary .minus e => (number? e).map negate
  | e => number? e

def toBinary? : Constant → Option (Except LiteralError Binary64)
  | .int n =>
    match Binary64.ofDecimal n.natAbs 0 with
    | .infinite _ => some (.error .overflow)
    | x => some (.ok (if n < 0 then x.neg else x))
  | .float x => some (.ok x)
  | _ => none

def complexSum (left : Expr) (op : BinaryOp) (right : Expr) : Result :=
  match op, signedNumber? left, number? right with
  | .other, _, _ => .error .malformed
  | op, some a, some (.complex _ im) =>
    match toBinary? a with
    | some (.ok re) => .ok (.constant (.complex re (if op == .sub then im.neg else im)))
    | some (.error e) => .error e
    | none => .error .malformed
  | _, _, _ => .error .malformed

mutual

def eval : Expr → Result
  | .constant _ c => .ok (.constant c)
  | .tuple _ items => (values (evalAll items)).map .tuple
  | .list items => (values (evalAll items)).map fun _ => .container .list
  | .set items => (elements (evalAll items)).map fun _ => .container .set
  | .dict keys vals => (entries (evalKeys keys) (evalAll vals)).map fun _ => .container .dict
  | .call (.name _ "set" _) [] [] => .ok (.container .set)
  | .binary left op right => complexSum left op right
  | e =>
    match signedNumber? e with
    | some c => .ok (.constant c)
    | none => .error .malformed

def evalAll : List Expr → List Result
  | [] => []
  | e :: es => eval e :: evalAll es

def evalKeys : List (Option Expr) → List Result
  | [] => []
  | some e :: es => eval e :: evalKeys es
  | none :: es => .error .malformed :: evalKeys es

end

def ofText (source : Text) : Result :=
  match parseExpression? (source.dropWhile fun c => c == ' ' || c == '\t') with
  | some e => eval e
  | none => .error .malformed

end Literal

end Pruner
