import Pruner.Constant

namespace Pruner.Syntax

inductive Access
  | load
  | store
  | delete
  deriving DecidableEq, Repr

inductive UnaryOp
  | plus
  | minus
  | invert
  | not
  deriving DecidableEq, Repr

inductive BinaryOp
  | add
  | sub
  | other
  deriving DecidableEq, Repr

mutual

inductive Expr
  | name (line : Nat) (id : String) (access : Access)
  | constant (line : Nat) (value : Constant)
  | joined (parts : List Expr)
  | formatted (value : Expr) (spec : Option Expr)
  | tuple (line : Nat) (items : List Expr)
  | list (items : List Expr)
  | set (items : List Expr)
  | dict (keys : List (Option Expr)) (values : List Expr)
  | attribute (value : Expr) (attr : String)
  | subscript (value : Expr) (slice : Expr)
  | slice (lower upper step : Option Expr)
  | starred (value : Expr)
  | call (func : Expr) (args : List Expr) (keywords : List KeywordArg)
  | unary (op : UnaryOp) (operand : Expr)
  | binary (left : Expr) (op : BinaryOp) (right : Expr)
  | boolean (items : List Expr)
  | compare (left : Expr) (rest : List Expr)
  | conditional (test body orelse : Expr)
  | lambda (params : Params) (body : Expr)
  | assignment (target value : Expr)
  | comprehension (item : Expr) (clauses : List Clause)
  | dictComprehension (key value : Expr) (clauses : List Clause)
  | suspend (value : Option Expr)

inductive KeywordArg
  | mk (name : Option String) (value : Expr)

inductive Clause
  | mk (target iter : Expr) (conditions : List Expr)

inductive Param
  | mk (name : String) (hint : Option Expr)

/-- Parameters; keyword-only parameters have one default each, which may be missing. -/
inductive Params
  | mk (positionalOnly positional : List Param) (rest : Option Param) (keywordOnly : List Param)
      (keywordRest : Option Param) (defaults : List Expr) (keywordDefaults : List (Option Expr))

end

instance : Inhabited Expr := ⟨.constant 0 .none⟩

def Param.name : Param → String
  | .mk name _ => name

def Param.hint : Param → Option Expr
  | .mk _ hint => hint

def KeywordArg.name : KeywordArg → Option String
  | .mk name _ => name

def KeywordArg.value : KeywordArg → Expr
  | .mk _ value => value

namespace Params

def positionalOnly : Params → List Param
  | .mk ps _ _ _ _ _ _ => ps

def positional : Params → List Param
  | .mk _ ps _ _ _ _ _ => ps

def rest : Params → Option Param
  | .mk _ _ p _ _ _ _ => p

def keywordOnly : Params → List Param
  | .mk _ _ _ ps _ _ _ => ps

def keywordRest : Params → Option Param
  | .mk _ _ _ _ p _ _ => p

def defaults : Params → List Expr
  | .mk _ _ _ _ _ es _ => es

def keywordDefaults : Params → List (Option Expr)
  | .mk _ _ _ _ _ _ es => es

end Params

inductive Pattern
  | value (value : Expr)
  | singleton
  | sequence (items : List Pattern)
  | mapping (line : Nat) (keys : List Expr) (patterns : List Pattern) (rest : Option String)
  | instanceOf (cls : Expr) (positional keyword : List Pattern)
  | star (line : Nat) (name : Option String)
  | capture (line : Nat) (pattern : Option Pattern) (name : Option String)
  | either (items : List Pattern)

structure ImportItem where
  path : String
  shortName : Option String
  deriving DecidableEq, Repr

mutual

inductive Stmt
  | functionDef (name : String) (params : Params) (body : List Stmt) (decorators : List Expr)
      (returns : Option Expr)
  | classDef (name : String) (bases : List Expr) (keywords : List KeywordArg) (body : List Stmt)
      (decorators : List Expr)
  | giveBack (value : Option Expr)
  | delete (targets : List Expr)
  | assign (line : Nat) (targets : List Expr) (value : Expr)
  | augAssign (line : Nat) (target value : Expr)
  | annAssign (line : Nat) (target hint : Expr) (value : Option Expr)
  | forLoop (target iter : Expr) (body orelse : List Stmt)
  | whileLoop (test : Expr) (body orelse : List Stmt)
  | branch (test : Expr) (body orelse : List Stmt)
  | withBlock (items : List (Expr × Option Expr)) (body : List Stmt)
  | matchCases (subject : Expr) (cases : List Case)
  | raise (exception cause : Option Expr)
  | tryBlock (body : List Stmt) (handlers : List Handler) (orelse closing : List Stmt)
  | assertion (test : Expr) (message : Option Expr)
  | imports (line : Nat) (items : List ImportItem)
  | importFrom (line : Nat) (level : Nat) (path : Option String) (items : List ImportItem)
  | outer (names : List String)
  | expression (value : Expr)
  | simple

inductive Case
  | mk (pattern : Pattern) (guard : Option Expr) (body : List Stmt)

inductive Handler
  | mk (line : Nat) (type : Option Expr) (name : Option String) (body : List Stmt)

end

namespace Expr

mutual

/-- The expression as a target of the given access: names, attributes, subscripts, and tuples and
lists of targets. Starred targets are only for storing. -/
def asTarget? (access : Access) : Expr → Option Expr
  | .name line id _ => some (.name line id access)
  | .attribute value attr => some (.attribute value attr)
  | .subscript value index => some (.subscript value index)
  | .tuple line items => (asTargets? access items).map (.tuple line)
  | .list items => (asTargets? access items).map .list
  | .starred value =>
    if access == .store then (asTarget? access value).map .starred else none
  | _ => none

def asTargets? (access : Access) : List Expr → Option (List Expr)
  | [] => some []
  | e :: es =>
    match asTarget? access e, asTargets? access es with
    | some t, some ts => some (t :: ts)
    | _, _ => none

end

def asSingleTarget? : Expr → Option Expr
  | .name line id _ => some (.name line id .store)
  | .attribute value attr => some (.attribute value attr)
  | .subscript value index => some (.subscript value index)
  | _ => none

end Expr

end Pruner.Syntax
