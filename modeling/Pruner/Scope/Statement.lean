import Pruner.Scope.Expression

namespace Pruner.Scope.Walk

open Pruner.Syntax

/-- Walks over a type. A type in a string is put off, and any other is if all types are. -/
def type (room : Nat) (e : Expr) : Walk Unit := do
  match e with
  | .constant line (.str points) => laterText line points
  | e =>
    if (← get).typesLater then later (.type e) else withTyping .plain (expression room e)

def paramTypes (params : Params) : List Expr :=
  (params.positionalOnly ++ params.positional ++ params.keywordOnly ++ params.rest.toList ++
    params.keywordRest.toList).filterMap (·.hint)

def bindParams (params : Params) : Walk Unit :=
  (params.positionalOnly ++ params.positional ++ params.rest.toList ++ params.keywordOnly ++
    params.keywordRest.toList).forM fun p => bindName p.name .fixed 0

def exportedTexts (items : List Expr) : List String :=
  items.filterMap fun
    | .constant _ (.str points) => some (String.ofList (points.map Char.ofNat))
    | _ => none

def items? : Expr → Option (List Expr)
  | .tuple _ items | .list items => some items
  | _ => none

/-- The names that an export list holds: of a list or tuple, or of a sum whose right sides are
such. The last summand comes first. -/
def exportedNames : Expr → List String
  | .tuple _ items | .list items => exportedTexts items
  | .binary left _ right => sumNames left right
  | _ => []
where
  sumNames (left right : Expr) : List String :=
    match items? right with
    | none => []
    | some items =>
      exportedTexts items ++
        match left with
        | .binary left _ right => sumNames left right
        | .tuple _ items | .list items => exportedTexts items
        | _ => []

def bindExports (line : Nat) (extends_ : Bool) (value : Expr) : Walk Unit := do
  let names := exportedNames value
  if extends_ then
    match (← current).find? "__all__" with
    | none => bindName "__all__" (.exports names) line
    | some b =>
      match b.exports? with
      | some old => bindName "__all__" (.exports (old ++ names)) line
      | none => failure
  else bindName "__all__" (.exports names) line

def isExports (e : Expr) : Walk Bool := do
  match e with
  | .name _ "__all__" _ => return (← current).kind == .whole
  | _ => return false

def isDisplay : Expr → Bool
  | .tuple _ _ | .list _ | .set _ => true
  | _ => false

def importItem (line : Nat) (item : ImportItem) : Walk Unit :=
  match item.shortName with
  | some name => bindName name (.imported (.ofPath item.path name)) line
  | none =>
    if item.path.toList.contains '.' then
      bindName (Importation.firstPart item.path) (.imported (.ofDotted item.path)) line
    else bindName item.path (.imported (.ofPath item.path item.path)) line

def importMember (line level : Nat) (path : Option String) (item : ImportItem) : Walk Unit := do
  let source := String.ofList (List.replicate level '.') ++ path.getD ""
  let name := item.shortName.getD item.path
  if path == some "__future__" then
    if item.path == "annotations" then modify fun s => { s with typesLater := true }
    let place ← read
    bindAt place.scope name
      { referent := .imported (.ofMember "__future__" name name), line, used := true }
  else if item.path == "*" then
    if (← current).kind == .whole then
      modifyCurrent fun s => { s with starred := true }
      report line (.starImport source.toList)
      bindName (Importation.starName source) (.imported (.ofStar source)) line
  else bindName name (.imported (.ofMember source item.path name)) line

def pattern : (room : Nat) → Pattern → Walk Unit
  | n + 3, p => do
    match p with
    | .value e => expression (n + 1) e
    | .singleton => return ()
    | .sequence items | .either items => items.forM (pattern (n + 1))
    | .mapping line keys patterns rest =>
      rest.forM (bindName · .assigned line)
      keys.forM (expression n)
      patterns.forM (pattern n)
    | .instanceOf cls positional keyword =>
      expression (n + 1) cls
      positional.forM (pattern (n + 1))
      keyword.forM (pattern (n + 1))
    | .star line name => name.forM (bindName · .assigned line)
    | .capture line inner name =>
      name.forM (bindName · .assigned line)
      inner.forM (pattern n)
  | _, _ => failure

/-- Does a step, the body of an `except` that binds `name`. The name is bound for that step only,
and reported if the step does not use it; what it was bound to before is an assignment
afterwards. -/
def withException (line : Nat) (name : String) (step : Walk Unit) : Walk Unit := do
  let scope := (← read).scope
  if (← current).contains name then bindName name .assigned line
  let before := (← current).find? name
  modifyAt scope (·.erase name)
  bindName name .assigned line
  step
  if let some b := (← current).find? name then
    modifyAt scope (·.erase name)
    unless b.used do report line (.unusedVariable name.toList)
  if let some b := before then modifyAt scope (·.set name b)

mutual

def statement : (room : Nat) → Stmt → Walk Unit
  | n + 3, s => do
    match s with
    | .functionDef name params body decorators returns =>
      decorators.forM (expression (n + 1))
      (paramTypes params ++ returns.toList).forM (type n)
      params.defaults.forM (expression n)
      (params.keywordDefaults.filterMap id).forM (expression n)
      later (.body params body)
      bindName name .fixed 0
    | .classDef name bases keywords body decorators =>
      decorators.forM (expression (n + 1))
      bases.forM (expression (n + 1))
      keywords.forM fun k => expression n k.value
      inScope .body (body.forM (statement (n + 1)))
      bindName name .fixed 0
    | .giveBack value =>
      if ← insideFunction then value.forM (expression (n + 1))
    | .delete targets => targets.forM (target (n + 1) .fixed .fixed)
    | .assign line targets value =>
      expression (n + 1) value
      let nested : Referent :=
        if isDisplay value && targets.all isDisplay then .assigned else .fixed
      for set in targets do
        if ← isExports set then bindExports line false value
        else target (n + 1) .assigned nested set
    | .augAssign line set value =>
      match set with
      | .name nameLine id _ => load id nameLine
      | _ => return ()
      expression (n + 1) value
      if ← isExports set then bindExports line true value
      else target (n + 1) .assigned .fixed set
    | .annAssign line set hint value =>
      type n hint
      match value with
      | none => target (n + 1) .typed .fixed set
      | some value =>
        if (← typingMember? hint) == some "TypeAlias" then type n value
        else expression (n + 1) value
        if ← isExports set then bindExports line false value
        else target (n + 1) .assigned .fixed set
    | .forLoop set iter body orelse =>
      expression (n + 1) iter
      target (n + 1) .fixed .fixed set
      body.forM (statement (n + 1))
      orelse.forM (statement (n + 1))
    | .whileLoop test body orelse =>
      maybe do
        expression (n + 1) test
        body.forM (statement (n + 1))
        orelse.forM (statement (n + 1))
    | .branch test body orelse =>
      maybe do
        expression n test
        body.forM (statement n)
        orelse.forM (statement n)
    | .withBlock items body =>
      for (value, set) in items do
        expression n value
        set.forM (target n .assigned .fixed)
      body.forM (statement (n + 1))
    | .matchCases subject cases =>
      expression (n + 1) subject
      cases.forM (matchCase (n + 1))
    | .raise exception cause =>
      exception.forM (expression n)
      cause.forM (expression n)
    | .tryBlock body handlers orelse closing =>
      body.forM (statement (n + 1))
      handlers.forM (handler n)
      orelse.forM (statement n)
      closing.forM (statement n)
    | .assertion test message =>
      expression n test
      message.forM (expression n)
    | .imports line items => items.forM (importItem line)
    | .importFrom line level path items => items.forM (importMember line level path)
    | .outer names =>
      if (← current).kind == .function then names.forM declareOuter
    | .expression value => expression (n + 1) value
    | .simple => return ()
  | _, _ => failure

def matchCase : (room : Nat) → Case → Walk Unit
  | n + 3, .mk p guard body => do
    pattern (n + 1) p
    guard.forM (expression (n + 1))
    body.forM (statement (n + 1))
  | _, _ => failure

def handler : (room : Nat) → Handler → Walk Unit
  | n + 3, .mk line type name body => do
    let inside : Walk Unit := do
      type.forM (expression n)
      body.forM (statement n)
    match name with
    | some name => withException line name inside
    | none => inside
  | _, _ => failure

end

end Pruner.Scope.Walk
