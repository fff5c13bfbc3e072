import Pruner.Token.Shape

namespace Pruner.Token

open Pruner.Text

structure OpenString where
  text : Text
  row : Nat
  line : Text
  triple : Bool
  quote : Char
  deriving DecidableEq, Repr

structure State where
  depth : Int := 0
  joined : Bool := false
  columns : List Nat := [0]
  pending : Option OpenString := none
  needsJoin : Bool := false
  deriving DecidableEq, Repr

structure Ending where
  depth : Int
  joined : Bool
  pending : Option OpenString
  deriving DecidableEq, Repr

def wordKind (text : Text) : TokenKind :=
  if text.head?.any isIdentifierStart then .name else .op

def depthAfter (depth : Int) (text : Text) : Int :=
  match text with
  | c :: _ =>
    if c == '(' || c == '[' || c == '\x7b' then depth + 1
    else if c == ')' || c == ']' || c == '\x7d' then depth - 1
    else depth
  | [] => depth

/-- The tokens of the rest of a line. The first `skip` characters belong to a token already read. -/
def scanLine (row : Nat) (line : Text) : (skip : Nat) → Int → Text → List Token × Ending
  | _, depth, [] => ([], ⟨depth, false, none⟩)
  | skip + 1, depth, _ :: cs => scanLine row line skip depth cs
  | 0, depth, c :: cs =>
    let blanks := ((c :: cs).takeWhile isInnerBlank).length
    let body := (c :: cs).drop blanks
    match shape? body with
    | none =>
      let (tokens, ending) := scanLine row line 0 depth cs
      (⟨.junk, [c], row, line⟩ :: tokens, ending)
    | some (shape, n) =>
      let text := body.take n
      let token (kind : TokenKind) : Token := ⟨kind, text, row, line⟩
      let next := blanks + n - 1
      match shape with
      | .finish => scanLine row line next depth cs
      | .joiner =>
        let (tokens, ending) := scanLine row line next depth cs
        (tokens, { ending with joined := true })
      | .unclosed quote => ([], ⟨depth, false, some ⟨body, row, line, false, quote⟩⟩)
      | .tripleQuote quote =>
        match closingRun true quote (body.drop n) with
        | none => ([], ⟨depth, false, some ⟨body, row, line, true, quote⟩⟩)
        | some k =>
          let (tokens, ending) := scanLine row line (next + k) depth cs
          (⟨.string, body.take (n + k), row, line⟩ :: tokens, ending)
      | .op =>
        let (tokens, ending) := scanLine row line next (depthAfter depth text) cs
        (token .op :: tokens, ending)
      | .word =>
        let (tokens, ending) := scanLine row line next depth cs
        (token (wordKind text) :: tokens, ending)
      | .comment =>
        let (tokens, ending) := scanLine row line next depth cs
        (token .comment :: tokens, ending)
      | .number =>
        let (tokens, ending) := scanLine row line next depth cs
        (token .number :: tokens, ending)
      | .newline =>
        let (tokens, ending) := scanLine row line next depth cs
        (token (if depth > 0 then .lineEnd else .newline) :: tokens, ending)
      | .quoted =>
        let (tokens, ending) := scanLine row line next depth cs
        (token .string :: tokens, ending)

/-- Column after the blanks at the head of a line, and what follows them. A tab goes to the next
multiple of eight, a form feed back to the margin. -/
def measureIndent : Nat → Text → Nat × Text
  | column, [] => (column, [])
  | column, c :: cs =>
    if c == ' ' then measureIndent (column + 1) cs
    else if c == '\t' then measureIndent ((column / 8 + 1) * 8) cs
    else if c == '\x0c' then measureIndent 0 cs
    else (column, c :: cs)

def closeBlocks (column : Nat) : List Nat → List Nat × Nat
  | [] => ([], 0)
  | top :: below =>
    if column < top then
      let (left, n) := closeBlocks column below
      (left, n + 1)
    else (top :: below, 0)

inductive LineResult
  | more (tokens : List Token) (state : State)
  | stop
  | fail (error : ScanError)
  deriving DecidableEq, Repr

def State.after (state : State) (ending : Ending) : State :=
  { state with
    depth := ending.depth
    joined := ending.joined
    pending := ending.pending
    needsJoin := match ending.pending with
      | some open' => !open'.triple || state.needsJoin
      | none => state.needsJoin }

def scanInString (state : State) (open' : OpenString) (row : Nat) (line : Text) : LineResult :=
  match closingRun open'.triple open'.quote line with
  | some n =>
    let (tokens, ending) := scanLine row line n state.depth line
    .more (⟨.string, open'.text ++ line.take n, open'.row, open'.line ++ line⟩ :: tokens)
      ({ state with needsJoin := false }.after ending)
  | none =>
    if state.needsJoin && !endsWith ['\\', '\n'] line && !endsWith ['\\', '\r', '\n'] line then
      .more [⟨.junk, open'.text ++ line, open'.row, open'.line⟩] { state with pending := none }
    else
      .more [] { state with
        pending := some { open' with text := open'.text ++ line, line := open'.line ++ line } }

def scanStatement (state : State) (row : Nat) (line : Text) : LineResult :=
  let (column, body) := measureIndent 0 line
  let indent := line.length - body.length
  match body with
  | [] => .stop
  | c :: _ =>
    if c == '#' then
      let text := body.reverse.dropWhile (fun d => d == '\r' || d == '\n') |>.reverse
      .more [⟨.comment, text, row, line⟩, ⟨.lineEnd, body.drop text.length, row, line⟩] state
    else if c == '\r' || c == '\n' then
      .more [⟨.lineEnd, body, row, line⟩] state
    else
      let top := state.columns.headD 0
      if column < top && !state.columns.contains column then .fail .unknownDedent
      else
        let (columns, closed) := closeBlocks column state.columns
        let opened := if column > top then column :: columns else columns
        let marks :=
          if column > top then [⟨.indent, line.take indent, row, line⟩]
          else List.replicate closed ⟨.dedent, [], row, line⟩
        let (tokens, ending) := scanLine row line indent state.depth line
        .more (marks ++ tokens) ({ state with columns := opened }.after ending)

def step (state : State) (row : Nat) (line : Text) : LineResult :=
  match state.pending with
  | some open' => scanInString state open' row line
  | none =>
    if state.depth = 0 ∧ !state.joined then scanStatement state row line
    else
      let (tokens, ending) := scanLine row line 0 state.depth line
      .more tokens (state.after ending)

def finish (state : State) (row : Nat) (last : Text) : List Token :=
  let newline : List Token :=
    match last.getLast? with
    | some c =>
      if c == '\r' || c == '\n' || startsWith ['#'] (trim last) then []
      else [⟨.newline, [], row - 1, []⟩]
    | none => []
  newline ++ List.replicate (state.columns.length - 1) ⟨.dedent, [], row, []⟩ ++
    [⟨.endMarker, [], row, []⟩]

def scanLines (state : State) (row : Nat) (last : Text) : List Text → Scan
  | [] =>
    if state.pending.isSome then ⟨[], some .openString⟩
    else if state.depth = 0 ∧ !state.joined then ⟨finish state row last, none⟩
    else ⟨[], some .openStatement⟩
  | line :: rest =>
    match step state row line with
    | .fail error => ⟨[], some error⟩
    | .stop => ⟨finish state row last, none⟩
    | .more tokens next =>
      let scan := scanLines next (row + 1) line rest
      { scan with tokens := tokens ++ scan.tokens }

def scan (source : Text) : Scan :=
  scanLines {} 1 [] (lines source)

end Pruner.Token

namespace Pruner.Line

open Pruner.Text

def indentation (line : Text) : Text :=
  if (trim line).isEmpty then [] else line.takeWhile isBlank

def ending (line : Text) : Text :=
  (line.reverse.takeWhile isBlank).reverse

def passFor (line : Text) : Text :=
  indentation line ++ "pass".toList ++ ending line

def isJoined (line : Text) : Bool :=
  endsWith ['\\'] (trimRight line)

/-- Whether a line is, or may be, only a part of a statement: it holds a backslash, colon or
semicolon, cannot be read on its own, or follows a line that ends in a backslash. -/
def isPartial (line previous : Text) : Bool :=
  line.contains '\\' || line.contains ':' || line.contains ';' ||
    (Token.scan line).error.isSome || isJoined previous

def isPartialImport (line previous : Text) : Bool :=
  line.contains '(' || line.contains ')' || startsWith ['>'] (trimLeft line) ||
    isPartial line previous

end Pruner.Line
