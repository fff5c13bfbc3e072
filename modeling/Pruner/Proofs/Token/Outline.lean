import Pruner.Proofs.Token.Move

/-!
What a reading says apart from row numbers, comments and the ends of lines that end no statement.

The reader looks at no row number, so a line is read in the same way wherever it stands.
-/
namespace Pruner.Token

open Pruner.Text

/-- Comments and line ends inside or between statements. -/
def isFiller : TokenKind → Bool
  | .comment => true
  | .lineEnd => true
  | _ => false

/-- The tokens that make up the statements and blocks. -/
def significant (tokens : List Token) : List Token :=
  tokens.filter (!isFiller ·.kind)

/-- Kinds and texts of the tokens that make up the statements and blocks. -/
def outline (tokens : List Token) : List (TokenKind × Text) :=
  (significant tokens).map fun t => (t.kind, t.text)

def forgetRow (t : Token) : Token :=
  { t with row := 0 }

def OpenString.forgetRow (o : OpenString) : OpenString :=
  { o with row := 0 }

def Ending.forgetRow (e : Ending) : Ending :=
  { e with pending := e.pending.map OpenString.forgetRow }

def State.forgetRow (s : State) : State :=
  { s with pending := s.pending.map OpenString.forgetRow }

def LineResult.forgetRow : LineResult → LineResult
  | .more tokens state => .more (tokens.map Token.forgetRow) state.forgetRow
  | .stop => .stop
  | .fail error => .fail error

@[simp] theorem significant_append (a b : List Token) :
    significant (a ++ b) = significant a ++ significant b :=
  List.filter_append ..

@[simp] theorem outline_append (a b : List Token) : outline (a ++ b) = outline a ++ outline b := by
  rw [outline, significant_append, List.map_append]
  rfl

theorem outline_map_forgetRow (ts : List Token) : outline (ts.map forgetRow) = outline ts := by
  rw [outline, significant, List.filter_map, List.map_map]
  rfl

theorem scanLine_forgetRow (row : Nat) (line : Text) (depth : Int) (t : Text) :
    scanLine 0 line 0 depth t = ((scanLine row line 0 depth t).1.map forgetRow,
      (scanLine row line 0 depth t).2.forgetRow) := by
  refine line_moves (P := fun depth t tokens ending =>
    scanLine 0 line 0 depth t = (tokens.map forgetRow, ending.forgetRow)) ?_ ?_ ?_ ?_ ?_ depth t
  · intro depth
    exact scanLine_nil ..
  · intro depth c cs n tokens ending hmove ih
    rw [scanLine_cons, hmove]
    exact ih
  · intro depth c cs n tokens ending hmove ih
    rw [scanLine_cons, hmove]
    dsimp only
    rw [ih]
    rfl
  · intro depth c cs text triple quote hmove
    rw [scanLine_cons, hmove]
    rfl
  · intro depth c cs kind text depth' n tokens ending hmove ih
    rw [scanLine_cons, hmove]
    dsimp only
    rw [ih]
    rfl

theorem after_forgetRow (s : State) (e : Ending) :
    (s.after e).forgetRow = s.forgetRow.after e.forgetRow := by
  obtain ⟨depth, joined, pending⟩ := e
  cases pending <;> rfl

theorem scanInString_forgetRow (s : State) (o : OpenString) (row : Nat) (line : Text) :
    (scanInString s o row line).forgetRow = scanInString s.forgetRow o.forgetRow 0 line := by
  have hrun : closingRun o.forgetRow.triple o.forgetRow.quote line =
      closingRun o.triple o.quote line := rfl
  rw [scanInString, scanInString, hrun]
  cases closingRun o.triple o.quote line with
  | some n =>
    dsimp only
    rw [scanLine_drop, scanLine_drop 0, scanLine_forgetRow row]
    simp only [LineResult.forgetRow, after_forgetRow]
    rfl
  | none =>
    have hneeds : s.forgetRow.needsJoin = s.needsJoin := rfl
    dsimp only
    rw [hneeds]
    split <;> rfl

theorem scanStatement_forgetRow (s : State) (row : Nat) (line : Text) :
    (scanStatement s row line).forgetRow = scanStatement s.forgetRow 0 line := by
  have hcolumns : s.forgetRow.columns = s.columns := rfl
  have hdepth : s.forgetRow.depth = s.depth := rfl
  rw [scanStatement, scanStatement, hcolumns, hdepth]
  dsimp only
  split
  · rfl
  · split
    · rfl
    · split
      · rfl
      · split
        · rfl
        · rw [scanLine_drop, scanLine_drop 0, scanLine_forgetRow row]
          simp only [LineResult.forgetRow, after_forgetRow, List.map_append]
          split
          · rfl
          · rw [List.map_replicate]
            rfl

theorem step_forgetRow (s : State) (row : Nat) (line : Text) :
    (step s row line).forgetRow = step s.forgetRow 0 line := by
  have hpending : s.forgetRow.pending = s.pending.map OpenString.forgetRow := rfl
  rw [step, step, hpending]
  cases s.pending with
  | some o => exact scanInString_forgetRow s o row line
  | none =>
    have hdepth : s.forgetRow.depth = s.depth := rfl
    have hjoined : s.forgetRow.joined = s.joined := rfl
    dsimp only [Option.map]
    rw [hdepth, hjoined]
    split
    · exact scanStatement_forgetRow s row line
    · rw [scanLine_forgetRow row]
      simp only [LineResult.forgetRow, after_forgetRow]

end Pruner.Token
