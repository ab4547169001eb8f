import LogicGrid.KnowledgeBase
import LogicGrid.Puzzle.Statement

/-!
# Puzzle text

A puzzle is written one statement a line. Its facts and rules make up a knowledge base in the order of the lines, where
a repeated fact is taken once. The first malformed statement is reported with its line, counted from 1.
-/

namespace LogicGrid

namespace Puzzle

/-- What was read on the line `n`. An error is reported with the number of the line. -/
def atLine {α : Type _} (n : Nat) (read : Except SyntaxError α) : Except Error α := read.mapError (.malformed n)

/-- Reads lines up to the first malformed one; `n` is the number of the first line. -/
def readLines : Nat → List (List Char) → Except Error (List Statement)
  | _, [] => .ok []
  | n, l :: ls =>
    match atLine n (readStatement l) with
    | .ok s => (readLines (n + 1) ls).map (s.toList ++ ·)
    | .error e => .error e

end Puzzle

namespace KnowledgeBase

/-- Adds what a line states. -/
def addStatement (kb : KnowledgeBase) : Puzzle.Statement → KnowledgeBase
  | .fact f => kb.addFact f
  | .rule r => kb.addRule r

/-- Reads a puzzle. -/
def ofText (text : String) : Except Error KnowledgeBase :=
  (Puzzle.readLines 1 (text.toList.splitOn '\n')).map fun ss => ss.foldl addStatement empty

end KnowledgeBase

end LogicGrid
