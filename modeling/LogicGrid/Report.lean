import LogicGrid.Solver

/-!
# Reports

A record of one solve that is fit to be written out: facts by their texts, with the statistics.
-/

namespace LogicGrid

/-- A record of one solve. -/
structure Report where
  /-- The path or label of the puzzle. -/
  puzzle : String
  solved : Bool
  /-- The texts of the facts, ascending. -/
  facts : List String
  /-- The texts of the facts that the puzzle did not hold. -/
  derived : List String
  inferenceSteps : Nat
  stats : SolveStats
deriving DecidableEq, Repr

/-- The record of an outcome. Without a solution there are no facts and no steps. -/
def Outcome.report (o : Outcome) (puzzle : String) (input : KnowledgeBase) : Report where
  puzzle := puzzle
  solved := o.solution.isSome
  facts := (o.solution.map fun s => s.sortedFacts.map Fact.text).getD []
  derived := (o.solution.map fun s => (s.derivedFrom input).map Fact.text).getD []
  inferenceSteps := (o.solution.map Solution.inferenceSteps).getD 0
  stats := o.stats

end LogicGrid
