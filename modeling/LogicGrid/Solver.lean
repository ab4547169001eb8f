import LogicGrid.Search.Backtracking
import LogicGrid.Solution

/-!
# Solving

Deduction runs first. If it ends without a conflict and all facts are ground, the puzzle is solved; if variables are
left, a search assigns them. There is no solution when the facts conflict, when they exceed the limit, or when the search
fails; the statistics tell these apart.
-/

namespace LogicGrid

/-- What happened while a puzzle was solved. -/
structure SolveStats where
  /-- Deduction passes, also those at the leaves of a search. -/
  passes : Nat := 0
  /-- Facts that deduction added. -/
  derivedFacts : Nat := 0
  /-- Whether deduction left variables free. -/
  searched : Bool := false
  /-- Assignments tried. -/
  searchBranches : Nat := 0
  leavesEvaluated : Nat := 0
  contradictions : Nat := 0
  /-- Whether deduction ran out of passes. -/
  stepLimitHit : Bool := false
  /-- Whether deduction exceeded the limit on facts. -/
  factLimitHit : Bool := false
  /-- Whether the search space was cut down. -/
  searchTruncated : Bool := false
deriving DecidableEq, Repr

namespace SolveStats

/-- Whether a limit may have hidden a solution or part of one. -/
def approximated (s : SolveStats) : Bool := s.stepLimitHit || s.searchTruncated

/-- The statistics of a tally that was taken without a search. -/
def ofTally (t : Tally) : SolveStats where
  passes := t.passes
  derivedFacts := t.derived
  searchBranches := t.branches
  leavesEvaluated := t.leaves
  contradictions := t.contradictions
  stepLimitHit := t.stepLimitHit
  factLimitHit := t.factLimitHit

end SolveStats

/-- A puzzle with the configuration and the constraints to solve it under. -/
structure Solver where
  kb : KnowledgeBase
  config : SolverConfig
  table : ConstraintTable := .puzzle
deriving DecidableEq, Repr

/-- A solution, if there is one, and what happened on the way. -/
structure Outcome where
  solution : Option Solution
  stats : SolveStats
deriving DecidableEq, Repr

namespace Solver

/-- The knowledge base in which deduction starts: the puzzle under the limit of the configuration. -/
def start (s : Solver) : KnowledgeBase := { s.kb with maxFacts := s.config.maxFacts }

/-- Assigns the variables that deduction left free. `met` tells what deduction did. -/
def searchFrom (s : Solver) (kb : KnowledgeBase) (steps : Nat) (met : Tally) : Outcome :=
  let space := SearchSpace.discover kb s.config
  let r := search s.table s.config.maxSteps space.freeVariables kb
  { solution := r.leaf.map fun leaf => ⟨leaf.kb.facts, steps + leaf.productivePasses⟩
    stats := { SolveStats.ofTally (met + r.tally) with searched := true, searchTruncated := space.truncated } }

/-- Solves a puzzle. -/
def solve (s : Solver) : Outcome :=
  let (kb, run) := s.start.saturate s.config.maxSteps
  let met := Tally.ofSaturation run
  if run.limitExceeded then ⟨none, .ofTally met⟩
  else if (kb.conflict s.table).isSome then ⟨none, .ofTally (met + { contradictions := 1 })⟩
  else if kb.isComplete then ⟨some ⟨kb.facts, run.productivePasses⟩, .ofTally met⟩
  else s.searchFrom kb run.productivePasses met

end Solver

end LogicGrid
