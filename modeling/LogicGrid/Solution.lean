import LogicGrid.KnowledgeBase

/-!
# Solutions

A complete set of facts without conflicts, and the number of deduction passes that led to it.
-/

namespace LogicGrid

/-- The facts of a solved puzzle. -/
structure Solution where
  facts : FactSet
  /-- The passes that added facts. -/
  inferenceSteps : Nat
deriving DecidableEq, Repr

namespace Solution

/-- The facts by ascending text; facts of equal text stay in their order. -/
def sortedFacts (s : Solution) : List Fact := s.facts.toList.mergeSort fun f g => decide (f.text ≤ g.text)

/-- The facts that a knowledge base does not hold, in their order. -/
def derivedFrom (s : Solution) (input : KnowledgeBase) : List Fact :=
  s.facts.toList.filter fun f => decide (f ∉ input.facts)

/-- The sorted facts, one a line, and a line of totals. -/
def text (s : Solution) : String :=
  String.join (s.sortedFacts.map fun f => "  " ++ f.text ++ "\n")
    ++ s.facts.size.repr ++ " facts, " ++ s.inferenceSteps.repr ++ " inference steps"

end Solution

end LogicGrid
