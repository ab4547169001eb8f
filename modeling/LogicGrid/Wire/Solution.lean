import LogicGrid.Report
import LogicGrid.Wire.Config

/-!
# Solutions and reports as JSON

Solutions, statistics and reports are records. A report is only written; the time at which it was made is its last
member.
-/

namespace LogicGrid

/-- A solution as JSON. -/
def Solution.toJson (s : Solution) : Json :=
  .obj [("facts", s.facts.toJson), ("inference_steps", .nat s.inferenceSteps)]

/-- Reads a solution. -/
def Solution.ofJson? (v : Json) : Option Solution :=
  match v.record? ["facts", "inference_steps"] with
  | some [some facts, some (.nat inferenceSteps)] => (FactSet.ofJson? facts).map (⟨·, inferenceSteps⟩)
  | _ => none

/-- Statistics as JSON. -/
def SolveStats.toJson (s : SolveStats) : Json :=
  .obj [("passes", .nat s.passes), ("derived_facts", .nat s.derivedFacts), ("searched", .bool s.searched),
    ("search_branches", .nat s.searchBranches), ("leaves_evaluated", .nat s.leavesEvaluated),
    ("contradictions", .nat s.contradictions), ("step_limit_hit", .bool s.stepLimitHit),
    ("fact_limit_hit", .bool s.factLimitHit), ("search_truncated", .bool s.searchTruncated)]

/-- Reads statistics. -/
def SolveStats.ofJson? (v : Json) : Option SolveStats :=
  match v.record? ["passes", "derived_facts", "searched", "search_branches", "leaves_evaluated", "contradictions",
    "step_limit_hit", "fact_limit_hit", "search_truncated"] with
  | some [some (.nat passes), some (.nat derivedFacts), some (.bool searched), some (.nat searchBranches),
      some (.nat leavesEvaluated), some (.nat contradictions), some (.bool stepLimitHit),
      some (.bool factLimitHit), some (.bool searchTruncated)] =>
    some ⟨passes, derivedFacts, searched, searchBranches, leavesEvaluated, contradictions, stepLimitHit,
      factLimitHit, searchTruncated⟩
  | _ => none

/-- The members of a report that do not depend on the time. -/
def Report.members (r : Report) : List (String × Json) :=
  [("puzzle", .str r.puzzle), ("solved", .bool r.solved), ("facts", .ofStrings r.facts),
    ("derived", .ofStrings r.derived), ("inference_steps", .nat r.inferenceSteps), ("stats", r.stats.toJson)]

/-- A report as JSON, with the time at which the puzzle was solved. -/
def Report.toJson (r : Report) (solvedAt : String) : Json := .obj (r.members ++ [("solved_at", .str solvedAt)])

end LogicGrid
