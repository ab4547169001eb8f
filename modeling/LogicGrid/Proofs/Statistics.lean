import LogicGrid.Proofs.LeastModel
import LogicGrid.Proofs.Solved

/-!
# What the statistics tell

Deduction and every leaf of a search add to one record. Without a search, that record is of one run of deduction only:
the run counts the facts that it adds (`Run.size_eq_add`), and it adds them behind those of before, so what a solution
holds beyond the puzzle is the end of its facts (`FactSet.toList_eq_append_filter`). With a search, the record covers
the run at the leaf that was taken (`exists_tuple_of_search`), whatever the rejected leaves added.

* `Solver.accounts` – the statistics tell the outcomes apart, at all four exits.
-/

namespace LogicGrid

open KnowledgeBase

/-- Facts that begin with those of another set go on with the ones that are not in it. -/
theorem FactSet.toList_eq_append_filter {s s' : FactSet} (h : s.toList <+: s'.toList) :
    s'.toList = s.toList ++ s'.toList.filter fun f => decide (f ∉ s) := by
  obtain ⟨l, e⟩ := h
  have hdisjoint : s.toList.Disjoint l := (List.nodup_append'.mp (e ▸ s'.nodup)).2.2
  have hold : (s.toList.filter fun f => decide (f ∉ s)) = [] :=
    List.filter_eq_nil_iff.mpr fun f hf => by simp [mem_def, hf]
  have hnew : (l.filter fun f => decide (f ∉ s)) = l :=
    List.filter_eq_self.mpr fun f hf => decide_eq_true fun hs => hdisjoint hs hf
  rw [← e, List.filter_append, hold, hnew, List.nil_append]

namespace Solver

variable {s : Solver} {sol : Solution}

/-- What the statistics say about an outcome. -/
structure Accounts (s : Solver) : Prop where
  /-- Deduction alone fails at the limit on facts, without a contradiction, or by one contradiction within the limit. -/
  failed : s.solve.stats.searched = false → s.solve.solution = none →
    (s.solve.stats.factLimitHit = true ∧ s.solve.stats.contradictions = 0) ∨
    (s.solve.stats.factLimitHit = false ∧ s.solve.stats.contradictions = 1)
  /-- A solution by deduction alone meets neither, tries nothing, and is the puzzle with the derived facts behind it. -/
  deduced : s.solve.stats.searched = false → ∀ sol, s.solve.solution = some sol →
    s.solve.stats.contradictions = 0 ∧ s.solve.stats.factLimitHit = false ∧
    s.solve.stats.searchBranches = 0 ∧ s.solve.stats.leavesEvaluated = 0 ∧
    sol.facts.toList = s.kb.facts.toList ++ sol.derivedFrom s.kb ∧
    (sol.derivedFrom s.kb).length = s.solve.stats.derivedFacts
  /-- A search begins where the ground facts are free of conflicts and some fact is not ground. -/
  searched : s.solve.stats.searched = true →
    (∀ f ∈ s.deduced.1.facts, ∀ g ∈ s.deduced.1.facts, f.isGround = true → g.isGround = true →
      ¬s.table.Forbids f g) ∧
    ∃ f ∈ s.deduced.1.facts, f.isGround = false
  /-- Only a search is cut down. -/
  truncated : s.solve.stats.searchTruncated = true → s.solve.stats.searched = true
  /-- The passes that led to a solution are among the passes that were run. -/
  steps : ∀ sol, s.solve.solution = some sol → sol.inferenceSteps ≤ s.solve.stats.passes

/-- The facts that deduction ends with are those of the puzzle and, behind them, as many others as it counted. -/
theorem derivedFrom_deduced (s : Solver) (steps : Nat) :
    s.deduced.1.facts.toList = s.kb.facts.toList ++ (Solution.mk s.deduced.1.facts steps).derivedFrom s.kb ∧
    ((Solution.mk s.deduced.1.facts steps).derivedFrom s.kb).length = s.deduced.2.derived := by
  have heq : s.deduced.1.facts.toList =
      s.kb.facts.toList ++ (Solution.mk s.deduced.1.facts steps).derivedFrom s.kb :=
    FactSet.toList_eq_append_filter s.run_deduced.prefix_facts
  have hsize : s.deduced.1.facts.toList.length = s.kb.facts.toList.length + s.deduced.2.derived :=
    s.run_deduced.size_eq_add
  refine ⟨heq, ?_⟩
  rw [heq, List.length_append] at hsize
  exact Nat.add_left_cancel hsize

/-- A search runs the passes that led to its leaf, besides those of the rejected leaves. -/
theorem inferenceSteps_searchFrom_le {kb : KnowledgeBase} {steps : Nat} {met : Tally} (hle : steps ≤ met.passes)
    (h : (s.searchFrom kb steps met).solution = some sol) :
    sol.inferenceSteps ≤ (s.searchFrom kb steps met).stats.passes := by
  obtain ⟨l, hleaf, rfl⟩ := Option.map_eq_some_iff.mp h
  obtain ⟨values, -, -, rfl, before, ht⟩ := exists_tuple_of_search hleaf
  have hrun := (run_saturate s.config.maxSteps
    (kb.assignAll (SearchSpace.discover kb s.config).freeVariables values)).productivePasses_le
  show steps + _ ≤ met.passes + (search _ _ _ _).tally.passes
  rw [ht]
  show steps + (saturate _ _).2.productivePasses ≤ met.passes + (before.passes + (saturate _ _).2.passes)
  omega

/-- Where deduction alone fails, only the flag and the counter are left to tell. -/
theorem Accounts.of_failed (hnone : s.solve.solution = none) (hs : s.solve.stats.searched = false)
    (ht : s.solve.stats.searchTruncated = false)
    (hwhy : (s.solve.stats.factLimitHit = true ∧ s.solve.stats.contradictions = 0) ∨
      (s.solve.stats.factLimitHit = false ∧ s.solve.stats.contradictions = 1)) : s.Accounts where
  failed _ _ := hwhy
  deduced _ sol h := by simp [hnone] at h
  searched h := by simp [hs] at h
  truncated h := by simp [ht] at h
  steps sol h := by simp [hnone] at h

/-- **The statistics tell the outcomes apart**, at each of the four exits. -/
theorem accounts (s : Solver) : s.Accounts := by
  have hsteps : s.deduced.2.productivePasses ≤ s.deduced.2.passes := s.run_deduced.productivePasses_le
  rcases s.solve_cases with ⟨hl, e⟩ | ⟨hl, -, e⟩ | ⟨hl, -, -, e⟩ | ⟨-, hc, hi, e⟩
  · -- the limit was exceeded
    refine .of_failed ?_ ?_ ?_ (Or.inl ?_) <;> rw [e]
    · rfl
    · rfl
    · exact ⟨hl, rfl⟩
  · -- the facts conflict
    refine .of_failed ?_ ?_ ?_ (Or.inr ?_) <;> rw [e]
    · rfl
    · rfl
    · refine ⟨?_, rfl⟩
      show (s.deduced.2.limitExceeded || false) = false
      rw [hl, Bool.or_false]
  · -- deduction solved the puzzle
    have hsolution : s.solve.solution = some ⟨s.deduced.1.facts, s.deduced.2.productivePasses⟩ := by rw [e]
    constructor
    case failed => simp [hsolution]
    case deduced =>
      intro _ sol h
      cases hsolution.symm.trans h
      rw [e]
      exact ⟨rfl, hl, rfl, rfl, s.derivedFrom_deduced _⟩
    case searched =>
      intro h
      rw [e] at h
      cases h
    case truncated =>
      intro h
      rw [e] at h
      cases h
    case steps =>
      intro sol h
      cases hsolution.symm.trans h
      rw [e]
      exact hsteps
  · -- a search follows
    have hsearched : s.solve.stats.searched = true := by rw [e]; rfl
    constructor
    case failed => simp [hsearched]
    case deduced => simp [hsearched]
    case searched =>
      have hnot := mt isComplete_iff.mpr (Bool.eq_false_iff.mp hi)
      exact fun _ => ⟨conflict_eq_none_iff.mp hc, by simpa using hnot⟩
    case truncated => exact fun _ => hsearched
    case steps =>
      intro sol h
      rw [e] at h ⊢
      exact inferenceSteps_searchFrom_le hsteps h

end Solver

/-- A fact where none is allowed. -/
def crowded : Solver where
  kb := .ofContents [⟨"r", [.const "z"]⟩] []
  config := { SolverConfig.standard with maxFacts := 0 }

/-- One person of two nationalities, in an unknown house. -/
def contradictory : Solver where
  kb := .ofContents [⟨"es", [.const "juan", .const "ingles"]⟩, ⟨"es", [.const "juan", .const "frances"]⟩,
    ⟨"vive_en", [.const "juan", .var "H"]⟩] []
  config := .standard

theorem outcome_crowded : crowded.solve = ⟨none, { passes := 1, factLimitHit := true }⟩ := by decide +kernel

theorem outcome_contradictory : contradictory.solve = ⟨none, { passes := 1, contradictions := 1 }⟩ := by decide +kernel

theorem outcome_redHouse : redHouse.solve = ⟨some ⟨redHouseModel.facts, 1⟩, { passes := 2, derivedFacts := 1 }⟩ := by
  rw [Solver.solve_eq, deduced_redHouse]
  rfl

/-- One solver for each exit: at the limit on facts, by a contradiction, by deduction alone, and after a search. -/
theorem accounts_exits :
    (crowded.solve.stats.searched = false ∧ crowded.solve.solution = none ∧
      crowded.solve.stats.factLimitHit = true ∧ crowded.solve.stats.contradictions = 0) ∧
    (contradictory.solve.stats.searched = false ∧ contradictory.solve.solution = none ∧
      contradictory.solve.stats.factLimitHit = false ∧ contradictory.solve.stats.contradictions = 1) ∧
    (redHouse.solve.stats.searched = false ∧ redHouse.solve.solution = some ⟨redHouseModel.facts, 1⟩ ∧
      redHouseModel.facts.toList =
        redHouse.kb.facts.toList ++ (Solution.mk redHouseModel.facts 1).derivedFrom redHouse.kb ∧
      ((Solution.mk redHouseModel.facts 1).derivedFrom redHouse.kb).length = 1) ∧
    undecided.solve.stats.searched = true ∧ (∃ f ∈ undecided.deduced.1.facts, f.isGround = false) ∧
      undecided.solve.solution = some ⟨undecidedLeaf.facts, 1⟩ ∧ 1 ≤ undecided.solve.stats.passes := by
  refine ⟨?_, ?_, ?_, ?_⟩
  · have hs : crowded.solve.stats.searched = false := by rw [outcome_crowded]
    have hn : crowded.solve.solution = none := by rw [outcome_crowded]
    have hlimit : crowded.solve.stats.factLimitHit = true := by rw [outcome_crowded]
    refine ⟨hs, hn, (crowded.accounts.failed hs hn).resolve_right fun h => ?_⟩
    exact Bool.noConfusion (hlimit.symm.trans h.1)
  · have hs : contradictory.solve.stats.searched = false := by rw [outcome_contradictory]
    have hn : contradictory.solve.solution = none := by rw [outcome_contradictory]
    have hlimit : contradictory.solve.stats.factLimitHit = false := by rw [outcome_contradictory]
    refine ⟨hs, hn, (contradictory.accounts.failed hs hn).resolve_left fun h => ?_⟩
    exact Bool.noConfusion (h.1.symm.trans hlimit)
  · have hs : redHouse.solve.stats.searched = false := by rw [outcome_redHouse]
    have hsol : redHouse.solve.solution = some ⟨redHouseModel.facts, 1⟩ := by rw [outcome_redHouse]
    have hderived : redHouse.solve.stats.derivedFacts = 1 := by rw [outcome_redHouse]
    obtain ⟨-, -, -, -, hfacts, hlength⟩ := redHouse.accounts.deduced hs _ hsol
    exact ⟨hs, hsol, hfacts, hlength.trans hderived⟩
  · have hs : undecided.solve.stats.searched = true := by rw [outcome_undecided]
    exact ⟨hs, (undecided.accounts.searched hs).2, solve_undecided.1, undecided.accounts.steps _ solve_undecided.1⟩

end LogicGrid
