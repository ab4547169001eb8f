import LogicGrid.Proofs.Consistency
import LogicGrid.Proofs.Passes
import LogicGrid.Solver

/-!
# The exits of the solver

Deduction leads to `s.deduced`. Then `solve` has four exits: the limit was exceeded, the facts conflict, the facts are
complete, or a search follows. Laws on `solve` go through `solve_cases` and never unfold it.
-/

namespace LogicGrid

/-- No two ground facts are forbidden together. -/
theorem KnowledgeBase.conflict_eq_none_iff {kb : KnowledgeBase} {t : ConstraintTable} : kb.conflict t = none ↔
    ∀ f ∈ kb.facts, ∀ g ∈ kb.facts, f.isGround = true → g.isGround = true → ¬t.Forbids f g :=
  ConstraintTable.findConflict_eq_none_iff

theorem KnowledgeBase.isComplete_iff {kb : KnowledgeBase} :
    kb.isComplete = true ↔ ∀ f ∈ kb.facts, f.isGround = true := List.all_eq_true

theorem Tally.add_assoc (a b c : Tally) : a + b + c = a + (b + c) := by
  show add (add a b) c = add a (add b c)
  simp only [add, Nat.add_assoc, Bool.or_assoc]

theorem Tally.zero_add (t : Tally) : {} + t = t := by
  show add {} t = t
  simp only [add, Nat.zero_add, Bool.false_or]

/-- Running out of passes anywhere is remembered. -/
@[simp] theorem Tally.stepLimitHit_add (a b : Tally) : (a + b).stepLimitHit = (a.stepLimitHit || b.stepLimitHit) := rfl

@[simp] theorem SolveStats.stepLimitHit_ofTally (t : Tally) : (ofTally t).stepLimitHit = t.stepLimitHit := rfl

@[simp] theorem Tally.stepLimitHit_ofSaturation (s : Saturation) : (ofSaturation s).stepLimitHit = s.outOfSteps := rfl

namespace Solver

/-- The knowledge base after the first deduction, and its record. -/
def deduced (s : Solver) : KnowledgeBase × Saturation := s.start.saturate s.config.maxSteps

theorem run_deduced (s : Solver) : KnowledgeBase.Run s.config.maxSteps s.start s.deduced.1 s.deduced.2 :=
  KnowledgeBase.run_saturate _ _

theorem solve_eq (s : Solver) : s.solve =
    if s.deduced.2.limitExceeded then ⟨none, .ofTally (.ofSaturation s.deduced.2)⟩
    else if (s.deduced.1.conflict s.table).isSome then
      ⟨none, .ofTally (.ofSaturation s.deduced.2 + { contradictions := 1 })⟩
    else if s.deduced.1.isComplete then
      ⟨some ⟨s.deduced.1.facts, s.deduced.2.productivePasses⟩, .ofTally (.ofSaturation s.deduced.2)⟩
    else s.searchFrom s.deduced.1 s.deduced.2.productivePasses (.ofSaturation s.deduced.2) := rfl

/-- **The four exits.** -/
theorem solve_cases (s : Solver) :
    (s.deduced.2.limitExceeded = true ∧ s.solve = ⟨none, .ofTally (.ofSaturation s.deduced.2)⟩) ∨
    (s.deduced.2.limitExceeded = false ∧ s.deduced.1.conflict s.table ≠ none ∧
      s.solve = ⟨none, .ofTally (.ofSaturation s.deduced.2 + { contradictions := 1 })⟩) ∨
    (s.deduced.2.limitExceeded = false ∧ s.deduced.1.conflict s.table = none ∧ s.deduced.1.isComplete = true ∧
      s.solve = ⟨some ⟨s.deduced.1.facts, s.deduced.2.productivePasses⟩, .ofTally (.ofSaturation s.deduced.2)⟩) ∨
    (s.deduced.2.limitExceeded = false ∧ s.deduced.1.conflict s.table = none ∧ s.deduced.1.isComplete = false ∧
      s.solve = s.searchFrom s.deduced.1 s.deduced.2.productivePasses (.ofSaturation s.deduced.2)) := by
  rw [solve_eq]
  cases hl : s.deduced.2.limitExceeded with
  | true => exact Or.inl ⟨rfl, rfl⟩
  | false =>
    cases hc : s.deduced.1.conflict s.table with
    | some c => exact Or.inr (Or.inl ⟨rfl, nofun, rfl⟩)
    | none =>
      cases hi : s.deduced.1.isComplete with
      | true => exact Or.inr (Or.inr (Or.inl ⟨rfl, rfl, rfl, rfl⟩))
      | false => exact Or.inr (Or.inr (Or.inr ⟨rfl, rfl, rfl, rfl⟩))

end Solver

/-- A run that neither exceeds the limit nor runs out of passes reaches a fixpoint. -/
theorem Saturation.fixpoint_of_outOfSteps {s : Saturation} (h : s.outOfSteps = false) (hl : s.limitExceeded = false) :
    s.fixpoint = true := by
  simpa [outOfSteps, hl] using h

end LogicGrid
