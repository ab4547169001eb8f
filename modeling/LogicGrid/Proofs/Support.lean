import LogicGrid.Proofs.Choices
import LogicGrid.Proofs.LeastModel
import LogicGrid.Proofs.Solved

/-!
# What the facts of a solution rest on

Deduction also runs while facts hold variables, and then every application of a rule may give them values of its own.
A match stands for a choice of one fact for each antecedent: it is satisfied by the assignments that make each
antecedent one with its fact (`Rule.exists_choice`). A rule *joins* facts to `g` when there is such an assignment, and all
of them make the consequent `g`; acyclic matches join (`joins_of_mem_apply`).

The search gives each variable one value, but it keeps what was derived before.

* `not_supported_undecided` – so a solution need not follow from one instance of the puzzle;
* `support_of_solve` – it follows from one instance of the puzzle and the facts that the first deduction derived, and
  those are joined from the facts of the puzzle.
-/

namespace LogicGrid

open KnowledgeBase Unification

/-! ## Matches over facts with variables -/

/-- Facts of the set are chosen for the antecedents. Some ground assignment makes each antecedent one with its fact, and
every assignment that does makes the consequent `g`. -/
def Rule.Joins (r : Rule) (S : Set Fact) (g : Fact) : Prop :=
  ∃ fs : List Fact, (∀ f ∈ fs, f ∈ S) ∧
    (∃ τ, (∀ x, (τ x).isGround = true) ∧ r.antecedents.map (Fact.subst · τ) = fs.map (Fact.subst · τ)) ∧
    ∀ τ, r.antecedents.map (Fact.subst · τ) = fs.map (Fact.subst · τ) → r.consequent.subst τ = g

theorem Rule.Joins.mono {r : Rule} {S T : Set Fact} {g : Fact} (h : r.Joins S g) (hST : S ⊆ T) : r.Joins T g := by
  obtain ⟨fs, hS, hfs⟩ := h
  exact ⟨fs, fun f hf => hST (hS f hf), hfs⟩

theorem Fact.subst_apply {σ : Substitution} {τ : String → Term} (h : Satisfies τ σ.bindings) (f : Fact) :
    (f.apply σ).subst τ = f.subst τ := by
  rw [apply_eq_subst, subst_subst]
  exact subst_congr fun x _ => Substitution.subst_resolve h σ.size x

/-- What an acyclic match yields is joined. -/
theorem Rule.joins_of_mem_apply {r : Rule} {facts : List Fact} {g : Fact}
    (ha : ∀ σ ∈ r.matchesIn facts, σ.Acyclic) (hg : g ∈ r.apply facts) : r.Joins {f | f ∈ facts} g := by
  obtain ⟨hg, hground⟩ := List.mem_filter.mp hg
  obtain ⟨σ, hσ, rfl⟩ := List.mem_map.mp hg
  obtain ⟨fs, hfs, hsat⟩ := exists_choice hσ
  obtain ⟨τ, hτ, hs⟩ := (ha σ hσ).exists_satisfies
  refine ⟨fs, hfs, ⟨τ, hτ, (hsat τ).mp hs⟩, fun τ' h => ?_⟩
  rw [← Fact.subst_apply ((hsat τ').mpr h), Fact.subst_of_isGround hground]

/-! ## The first deduction -/

/-- What the rules join from a set of facts. -/
def joinOf (rules : List Rule) (S : Set Fact) : Set Fact := {g | ∃ r ∈ rules, r.Joins S g}

theorem monotone_joinOf (rules : List Rule) : Monotone (joinOf rules) := fun _ _ hST _ h =>
  h.imp fun _ e => ⟨e.1, e.2.mono hST⟩

namespace KnowledgeBase

variable {kb kb' : KnowledgeBase} {n : Nat} {s : Saturation}

/-- No match that a pass applies binds a variable through a cycle. -/
def AcyclicMatches (kb : KnowledgeBase) : Prop := ∀ r ∈ kb.rules, ∀ σ ∈ r.matchesIn kb.facts.toList, σ.Acyclic

/-- Bindings of ground terms have no cycle. -/
theorem AcyclicMatches.of_hasGroundValues (h : (kb.rules.all fun r =>
    (nestedMatches kb.facts.toList .empty r.antecedents).all Substitution.hasGroundValues) = true) :
    kb.AcyclicMatches := by
  intro r hr σ hσ
  rw [Rule.matchesIn_eq] at hσ
  exact Substitution.acyclic_of_hasGroundValues (List.all_eq_true.mp (List.all_eq_true.mp h r hr) σ hσ)

theorem toSet_next_subset (ha : kb.AcyclicMatches) :
    kb.next.facts.toSet ⊆ closureUnder (joinOf kb.rules) kb.facts.toSet := by
  intro f hf
  rcases mem_next_iff.mp hf with hf | ⟨r, hr, hf⟩
  · exact subset_closureUnder _ _ hf
  · have hj : r.Joins kb.facts.toSet f := Rule.joins_of_mem_apply (ha r hr) hf
    exact map_closureUnder_subset (monotone_joinOf _) ⟨r, hr, hj.mono (subset_closureUnder _ _)⟩

/-- A run over acyclic matches derives what is joined from the facts of its start. -/
theorem Run.toSet_subset_closure (h : Run n kb kb' s) (ha : ∀ k < s.passes, (next^[k] kb).AcyclicMatches) :
    kb'.facts.toSet ⊆ closureUnder (joinOf kb.rules) kb.facts.toSet := by
  induction h with
  | stop => exact subset_closureUnder _ _
  | exceed => exact toSet_next_subset (ha 0 (Nat.succ_pos _))
  | fixed => exact subset_closureUnder _ _
  | @more n kb kb' s _ _ _ ih =>
    have hstart := toSet_next_subset (ha 0 (Nat.succ_pos _))
    have hrest : kb'.facts.toSet ⊆ closureUnder (joinOf kb.rules) kb.next.facts.toSet :=
      ih fun k hk => ha (k + 1) (Nat.succ_lt_succ hk)
    exact hrest.trans (closureUnder_subset hstart (map_closureUnder_subset (monotone_joinOf _)))

end KnowledgeBase

namespace Solver

variable {s : Solver} {sol : Solution}

/-- No pass of the first deduction applies a cyclic match. -/
def AcyclicPasses (s : Solver) : Prop := ∀ k < s.deduced.2.passes, (next^[k] s.start).AcyclicMatches

theorem acyclicPasses_of_two {base : KnowledgeBase} {p : Pass} (hp : s.deduced.2.passes = 2)
    (e : s.start.forwardChain = (base, p)) (h₀ : s.start.AcyclicMatches) (h₁ : base.AcyclicMatches) :
    s.AcyclicPasses := by
  intro k hk
  rw [hp] at hk
  match k with
  | 0 => exact h₀
  | 1 =>
    have hnext : next^[1] s.start = base := congrArg Prod.fst e
    rwa [hnext]

/-- The facts of the puzzle under one choice of terms for all variables. -/
def instances (s : Solver) (θ : String → Term) : Set Fact := {g | ∃ f ∈ s.kb.facts, f.subst θ = g}

/-- What the first deduction added to the facts of the puzzle. -/
def derived (s : Solver) : Set Fact := {g | g ∈ s.deduced.1.facts ∧ g ∉ s.kb.facts}

theorem derived_subset_closure (ha : s.AcyclicPasses) :
    s.derived ⊆ closureUnder (joinOf s.kb.rules) s.kb.facts.toSet := fun _ hg =>
  s.run_deduced.toSet_subset_closure ha hg.1

/-- The facts where a solution starts are an instance of the puzzle and what was derived, so the solution follows from
these. -/
theorem Ends.exists_support {base : KnowledgeBase} {vs : List FreeVariable} {values : List Term}
    (h : s.Ends sol base vs values) (hr : base.rules = s.kb.rules)
    (hb : ∀ f ∈ base.facts, f ∈ s.kb.facts ∨ f.isGround = true ∧ f ∈ s.derived) : ∃ θ : String → String,
      sol.facts.toSet ⊆ closureUnder (yieldOf s.kb.rules) (s.instances (fun x => .const (θ x)) ∪ s.derived) := by
  have hrun := run_saturate s.config.maxSteps (base.assignAll vs values)
  have hg : ∀ f ∈ (base.assignAll vs values).facts, f.isGround = true := fun f hf =>
    h.solved.complete f (hrun.prefix_facts.subset hf)
  obtain ⟨θ, hθ⟩ := exists_constants h.constants h.tuple hg
  refine ⟨θ, ?_⟩
  have hmodel : sol.facts.toSet ⊆ (base.assignAll vs values).leastModel := by
    rw [h.facts_eq]
    exact toSet_subset_leastModel hrun hg
  rw [leastModel, rules_assignAll, hr] at hmodel
  refine hmodel.trans (closureUnder_subset (fun g hm => subset_closureUnder _ _ ?_)
    (map_closureUnder_subset (monotone_yieldOf _)))
  obtain ⟨f, hf, rfl⟩ := (mem_assignAll_iff h.constants h.tuple).mp hm
  rw [← hθ f hf]
  rcases hb f hf with hin | ⟨hground, hder⟩
  · exact Or.inl ⟨f, hin, rfl⟩
  · exact Or.inr ((Fact.subst_of_isGround hground).symm ▸ hder)

end Solver

/-! ## One instance of the puzzle is not enough -/

/-- The consequents of all ground instances of the rules whose antecedents are in the set. Any ground term may stand for
a variable, also for one of the consequent alone. -/
def instancesOf (rules : List Rule) (S : Set Fact) : Set Fact :=
  {g | ∃ r ∈ rules, ∃ τ : String → Term, (∀ x, (τ x).isGround = true) ∧ (∀ a ∈ r.antecedents, a.subst τ ∈ S) ∧
    r.consequent.subst τ = g}

theorem acyclicPasses_undecided : undecided.AcyclicPasses :=
  Solver.acyclicPasses_of_two (by rw [deduced_undecided]) forwardChain_undecided (.of_hasGroundValues (by cbv))
    (.of_hasGroundValues (by cbv))

theorem mem_facts_undecided {f : Fact} :
    f ∈ undecided.kb.facts ↔ f = ⟨"r", [.const "z"]⟩ ∨ f = ⟨"p", [.var "X"]⟩ := by
  have h : undecided.kb.facts.toList = [⟨"r", [.const "z"]⟩, ⟨"p", [.var "X"]⟩] := rfl
  simp [FactSet.mem_def, h]

/-- Deduction derives `q(a)` from `p(X)` under `a`, and the search goes on with `p(z)`. No instance of the puzzle
entails both facts. -/
theorem not_supported_undecided : undecided.AcyclicPasses ∧ ∃ sol, undecided.solve.solution = some sol ∧
    ¬∃ θ : String → Term, (∀ x, (θ x).isGround = true) ∧
      sol.facts.toSet ⊆ closureUnder (instancesOf undecided.kb.rules) (undecided.instances θ) := by
  refine ⟨acyclicPasses_undecided, _, solve_undecided.1, fun ⟨θ, _, hsub⟩ => ?_⟩
  have hqa : (⟨"q", [.const "a"]⟩ : Fact) ∈ undecidedLeaf.facts := by decide
  have hpz : (⟨"p", [.const "z"]⟩ : Fact) ∈ undecidedLeaf.facts := by decide
  by_cases hX : θ "X" = .const "a"
  · -- then `p(z)` is no fact of the instance, and no rule yields it
    have hclosed : closureUnder (instancesOf undecided.kb.rules) (undecided.instances θ) ⊆
        {g | g ≠ ⟨"p", [.const "z"]⟩} := by
      refine closureUnder_subset ?_ ?_
      · rintro g ⟨f, hf, rfl⟩
        rcases mem_facts_undecided.mp hf with rfl | rfl <;> simp [Fact.subst, hX]
      · rintro g ⟨r, hr, τ, -, -, rfl⟩
        cases List.mem_singleton.mp hr
        simp [Fact.subst]
    exact hclosed (hsub hpz) rfl
  · -- then `p(a)` is no fact of the instance, so the rule is never applied
    have hclosed : closureUnder (instancesOf undecided.kb.rules) (undecided.instances θ) ⊆
        {g | g ≠ ⟨"q", [.const "a"]⟩ ∧ g ≠ ⟨"p", [.const "a"]⟩} := by
      refine closureUnder_subset ?_ ?_
      · rintro g ⟨f, hf, rfl⟩
        rcases mem_facts_undecided.mp hf with rfl | rfl <;> simp [Fact.subst, hX]
      · rintro g ⟨r, hr, τ, -, ha, rfl⟩
        cases List.mem_singleton.mp hr
        exact absurd (by simp [Fact.subst]) (ha _ List.mem_cons_self).2
    exact (hclosed (hsub hqa)).1 rfl

/-! ## What is enough -/

/-- **What a solution rests on.** Under one choice of constants for the variables, the facts of the puzzle and what
the first deduction derived entail every fact of the solution. What the first deduction derived is joined from the
facts of the puzzle, where each application of a rule may give their variables values of its own. -/
theorem support_of_solve {s : Solver} {sol : Solution} (ha : s.AcyclicPasses) (h : s.solve.solution = some sol) :
    (∃ θ : String → String,
      sol.facts.toSet ⊆ closureUnder (yieldOf s.kb.rules) (s.instances (fun x => .const (θ x)) ∪ s.derived)) ∧
    s.derived ⊆ closureUnder (joinOf s.kb.rules) s.kb.facts.toSet := by
  refine ⟨?_, Solver.derived_subset_closure ha⟩
  rcases Solver.solution_cases h with he | ⟨_, vs, values, he⟩
  · exact he.exists_support rfl fun f hf => Or.inl hf
  · have hrun := s.run_deduced
    refine he.exists_support hrun.rules_eq fun f hf => ?_
    by_cases hin : f ∈ s.kb.facts
    · exact Or.inl hin
    · exact Or.inr ⟨(hrun.isGround_or_mem hf).resolve_right hin, hf, hin⟩

theorem support_undecided : undecided.AcyclicPasses ∧ undecided.solve.solution = some ⟨undecidedLeaf.facts, 1⟩ ∧
    (∃ θ : String → String, undecidedLeaf.facts.toSet ⊆
      closureUnder (yieldOf undecided.kb.rules) (undecided.instances (fun x => .const (θ x)) ∪ undecided.derived)) ∧
    undecided.derived ⊆ closureUnder (joinOf undecided.kb.rules) undecided.kb.facts.toSet :=
  ⟨acyclicPasses_undecided, solve_undecided.1, support_of_solve acyclicPasses_undecided solve_undecided.1⟩

end LogicGrid
