import LogicGrid.Proofs.Pruning
import Mathlib

/-!
# What a solution promises

A solution is where deduction ended, either at once or at the leaf of one tuple of constants. A tuple acts on facts as a
valuation of the free variables (`mem_assignAll_iff`), and the tally of a search covers the leaf that it took
(`exists_tuple_of_search`). So the promises hold at both exits (`solution_cases`):

* `solves_of_solve` – a solution is ground, consistent and within the limit, it holds an instance of the puzzle, and
  it is closed under the rules unless passes ran out.
-/

namespace LogicGrid

open KnowledgeBase

/-! ## Tuples as valuations -/

/-- The value that a tuple gives a variable; the first of two variables with one name counts. -/
def valuation : List FreeVariable → List Term → String → Term
  | v :: vs, value :: values, x => if x = v.name then value else valuation vs values x
  | _, _, x => .var x

/-- Every candidate is a constant. -/
def ConstantDomains (vs : List FreeVariable) : Prop := ∀ v ∈ vs, ∀ t ∈ v.domain, ∃ c, t = .const c

theorem constantDomains_unbounded (kb : KnowledgeBase) (c : SolverConfig) :
    ConstantDomains (SearchSpace.unbounded kb c) := by
  intro v hv t ht
  obtain ⟨x, -, rfl⟩ := List.mem_map.mp (List.mem_filter.mp hv).1
  obtain ⟨a, -, rfl⟩ := List.mem_map.mp ht
  exact ⟨a, rfl⟩

/-- Cutting a space down keeps names and leaves only candidates. -/
theorem SearchSpace.exists_mem_of_mem_bounded {limits : SearchLimits} {vs : List FreeVariable} {v : FreeVariable}
    (h : v ∈ (bounded limits vs).freeVariables) : ∃ w ∈ vs, w.name = v.name ∧ v.domain ⊆ w.domain := by
  unfold bounded at h
  split at h
  · obtain ⟨w, hw, rfl⟩ := List.mem_map.mp h
    exact ⟨w, List.mem_of_mem_take hw, rfl, List.take_subset _ _⟩
  · exact ⟨v, h, rfl, List.Subset.refl _⟩

theorem constantDomains_bounded {limits : SearchLimits} {vs : List FreeVariable} (h : ConstantDomains vs) :
    ConstantDomains (SearchSpace.bounded limits vs).freeVariables := by
  intro v hv t ht
  obtain ⟨w, hw, -, hsub⟩ := SearchSpace.exists_mem_of_mem_bounded hv
  exact h w hw t (hsub ht)

theorem constantDomains_discover (kb : KnowledgeBase) (c : SolverConfig) :
    ConstantDomains (SearchSpace.discover kb c).freeVariables := constantDomains_bounded (constantDomains_unbounded kb c)

section Valuation

variable {kb : KnowledgeBase} {f g : Fact} {x : String} {vs : List FreeVariable} {values : List Term}

theorem valuation_eq_const_or (hd : ConstantDomains vs) (hv : values ∈ tuples vs) (x : String) :
    (∃ c, valuation vs values x = .const c) ∨ valuation vs values x = .var x := by
  rw [mem_tuples_iff] at hv
  induction hv with
  | nil => exact Or.inr rfl
  | @cons v value vs values hmem _ ih =>
    rw [valuation]
    split
    · exact Or.inl (hd v List.mem_cons_self value hmem)
    · exact ih fun w hw => hd w (List.mem_cons_of_mem _ hw)

theorem Fact.subst_replace_const (f : Fact) (x c : String) (ρ : String → Term) :
    (f.replace x (.const c)).subst ρ = f.subst fun y => if y = x then .const c else ρ y := by
  rw [replace_eq_subst, subst_subst]
  refine subst_congr fun y _ => ?_
  by_cases hy : y = x <;> simp [hy]

/-- Assigning a tuple replaces all variables at once. -/
theorem mem_assignAll_iff (hd : ConstantDomains vs) (hv : values ∈ tuples vs) :
    f ∈ (kb.assignAll vs values).facts ↔ ∃ g ∈ kb.facts, g.subst (valuation vs values) = f := by
  rw [mem_tuples_iff] at hv
  induction hv generalizing kb with
  | nil =>
    show f ∈ kb.facts ↔ ∃ g ∈ kb.facts, g.subst .var = f
    simp only [Fact.subst_var_id, exists_eq_right]
  | @cons v value vs values hmem _ ih =>
    obtain ⟨c, rfl⟩ := hd v List.mem_cons_self value hmem
    rw [assignAll, ih fun w hw => hd w (List.mem_cons_of_mem _ hw)]
    simp only [mem_assign_iff (v := .const c) (x := v.name) (by simp), exists_exists_and_eq_and,
      Fact.subst_replace_const, valuation]

@[simp] theorem rules_assignAll : ∀ (vs : List FreeVariable) (values : List Term) (kb : KnowledgeBase),
    (kb.assignAll vs values).rules = kb.rules
  | [], _, _ => rfl
  | _ :: _, [], _ => rfl
  | _ :: vs, _ :: values, _ => (rules_assignAll vs values _).trans (rules_assign _ _ _)

@[simp] theorem maxFacts_assignAll : ∀ (vs : List FreeVariable) (values : List Term) (kb : KnowledgeBase),
    (kb.assignAll vs values).maxFacts = kb.maxFacts
  | [], _, _ => rfl
  | _ :: _, [], _ => rfl
  | _ :: vs, _ :: values, _ => (maxFacts_assignAll vs values _).trans (maxFacts_assign _ _ _)

/-- Where a tuple leaves no variable, it stands for constants. -/
theorem exists_constants (hd : ConstantDomains vs) (hv : values ∈ tuples vs)
    (hg : ∀ f ∈ (kb.assignAll vs values).facts, f.isGround = true) :
    ∃ θ : String → String, ∀ f ∈ kb.facts, f.subst (fun x => .const (θ x)) = f.subst (valuation vs values) := by
  have hconst : ∀ x, ∃ c, (∃ f ∈ kb.facts, x ∈ f.vars) → valuation vs values x = .const c := by
    intro x
    rcases valuation_eq_const_or hd hv x with ⟨c, hc⟩ | hvar
    · exact ⟨c, fun _ => hc⟩
    · refine ⟨"", fun ⟨f, hf, hx⟩ => ?_⟩
      have hgf := hg _ ((mem_assignAll_iff hd hv).mpr ⟨f, hf, rfl⟩)
      rw [Fact.isGround_iff, Fact.vars_subst, List.flatMap_eq_nil_iff] at hgf
      have hnil := hgf x hx
      rw [hvar] at hnil
      simp at hnil
  choose θ hθ using hconst
  exact ⟨θ, fun f hf => Fact.subst_congr fun x hx => (hθ x ⟨f, hf, hx⟩).symm⟩

end Valuation

/-! ## The leaf that a search takes -/

section Search

variable {t : ConstraintTable} {n : Nat} {kb : KnowledgeBase} {vs : List FreeVariable} {l : Leaf}

theorem exists_of_firstLeaf {α : Type _} {f : α → SearchResult} : ∀ {as : List α}, (firstLeaf f as).leaf = some l →
    ∃ a ∈ as, (f a).leaf = some l ∧ ∃ met, (firstLeaf f as).tally = met + (f a).tally
  | [], h => by cases h
  | a :: as, h => by
    rw [firstLeaf] at h ⊢
    split at h
    · next hs =>
      rw [if_pos hs]
      exact ⟨a, List.mem_cons_self, h, {}, (Tally.zero_add _).symm⟩
    · next hs =>
      rw [if_neg hs]
      obtain ⟨b, hb, hl, met, ht⟩ := exists_of_firstLeaf h
      refine ⟨b, List.mem_cons_of_mem _ hb, hl, (f a).tally + met, ?_⟩
      rw [SearchResult.after, ht, Tally.add_assoc]

/-- A leaf comes from one tuple, and deduction at the leaf is the last thing that the search meets. -/
theorem exists_tuple_of_search (h : (search t n vs kb).leaf = some l) : ∃ values ∈ tuples vs,
    (kb.assignAll vs values).Solved t n ∧ l = (kb.assignAll vs values).leaf n ∧
    ∃ met, (search t n vs kb).tally = met + .ofSaturation ((kb.assignAll vs values).saturate n).2 := by
  induction vs generalizing kb with
  | nil =>
    rw [search, leaf_evaluateLeaf] at h
    split at h
    · next hs =>
      cases h
      refine ⟨[], by simp [tuples], hs, rfl, { leaves := 1 }, ?_⟩
      obtain ⟨⟨hw, hc⟩, hf⟩ := solved_iff.mp hs
      show (search t n [] kb).tally = { leaves := 1 } + .ofSaturation (kb.saturate n).2
      rw [search, evaluateLeaf_eq]
      simp [hw, hc, hf]
    · cases h
  | cons v vs ih =>
    rw [search] at h ⊢
    obtain ⟨value, hmem, hl, before, ht⟩ := exists_of_firstLeaf h
    simp only [SearchResult.after] at hl ht
    split at hl
    · cases hl
    · next hc =>
      obtain ⟨values, hv, hs, e, met, htally⟩ := ih hl
      refine ⟨value :: values, ?_, hs, e, before + ({ branches := 1 } + met), ?_⟩
      · exact List.mem_flatMap.mpr ⟨value, hmem, List.mem_map_of_mem hv⟩
      · refine ht.trans ?_
        rw [if_neg hc, htally, Tally.add_assoc, Tally.add_assoc]
        rfl

end Search

/-! ## Both exits -/

namespace Solver

variable {s : Solver} {sol : Solution}

/-- The solution is where deduction led after the tuple `values` was assigned in `base`. -/
structure Ends (s : Solver) (sol : Solution) (base : KnowledgeBase) (vs : List FreeVariable) (values : List Term) :
    Prop where
  constants : ConstantDomains vs
  tuple : values ∈ tuples vs
  solved : (base.assignAll vs values).Solved s.table s.config.maxSteps
  facts_eq : sol.facts = ((base.assignAll vs values).saturate s.config.maxSteps).1.facts
  outOfSteps : ((base.assignAll vs values).saturate s.config.maxSteps).2.outOfSteps = true →
    s.solve.stats.stepLimitHit = true

/-- Either no variable was left, or a search assigned all that were. -/
theorem solution_cases (h : s.solve.solution = some sol) : s.Ends sol s.start [] [] ∨
    s.deduced.2.limitExceeded = false ∧ ∃ vs values, s.Ends sol s.deduced.1 vs values := by
  rcases s.solve_cases with ⟨_, e⟩ | ⟨_, _, e⟩ | ⟨hl, hc, hi, e⟩ | ⟨hl, _, _, e⟩
  · rw [e] at h
    cases h
  · rw [e] at h
    cases h
  · rw [e] at h
    cases h
    exact Or.inl ⟨nofun, by simp [tuples], solved_iff.mpr ⟨⟨hl, hi⟩, hc⟩, rfl, fun hout => by rw [e]; exact hout⟩
  · rw [e] at h
    obtain ⟨l, hleaf, rfl⟩ := Option.map_eq_some_iff.mp h
    obtain ⟨values, hv, hs, rfl, met, ht⟩ := exists_tuple_of_search hleaf
    refine Or.inr ⟨hl, _, values, constantDomains_discover _ _, hv, hs, rfl, fun hsteps => ?_⟩
    rw [e]
    simp [searchFrom, ht, hsteps]

/-- The promises of a solution. -/
structure Solves (s : Solver) (sol : Solution) : Prop where
  ground : ∀ f ∈ sol.facts, f.isGround = true
  distinct : sol.facts.toList.Nodup
  consistent : ∀ f ∈ sol.facts, ∀ g ∈ sol.facts, ¬s.table.Forbids f g
  /-- One choice of constants for the variables puts every fact of the puzzle in the solution. -/
  inst : ∃ θ : String → String, ∀ f ∈ s.kb.facts, f.subst (fun x => .const (θ x)) ∈ sol.facts
  within : sol.facts.size ≤ s.config.maxFacts

namespace Ends

variable {base : KnowledgeBase} {vs : List FreeVariable} {values : List Term}

theorem exists_theta (h : s.Ends sol base vs values) : ∃ θ : String → String,
    ∀ f ∈ base.facts, f.subst (fun x => .const (θ x)) ∈ (base.assignAll vs values).facts := by
  have hg : ∀ f ∈ (base.assignAll vs values).facts, f.isGround = true := fun f hf =>
    h.solved.complete f ((run_saturate _ _).prefix_facts.subset hf)
  obtain ⟨θ, hθ⟩ := exists_constants h.constants h.tuple hg
  refine ⟨θ, fun f hf => ?_⟩
  rw [hθ f hf]
  exact (mem_assignAll_iff h.constants h.tuple).mpr ⟨f, hf, rfl⟩

theorem solves (h : s.Ends sol base vs values) (hn : 0 < s.config.maxSteps) (hm : base.maxFacts = s.config.maxFacts)
    (hsub : ∀ f ∈ s.kb.facts, f ∈ base.facts) : s.Solves sol := by
  have hrun := run_saturate s.config.maxSteps (base.assignAll vs values)
  obtain ⟨θ, hθ⟩ := h.exists_theta
  refine ⟨?_, sol.facts.nodup, ?_, ⟨θ, fun f hf => ?_⟩, ?_⟩ <;> rw [h.facts_eq]
  · exact h.solved.complete
  · exact h.solved.consistent
  · exact hrun.prefix_facts.subset (hθ f (hsub f hf))
  · have hle := hrun.size_le h.solved.within hn
    rwa [maxFacts_assignAll, hm] at hle

/-- Where no passes ran out, the rules yield nothing new. -/
theorem closed (h : s.Ends sol base vs values) (hr : base.rules = s.kb.rules)
    (hsteps : s.solve.stats.stepLimitHit = false) (m : Nat) :
    (KnowledgeBase.mk sol.facts s.kb.rules m).forwardChain.2.derived = [] := by
  have hrun := run_saturate s.config.maxSteps (base.assignAll vs values)
  have hout := mt h.outOfSteps (by simp [hsteps])
  have hfix := Saturation.fixpoint_of_outOfSteps (by simpa using hout) h.solved.within
  have hclosed := next_eq_iff.mp (hrun.next_eq hfix)
  rw [hrun.rules_eq, rules_assignAll, hr, ← h.facts_eq] at hclosed
  exact derived_pass_eq_nil_iff.mpr (next_eq_iff.mpr hclosed)

end Ends

end Solver

/-- **A solution keeps its promises**, at both exits; and where no passes ran out, one more pass over its facts adds
nothing. -/
theorem solves_of_solve {s : Solver} {sol : Solution} (hn : 1 ≤ s.config.maxSteps) (h : s.solve.solution = some sol) :
    s.Solves sol ∧ (s.solve.stats.stepLimitHit = false →
      ∀ m, (KnowledgeBase.mk sol.facts s.kb.rules m).forwardChain.2.derived = []) := by
  rcases Solver.solution_cases h with he | ⟨_, vs, values, he⟩
  · exact ⟨he.solves hn rfl fun _ hf => hf, he.closed rfl⟩
  · have hrun := s.run_deduced
    exact ⟨he.solves hn hrun.maxFacts_eq fun _ hf => hrun.prefix_facts.subset hf, he.closed hrun.rules_eq⟩

/-- The facts `r(z)` and `p(X)` and the rule `p(a) -> q(a)`: deduction uses the value `a` of the variable, and the
search tries `z` first. -/
def undecided : Solver where
  kb := .ofContents [⟨"r", [.const "z"]⟩, ⟨"p", [.var "X"]⟩] [⟨[⟨"p", [.const "a"]⟩], ⟨"q", [.const "a"]⟩⟩]
  config := .standard

/-- Where deduction leads. -/
def undecidedBase : KnowledgeBase :=
  .ofContents [⟨"r", [.const "z"]⟩, ⟨"p", [.var "X"]⟩, ⟨"q", [.const "a"]⟩] undecided.kb.rules

/-- The leaf under `z`. -/
def undecidedLeaf : KnowledgeBase :=
  .ofContents [⟨"r", [.const "z"]⟩, ⟨"q", [.const "a"]⟩, ⟨"p", [.const "z"]⟩] undecided.kb.rules

theorem forwardChain_undecided :
    undecided.start.forwardChain = (undecidedBase, ⟨[⟨0, ⟨"q", [.const "a"]⟩⟩], false⟩) := by
  have h : undecided.start.consequences = [⟨0, ⟨"q", [.const "a"]⟩⟩] := by
    rw [consequences_eq]
    cbv
  rw [forwardChain, h]
  rfl

theorem deduced_undecided : undecided.deduced = (undecidedBase, ⟨2, 1, 1, true, false⟩) := by
  have h : undecidedBase.consequences = [⟨0, ⟨"q", [.const "a"]⟩⟩] := by
    rw [consequences_eq]
    cbv
  exact saturate_of_forwardChain forwardChain_undecided rfl rfl (by decide) (by rw [h]; decide)

theorem search_undecided : search undecided.table 10 [⟨"X", [.const "z", .const "a"]⟩] undecidedBase =
    ⟨some ⟨undecidedLeaf, 0⟩, { branches := 1, leaves := 1, passes := 1 }⟩ := by
  have h : undecidedLeaf.consequences = [] := by
    rw [consequences_eq]
    cbv
  have hsat : undecidedLeaf.saturate 10 = (undecidedLeaf, ⟨1, 0, 0, true, false⟩) :=
    saturate_of_closed (by decide) (by rw [h]; exact List.forall_mem_nil _)
  have hassign : undecidedBase.assign "X" (.const "z") = undecidedLeaf := by decide
  have hleaf : evaluateLeaf undecided.table 10 undecidedLeaf =
      ⟨some ⟨undecidedLeaf, 0⟩, { leaves := 1, passes := 1 }⟩ := by
    rw [evaluateLeaf_eq, KnowledgeBase.leaf, hsat]
    rfl
  simp only [search, firstLeaf, hassign, hleaf]
  rfl

theorem outcome_undecided :
    undecided.solve = ⟨some ⟨undecidedLeaf.facts, 1⟩, ⟨3, 1, true, 1, 1, 0, false, false, false⟩⟩ := by
  have hspace : SearchSpace.discover undecidedBase undecided.config = ⟨[⟨"X", [.const "z", .const "a"]⟩], false⟩ := by
    decide +kernel
  have hmax : undecided.config.maxSteps = 10 := rfl
  have hsolve : undecided.solve = undecided.searchFrom undecidedBase 1 (.ofSaturation ⟨2, 1, 1, true, false⟩) := by
    rw [Solver.solve_eq, deduced_undecided]
    rfl
  rw [hsolve, Solver.searchFrom, hspace, hmax]
  simp only [search_undecided]
  rfl

theorem solve_undecided : undecided.solve.solution = some ⟨undecidedLeaf.facts, 1⟩ ∧
    undecided.solve.stats.stepLimitHit = false := by
  rw [outcome_undecided]
  exact ⟨rfl, rfl⟩

theorem solves_undecided : 1 ≤ undecided.config.maxSteps ∧
    undecided.solve.solution = some ⟨undecidedLeaf.facts, 1⟩ ∧ undecided.Solves ⟨undecidedLeaf.facts, 1⟩ ∧
    undecidedLeaf.forwardChain.2.derived = [] := by
  obtain ⟨hsolves, hclosed⟩ := solves_of_solve (s := undecided) (by decide) solve_undecided.1
  exact ⟨by decide, solve_undecided.1, hsolves, hclosed solve_undecided.2 100⟩

end LogicGrid
