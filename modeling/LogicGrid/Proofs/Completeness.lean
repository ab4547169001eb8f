import LogicGrid.Proofs.Candidates
import LogicGrid.Proofs.LeastModel
import LogicGrid.Proofs.Support

/-!
# Which solutions can be lost

An instance of a puzzle gives every variable of its facts a value. It *concludes* when deduction from it reaches a
fixpoint without conflicts. Where the solver returns nothing, and no limit cut anything off, one might expect that no
instance over the candidates concludes. It is not so (`lost_of_solve_eq_none`): the first deduction also derives facts
under values that the instance does not have, these stay, and they may conflict with it. What holds is

* `not_concludes_of_solve_eq_none` – no instance concludes together with what the first deduction derived; so an
  instance that concludes alone lacks a derived fact.

Two runs are related here, one from the instance alone and one from the instance and the derived facts. The second
starts between the start and the end of the first, so it reaches the same fixpoint (`Concludes.of_between`). The search
in turn goes through all instances over its candidates (`not_solved_of_search`).
-/

namespace LogicGrid

open KnowledgeBase

/-! ## Runs that start between -/

namespace KnowledgeBase

variable {kb kb' other : KnowledgeBase} {n : Nat} {s : Saturation} {t : ConstraintTable}

/-- A first pass within the limit leads to a fixpoint if it adds nothing, or if the rest does. -/
theorem fixpoint_saturate_succ (hle : kb.next.facts.size ≤ kb.maxFacts)
    (h : kb.next = kb ∨ (kb.next.saturate n).2.fixpoint = true) : (kb.saturate (n + 1)).2.fixpoint = true := by
  by_cases e : kb.next = kb
  · simp [saturate_succ, limitExceeded_pass_of_le hle, changed_pass_of_eq e, Saturation.after]
  · simp [saturate_succ, limitExceeded_pass_of_le hle, changed_pass_iff.mpr e, Saturation.after, h.resolve_left e]

theorem toSet_next_subset_of_next_eq (hg : ∀ f ∈ kb'.facts, f.isGround = true) (h : kb'.next = kb')
    (hr : other.rules = kb'.rules) (hsub : other.facts.toSet ⊆ kb'.facts.toSet) :
    other.next.facts.toSet ⊆ kb'.facts.toSet :=
  calc other.next.facts.toSet = round other.rules other.facts.toSet := toSet_next fun f hf => hg f (hsub hf)
    _ ⊆ round kb'.rules kb'.facts.toSet := hr ▸ monotone_round _ hsub
    _ = kb'.next.facts.toSet := (toSet_next hg).symm
    _ = kb'.facts.toSet := by rw [h]

/-- A start between the start and the fixpoint of a run reaches a fixpoint as well, in no more passes. -/
theorem Run.fixpoint_of_between (h : Run n kb kb' s) (hs : s.fixpoint = true)
    (hg : ∀ f ∈ kb'.facts, f.isGround = true) (hr : other.rules = kb.rules) (hm : other.maxFacts = kb.maxFacts)
    (hsub : kb.facts.toSet ⊆ other.facts.toSet) (hsup : other.facts.toSet ⊆ kb'.facts.toSet) :
    (other.saturate n).2.fixpoint = true := by
  -- what is below the end stays below it, and is within the limit
  have hnext : ∀ {o : KnowledgeBase}, o.rules = kb.rules → o.facts.toSet ⊆ kb'.facts.toSet →
      o.next.facts.toSet ⊆ kb'.facts.toSet := fun ho =>
    toSet_next_subset_of_next_eq hg (h.next_eq hs) (ho.trans h.rules_eq.symm)
  have hle : ∀ {o : KnowledgeBase}, o.facts.toSet ⊆ kb'.facts.toSet → o.facts.size ≤ kb.maxFacts := fun ho =>
    (FactSet.size_le_of_subset ho).trans (h.size_le_of_fixpoint hs)
  induction h generalizing other with
  | stop => cases hs
  | exceed => cases hs
  | fixed _ e =>
    have hn := hnext hr hsup
    refine fixpoint_saturate_succ (hm ▸ hle hn) (Or.inl (next_eq_iff.mpr fun r hrm f hf => hsub (hn ?_)))
    exact mem_next_iff.mpr (Or.inr ⟨r, hrm, hf⟩)
  | @more n kb kb' s _ _ _ ih =>
    have hn := hnext hr hsup
    have hgk : ∀ f ∈ kb.facts, f.isGround = true := fun f hf => hg f (hsup (hsub hf))
    have hgo : ∀ f ∈ other.facts, f.isGround = true := fun f hf => hg f (hsup hf)
    have hmono : kb.next.facts.toSet ⊆ other.next.facts.toSet := by
      rw [toSet_next hgk, toSet_next hgo, hr]
      exact monotone_round _ hsub
    exact fixpoint_saturate_succ (hm ▸ hle hn) (Or.inr (ih hs hg hr hm hmono hn hnext hle))

/-- Deduction reaches a fixpoint within its limits, and no facts conflict there. -/
structure Concludes (t : ConstraintTable) (n : Nat) (kb : KnowledgeBase) : Prop where
  fixpoint : (kb.saturate n).2.fixpoint = true
  consistent : (kb.saturate n).1.conflict t = none

/-- **From between, deduction concludes as well.** -/
theorem Concludes.of_between (h : kb.Concludes t n) (hg : ∀ f ∈ kb.facts, f.isGround = true)
    (hr : other.rules = kb.rules) (hm : other.maxFacts = kb.maxFacts) (hsub : kb.facts.toSet ⊆ other.facts.toSet)
    (hsup : other.facts.toSet ⊆ (kb.saturate n).1.facts.toSet) : other.Concludes t n := by
  have hrun := run_saturate n kb
  have hend := forall_isGround_saturate hg n
  have hfix := hrun.fixpoint_of_between h.fixpoint hend hr hm hsub hsup
  have hmodel := toSet_eq_leastModel hrun hg h.fixpoint
  have hsame : (other.saturate n).1.facts.toSet = (kb.saturate n).1.facts.toSet :=
    calc (other.saturate n).1.facts.toSet
        = other.leastModel := toSet_eq_leastModel (run_saturate n other) (fun f hf => hend f (hsup hf)) hfix
      _ = kb.leastModel := by
        rw [leastModel, hr]
        exact closureUnder_eq_of_between (monotone_yieldOf _) hsub (hsup.trans hmodel.subset)
      _ = (kb.saturate n).1.facts.toSet := hmodel.symm
  refine ⟨hfix, conflict_eq_none_iff.mpr fun f hf g hg' => ?_⟩
  have hmem : ∀ {f : Fact}, f ∈ (other.saturate n).1.facts → f ∈ (kb.saturate n).1.facts := fun hf => hsame.subset hf
  exact conflict_eq_none_iff.mp h.consistent f (hmem hf) g (hmem hg')

theorem Concludes.solved (h : kb.Concludes t n) (hg : ∀ f ∈ kb.facts, f.isGround = true) : kb.Solved t n := by
  have hl : (kb.saturate n).2.limitExceeded = false := Bool.eq_false_iff.mpr fun hl => by
    simpa [h.fixpoint] using (run_saturate n kb).fixpoint_eq_false hl
  exact solved_iff.mpr ⟨⟨hl, isComplete_iff.mpr (forall_isGround_saturate hg n)⟩, h.consistent⟩

/-! ## Instances -/

variable {θ : String → Term}

/-- The knowledge base under one choice of terms for the variables of its facts. -/
def instantiate (kb : KnowledgeBase) (θ : String → Term) : KnowledgeBase :=
  { kb with facts := .ofList (kb.facts.toList.map (Fact.subst · θ)) }

theorem mem_instantiate {f : Fact} : f ∈ (kb.instantiate θ).facts ↔ ∃ g ∈ kb.facts, g.subst θ = f := by
  rw [instantiate, FactSet.mem_ofList, List.mem_map]
  rfl

theorem groundFacts_subset_instantiate (kb : KnowledgeBase) (θ : String → Term) :
    kb.groundFacts ⊆ (kb.instantiate θ).groundFacts := by
  intro f hf
  obtain ⟨hf, hg⟩ := mem_groundFacts.mp hf
  exact mem_groundFacts.mpr ⟨mem_instantiate.mpr ⟨f, hf, Fact.subst_of_isGround hg⟩, hg⟩

theorem forall_isGround_instantiate (h : ∀ f ∈ kb.facts, ∀ x ∈ f.vars, (θ x).isGround = true) :
    ∀ f ∈ (kb.instantiate θ).facts, f.isGround = true := by
  intro f hf
  obtain ⟨g, hg, rfl⟩ := mem_instantiate.mp hf
  rw [Fact.isGround_iff, Fact.vars_subst, List.flatMap_eq_nil_iff]
  exact fun x hx => Term.isGround_iff.mp (h g hg x hx)

/-- A conflict among ground facts stays in every instance. -/
theorem not_concludes_of_conflict (hc : kb.conflict t ≠ none) : ¬(kb.instantiate θ).Concludes t n := fun h =>
  have hsub : kb.groundFacts ⊆ ((kb.instantiate θ).saturate n).1.groundFacts :=
    List.Subset.trans (groundFacts_subset_instantiate kb θ) (run_saturate n _).subset_groundFacts
  conflict_ne_none_of_subset hsub hc h.consistent

end KnowledgeBase

/-! ## The search goes through all instances -/

section Search

variable {t : ConstraintTable} {n : Nat} {kb : KnowledgeBase} {vs : List FreeVariable} {values : List Term}
  {θ : String → Term}

/-- A search that finds nothing leaves no tuple out. -/
theorem not_solved_of_search (h : (search t n vs kb).leaf = none) (hv : values ∈ tuples vs) :
    ¬(kb.assignAll vs values).Solved t n := by
  induction vs generalizing kb values with
  | nil =>
    cases List.mem_singleton.mp hv
    rw [search, leaf_evaluateLeaf] at h
    show ¬kb.Solved t n
    intro hs
    rw [if_pos hs] at h
    cases h
  | cons v vs ih =>
    obtain ⟨value, hvalue, hv⟩ := List.mem_flatMap.mp hv
    obtain ⟨rest, hrest, rfl⟩ := List.mem_map.mp hv
    rw [leaf_search_cons, List.findSome?_eq_none_iff] at h
    have hbranch := h value hvalue
    by_cases hc : (kb.assign v.name value).conflict t = none
    · exact ih (by simpa [hc] using hbranch) hrest
    · exact not_solved_of_conflict hc rest

/-- Values for single variables make up a tuple, where they are candidates. -/
theorem exists_tuple (hn : (vs.map FreeVariable.name).Nodup) (hne : ∀ v ∈ vs, v.domain ≠ []) (θ : String → Term) :
    ∃ values ∈ tuples vs, ∀ v ∈ vs, θ v.name ∈ v.domain → valuation vs values v.name = θ v.name := by
  induction vs with
  | nil => exact ⟨[], List.mem_singleton.mpr rfl, nofun⟩
  | cons v vs ih =>
    rw [List.map_cons, List.nodup_cons] at hn
    obtain ⟨hv, hvs⟩ := List.forall_mem_cons.mp hne
    obtain ⟨values, hvalues, hval⟩ := ih hn.2 hvs
    obtain ⟨value, hmem, heq⟩ : ∃ value ∈ v.domain, θ v.name ∈ v.domain → value = θ v.name := by
      by_cases h : θ v.name ∈ v.domain
      · exact ⟨_, h, fun _ => rfl⟩
      · exact ⟨_, List.head_mem hv, fun h' => absurd h' h⟩
    refine ⟨value :: values, List.mem_flatMap.mpr ⟨value, hmem, List.mem_map_of_mem hvalues⟩, ?_⟩
    refine List.forall_mem_cons.mpr ⟨fun h => ?_, fun w hw h => ?_⟩
    · rw [valuation, if_pos rfl, heq h]
    · have hname : w.name ≠ v.name := fun e => hn.1 (e ▸ List.mem_map_of_mem hw)
      rw [valuation, if_neg hname, hval w hw h]

/-- A tuple assigns what an instance gives the variables. -/
theorem toSet_assignAll (hd : ConstantDomains vs) (hv : values ∈ tuples vs)
    (h : ∀ f ∈ kb.facts, ∀ x ∈ f.vars, valuation vs values x = θ x) :
    (kb.assignAll vs values).facts.toSet = (kb.instantiate θ).facts.toSet := by
  ext f
  refine (mem_assignAll_iff hd hv).trans (Iff.trans ?_ mem_instantiate.symm)
  exact exists_congr fun g => and_congr_right fun hg => by rw [Fact.subst_congr (h g hg)]

end Search

namespace SearchSpace

variable {kb : KnowledgeBase} {c : SolverConfig} {θ : String → Term}

theorem nodup_unbounded (kb : KnowledgeBase) (c : SolverConfig) :
    ((unbounded kb c).map FreeVariable.name).Nodup := by
  have hsub : ((unbounded kb c).map FreeVariable.name).Sublist
      ((kb.variableNames.map fun x => ⟨x, (c.candidates kb.constants x).map .const⟩).map FreeVariable.name) :=
    List.filter_sublist.map FreeVariable.name
  rw [List.map_map, show FreeVariable.name ∘ _ = id from rfl, List.map_id] at hsub
  exact (nodup_eraseDups _).sublist hsub

theorem Admits.isGround {facts : FactSet} (h : (discover kb c).Admits facts θ) :
    ∀ f ∈ facts, ∀ x ∈ f.vars, (θ x).isGround = true := by
  intro f hf x hx
  obtain ⟨v, hv, -, hθ⟩ := h f hf x hx
  obtain ⟨a, ha⟩ := constantDomains_discover kb c v hv _ hθ
  rw [ha]
  rfl

/-- No instance concludes over the candidates of a search that finds nothing. -/
theorem not_concludes_of_search {t : ConstraintTable} {n : Nat} (ht : (discover kb c).truncated = false)
    (h : (search t n (discover kb c).freeVariables kb).leaf = none) (hθ : (discover kb c).Admits kb.facts θ) :
    ¬(kb.instantiate θ).Concludes t n := by
  have hspace := discover_of_not_truncated ht
  have hd := constantDomains_discover kb c
  have hground := forall_isGround_instantiate hθ.isGround
  rw [hspace] at h hd hθ
  obtain ⟨values, hv, hval⟩ := exists_tuple (nodup_unbounded kb c) (fun v hv => (mem_unbounded_iff.mp hv).2.2) θ
  have hsame : (kb.assignAll (unbounded kb c) values).facts.toSet = (kb.instantiate θ).facts.toSet :=
    toSet_assignAll hd hv fun f hf x hx => by
      obtain ⟨v, hmem, rfl, hdom⟩ := hθ f hf x hx
      exact hval v hmem hdom
  intro hc
  have hassigned : (kb.assignAll (unbounded kb c) values).Concludes t n :=
    hc.of_between hground (rules_assignAll ..) (maxFacts_assignAll ..) hsame.symm.subset
      (hsame.subset.trans fun f hf => (run_saturate n _).prefix_facts.subset hf)
  exact not_solved_of_search h hv (hassigned.solved fun f hf => hground f (hsame.subset hf))

end SearchSpace

/-! ## What is lost -/

/-- The facts `es(juan, N)` and `es(ana, ingles)` and the rule `es(juan, noruego) -> es(ana, japones)`: all is well
unless Juan is Norwegian. -/
def hasty : Solver where
  kb := .ofContents [⟨"es", [.const "juan", .var "N"]⟩, ⟨"es", [.const "ana", .const "ingles"]⟩]
    [⟨[⟨"es", [.const "juan", .const "noruego"]⟩], ⟨"es", [.const "ana", .const "japones"]⟩⟩]
  config := .standard

/-- Deduction takes Juan for Norwegian, and meets a conflict. -/
def hastyBase : KnowledgeBase :=
  .ofContents [⟨"es", [.const "juan", .var "N"]⟩, ⟨"es", [.const "ana", .const "ingles"]⟩,
    ⟨"es", [.const "ana", .const "japones"]⟩] hasty.kb.rules

/-- The instance in which Juan is English. -/
def hastyInstance : KnowledgeBase :=
  .ofContents [⟨"es", [.const "juan", .const "ingles"]⟩, ⟨"es", [.const "ana", .const "ingles"]⟩] hasty.kb.rules

theorem forwardChain_hasty :
    hasty.start.forwardChain = (hastyBase, ⟨[⟨0, ⟨"es", [.const "ana", .const "japones"]⟩⟩], false⟩) := by
  have h : hasty.start.consequences = [⟨0, ⟨"es", [.const "ana", .const "japones"]⟩⟩] := by
    rw [consequences_eq]
    cbv
  rw [forwardChain, h]
  rfl

theorem deduced_hasty : hasty.deduced = (hastyBase, ⟨2, 1, 1, true, false⟩) := by
  have h : hastyBase.consequences = [⟨0, ⟨"es", [.const "ana", .const "japones"]⟩⟩] := by
    rw [consequences_eq]
    cbv
  exact saturate_of_forwardChain forwardChain_hasty rfl rfl (by decide) (by rw [h]; decide)

theorem outcome_hasty : hasty.solve = ⟨none, ⟨2, 1, false, 0, 0, 1, false, false, false⟩⟩ := by
  rw [Solver.solve_eq, deduced_hasty]
  rfl

theorem unlimited_hasty : hasty.Unlimited := by constructor <;> rw [outcome_hasty]

theorem acyclicPasses_hasty : hasty.AcyclicPasses :=
  Solver.acyclicPasses_of_two (by rw [deduced_hasty]) forwardChain_hasty (.of_hasGroundValues (by cbv))
    (.of_hasGroundValues (by cbv))

theorem saturate_hastyInstance : hastyInstance.saturate 10 = (hastyInstance, ⟨1, 0, 0, true, false⟩) := by
  have h : hastyInstance.consequences = [] := by
    rw [consequences_eq]
    cbv
  exact saturate_of_closed (by decide) (by rw [h]; exact List.forall_mem_nil _)

theorem concludes_hastyInstance : hastyInstance.Concludes hasty.table 10 :=
  ⟨by rw [saturate_hastyInstance], by rw [saturate_hastyInstance]; rfl⟩

/-- The fact `vive_en(X, X)` and the rule `vive_en(1, 1) -> vive_en(casa1, 2)`, where only one constant is tried for a
variable without a category: it is `1` in the puzzle. -/
def reordered : Solver where
  kb := .ofContents [⟨"vive_en", [.var "X", .var "X"]⟩]
    [⟨[⟨"vive_en", [.const "1", .const "1"]⟩], ⟨"vive_en", [.const "casa1", .const "2"]⟩⟩]
  config := { SolverConfig.standard with search := ⟨3, 5, 2, 3, 1⟩ }

/-- After deduction `casa1` comes first. -/
def reorderedBase : KnowledgeBase :=
  .ofContents [⟨"vive_en", [.var "X", .var "X"]⟩, ⟨"vive_en", [.const "casa1", .const "2"]⟩] reordered.kb.rules

/-- The instance under `1`, with what the rule yields from it. -/
def reorderedModel : KnowledgeBase :=
  .ofContents [⟨"vive_en", [.const "1", .const "1"]⟩, ⟨"vive_en", [.const "casa1", .const "2"]⟩] reordered.kb.rules

theorem forwardChain_reordered :
    reordered.start.forwardChain = (reorderedBase, ⟨[⟨0, ⟨"vive_en", [.const "casa1", .const "2"]⟩⟩], false⟩) := by
  have h : reordered.start.consequences = [⟨0, ⟨"vive_en", [.const "casa1", .const "2"]⟩⟩] := by
    rw [consequences_eq]
    cbv
  rw [forwardChain, h]
  rfl

theorem deduced_reordered : reordered.deduced = (reorderedBase, ⟨2, 1, 1, true, false⟩) := by
  have h : reorderedBase.consequences = [⟨0, ⟨"vive_en", [.const "casa1", .const "2"]⟩⟩] := by
    rw [consequences_eq]
    cbv
  exact saturate_of_forwardChain forwardChain_reordered rfl rfl (by decide) (by rw [h]; decide)

theorem outcome_reordered : reordered.solve = ⟨none, ⟨2, 1, true, 1, 0, 1, false, false, false⟩⟩ := by
  have hspace : SearchSpace.discover reorderedBase reordered.config = ⟨[⟨"X", [.const "casa1"]⟩], false⟩ := by
    decide +kernel
  have hsolve : reordered.solve = reordered.searchFrom reorderedBase 1 (.ofSaturation ⟨2, 1, 1, true, false⟩) := by
    rw [Solver.solve_eq, deduced_reordered]
    rfl
  rw [hsolve, Solver.searchFrom, hspace]
  rfl

theorem unlimited_reordered : reordered.Unlimited := by constructor <;> rw [outcome_reordered]

theorem acyclicPasses_reordered : reordered.AcyclicPasses :=
  Solver.acyclicPasses_of_two (by rw [deduced_reordered]) forwardChain_reordered (.of_hasGroundValues (by cbv))
    (.of_hasGroundValues (by cbv))

theorem saturate_reordered : (reordered.start.instantiate fun _ => .const "1").saturate 10 =
    (reorderedModel, ⟨2, 1, 1, true, false⟩) := by
  have h₀ : (reordered.start.instantiate fun _ => .const "1").consequences =
      [⟨0, ⟨"vive_en", [.const "casa1", .const "2"]⟩⟩] := by
    rw [consequences_eq]
    cbv
  have h₁ : reorderedModel.consequences = [⟨0, ⟨"vive_en", [.const "casa1", .const "2"]⟩⟩] := by
    rw [consequences_eq]
    cbv
  have e : (reordered.start.instantiate fun _ => .const "1").forwardChain =
      (reorderedModel, ⟨[⟨0, ⟨"vive_en", [.const "casa1", .const "2"]⟩⟩], false⟩) := by
    rw [forwardChain, h₀]
    rfl
  exact saturate_of_forwardChain e rfl rfl (by decide) (by rw [h₁]; decide)

/-- Two puzzles that are not solved, under limits that are not met, with an instance over the candidates that concludes.
In the first one deduction derives what does not follow from that instance. In the second one it follows, but it
changes which constant is tried. -/
theorem lost_of_solve_eq_none :
    (hasty.AcyclicPasses ∧ hasty.solve.solution = none ∧ hasty.Unlimited ∧ ∃ θ : String → Term,
      (SearchSpace.discover hasty.kb hasty.config).Admits hasty.kb.facts θ ∧
      (SearchSpace.discover hasty.deduced.1 hasty.config).Admits hasty.kb.facts θ ∧
      (hasty.start.instantiate θ).Concludes hasty.table hasty.config.maxSteps) ∧
    (reordered.AcyclicPasses ∧ reordered.solve.solution = none ∧ reordered.Unlimited ∧ ∃ θ : String → Term,
      (SearchSpace.discover reordered.kb reordered.config).Admits reordered.kb.facts θ ∧
      (reordered.start.instantiate θ).Concludes reordered.table reordered.config.maxSteps ∧
      ∀ g ∈ reordered.derived, g ∈ ((reordered.start.instantiate θ).saturate reordered.config.maxSteps).1.facts) := by
  refine ⟨⟨acyclicPasses_hasty, by rw [outcome_hasty], unlimited_hasty, fun _ => .const "ingles", ?_, ?_,
    concludes_hastyInstance⟩, acyclicPasses_reordered, by rw [outcome_reordered], unlimited_reordered,
    fun _ => .const "1", ?_, ⟨?_, ?_⟩, ?_⟩
  · decide +kernel
  · rw [deduced_hasty]
    decide +kernel
  · decide +kernel
  · exact congrArg (·.2.fixpoint) saturate_reordered
  · exact congrArg (·.1.conflict reordered.table) saturate_reordered
  · rintro g ⟨hg, hnot⟩
    have hm : g ∈ reorderedModel.facts := by
      rw [deduced_reordered] at hg
      revert g
      decide
    exact (congrArg (·.1.facts) saturate_reordered).symm ▸ hm

/-! ## What is not lost -/

/-- **No solution is lost, except to what was derived.** Where the solver returns nothing, the limit on facts was not
exceeded and the search space was not cut down, no instance over the candidates concludes together with what the first
deduction derived. So if the instance of the puzzle alone concludes, it lacks a fact that the first deduction derived.
The candidates are those after the first deduction, or those in the puzzle where no list of them is cut. -/
theorem not_concludes_of_solve_eq_none {s : Solver} {θ : String → Term} (hnone : s.solve.solution = none)
    (hf : s.solve.stats.factLimitHit = false) (ht : s.solve.stats.searchTruncated = false)
    (hθ : (SearchSpace.discover s.deduced.1 s.config).Admits s.kb.facts θ ∨
      s.config.Covers s.kb.constants ∧ (SearchSpace.discover s.kb s.config).Admits s.kb.facts θ) :
    ¬(s.deduced.1.instantiate θ).Concludes s.table s.config.maxSteps ∧
    ((s.start.instantiate θ).Concludes s.table s.config.maxSteps →
      ∃ g ∈ s.derived, g ∉ ((s.start.instantiate θ).saturate s.config.maxSteps).1.facts) := by
  have hrun := s.run_deduced
  have hlost : ¬(s.deduced.1.instantiate θ).Concludes s.table s.config.maxSteps := by
    rcases s.solve_cases with ⟨hl, e⟩ | ⟨_, hc, e⟩ | ⟨_, _, _, e⟩ | ⟨_, _, _, e⟩
    · rw [e] at hf
      exact absurd hl (Bool.eq_false_iff.mp hf)
    · exact not_concludes_of_conflict hc
    · rw [e] at hnone
      cases hnone
    · rw [e] at hnone ht
      have hadmits : (SearchSpace.discover s.deduced.1 s.config).Admits s.kb.facts θ := by
        rcases hθ with h | ⟨hcov, h⟩
        · exact h
        · have hstart : (SearchSpace.discover s.start s.config).Admits s.start.facts θ := h
          exact hstart.after_run hrun hcov ht
      refine SearchSpace.not_concludes_of_search ht (Option.map_eq_none_iff.mp hnone) fun f hf x hx => ?_
      -- what was derived has no variables
      rcases hrun.isGround_or_mem hf with hg | hin
      · rw [Fact.isGround_iff.mp hg] at hx
        cases hx
      · exact hadmits f hin x hx
  refine ⟨hlost, fun hc => ?_⟩
  have hground : ∀ f ∈ (s.start.instantiate θ).facts, f.isGround = true :=
    forall_isGround_instantiate (hθ.elim (·.isGround) (·.2.isGround))
  by_contra hall
  push Not at hall
  refine hlost (hc.of_between hground hrun.rules_eq hrun.maxFacts_eq (fun f hf => ?_) fun f hf => ?_)
  · obtain ⟨g, hg, rfl⟩ := mem_instantiate.mp hf
    exact mem_instantiate.mpr ⟨g, hrun.prefix_facts.subset hg, rfl⟩
  · obtain ⟨g, hg, rfl⟩ := mem_instantiate.mp hf
    by_cases hin : g ∈ s.kb.facts
    · exact (run_saturate _ _).prefix_facts.subset (mem_instantiate.mpr ⟨g, hin, rfl⟩)
    · rw [Fact.subst_of_isGround ((hrun.isGround_or_mem hg).resolve_right hin)]
      exact hall g ⟨hg, hin⟩

/-- In the puzzle of `hasty`, the instance in which Juan is English lacks what was derived about Ana. -/
theorem lacks_derived_hasty : hasty.solve.solution = none ∧ hasty.solve.stats.factLimitHit = false ∧
    hasty.solve.stats.searchTruncated = false ∧
    (SearchSpace.discover hasty.kb hasty.config).Admits hasty.kb.facts (fun _ => .const "ingles") ∧
    ¬(hasty.deduced.1.instantiate fun _ => .const "ingles").Concludes hasty.table 10 ∧
    ∃ g ∈ hasty.derived, g ∉ hastyInstance.facts := by
  have hnone : hasty.solve.solution = none := by rw [outcome_hasty]
  have hcov : hasty.config.Covers hasty.kb.constants := Or.inl ⟨"juan", by decide +kernel, by decide +kernel⟩
  have hθ : (SearchSpace.discover hasty.kb hasty.config).Admits hasty.kb.facts (fun _ => .const "ingles") := by
    decide +kernel
  obtain ⟨hlost, hlacks⟩ := not_concludes_of_solve_eq_none hnone unlimited_hasty.facts unlimited_hasty.space
    (Or.inr ⟨hcov, hθ⟩)
  have hlacking := hlacks concludes_hastyInstance
  rw [show hasty.start.instantiate (fun _ => .const "ingles") = hastyInstance from rfl,
    show hasty.config.maxSteps = 10 from rfl, saturate_hastyInstance] at hlacking
  exact ⟨hnone, unlimited_hasty.facts, unlimited_hasty.space, hθ, hlost, hlacking⟩

end LogicGrid
