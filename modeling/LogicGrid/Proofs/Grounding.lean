import LogicGrid.Proofs.Completeness
import LogicGrid.Proofs.Leaves

/-!
# Leaves without variables

As soon as a puzzle mentions a constant, there is no variable without candidates (`SolverConfig.candidates_ne_nil`), so
a space that is not cut down holds all variables, in the order of their first mention (`map_name_unbounded`). A tuple
gives each of them a constant (`isGround_valuation`), in whatever order they are assigned, and no fact keeps a variable,
however deeply it is nested (`forall_isGround_assignAll`). Deduction from ground facts adds ground facts only.

* `ground_of_not_truncated` – a search that is not truncated evaluates no leaf with a variable.
-/

namespace LogicGrid

open KnowledgeBase

/-! ## Tuples that cover the variables -/

section Tuples

variable {kb : KnowledgeBase} {vs : List FreeVariable} {values : List Term} {x : String}

theorem isGround_valuation (hd : ConstantDomains vs) (hv : values ∈ tuples vs) (hx : x ∈ vs.map FreeVariable.name) :
    (valuation vs values x).isGround = true := by
  rw [mem_tuples_iff] at hv
  induction hv with
  | nil => cases hx
  | @cons v value vs values hmem _ ih =>
    rw [valuation]
    split
    · obtain ⟨a, rfl⟩ := hd v List.mem_cons_self value hmem
      rfl
    · next hne => exact ih (fun w hw => hd w (List.mem_cons_of_mem _ hw)) ((List.mem_cons.mp hx).resolve_left hne)

/-- A tuple that covers the variables of the facts leaves none of them. -/
theorem forall_isGround_assignAll (hd : ConstantDomains vs) (hv : values ∈ tuples vs)
    (hcov : ∀ f ∈ kb.facts, ∀ x ∈ f.vars, x ∈ vs.map FreeVariable.name) :
    ∀ f ∈ (kb.assignAll vs values).facts, f.isGround = true := by
  have hsame : (kb.assignAll vs values).facts.toSet = (kb.instantiate (valuation vs values)).facts.toSet :=
    toSet_assignAll hd hv fun _ _ _ _ => rfl
  have hground := forall_isGround_instantiate fun f hf x hx => isGround_valuation hd hv (hcov f hf x hx)
  exact fun f hf => hground f (hsame.subset hf)

end Tuples

/-! ## Spaces that cover the variables -/

/-- The candidates of the variable are constants of the knowledge base, at least one, none of them twice. -/
structure FreeVariable.RangesOver (v : FreeVariable) (kb : KnowledgeBase) : Prop where
  ne_nil : v.domain ≠ []
  nodup : v.domain.Nodup
  constants : ∀ t ∈ v.domain, ∃ a ∈ kb.constants, t = .const a

namespace SearchSpace

variable {kb : KnowledgeBase} {c : SolverConfig} {v : FreeVariable}

theorem rangesOver_of_mem_unbounded (h : v ∈ unbounded kb c) : v.RangesOver kb := by
  obtain ⟨-, hdom, hne⟩ := mem_unbounded_iff.mp h
  refine ⟨hne, ?_, fun t ht => ?_⟩
  · rw [hdom]
    exact (SolverConfig.nodup_candidates (nodup_eraseDups _)).map fun a b h => Term.const.inj h
  · rw [hdom] at ht
    obtain ⟨a, ha, rfl⟩ := List.mem_map.mp ht
    exact ⟨a, c.candidates_subset _ _ ha, rfl⟩

/-- No variable is skipped where there are constants to try. -/
theorem map_name_unbounded (hc : kb.constants ≠ []) (hf : 1 ≤ c.search.fallbackDomainSize) :
    (unbounded kb c).map FreeVariable.name = kb.variableNames := by
  have hall : unbounded kb c =
      kb.variableNames.map fun x => ⟨x, (c.candidates kb.constants x).map Term.const⟩ := by
    refine List.filter_eq_self.mpr fun v hv => ?_
    obtain ⟨x, -, rfl⟩ := List.mem_map.mp hv
    simpa using SolverConfig.candidates_ne_nil hc hf
  rw [hall, List.map_map]
  exact List.map_id _

end SearchSpace

/-! ## Leaves -/

/-- No pass brings a variable in, so that the knowledge base is not rejected for one: as a leaf it fails only by the
limit on facts or by a conflict. -/
structure KnowledgeBase.StaysGround (kb : KnowledgeBase) : Prop where
  passes : ∀ k, ∀ f ∈ (next^[k] kb).facts, f.isGround = true
  complete : ∀ n, (kb.saturate n).1.isComplete = true
  rejected_iff : ∀ t n, (evaluateLeaf t n kb).leaf = none ↔
    (kb.saturate n).2.limitExceeded = true ∨ ((kb.saturate n).1.conflict t).isSome = true

theorem KnowledgeBase.staysGround {kb : KnowledgeBase} (hg : ∀ f ∈ kb.facts, f.isGround = true) :
    kb.StaysGround where
  passes := forall_isGround_iterate hg
  complete n := isComplete_iff.mpr (forall_isGround_saturate hg n)
  rejected_iff t n := by
    have hcomplete := isComplete_iff.mpr (forall_isGround_saturate hg n)
    rw [leaf_evaluateLeaf, ite_eq_right_iff, solved_iff]
    cases (kb.saturate n).2.limitExceeded <;> cases (kb.saturate n).1.conflict t <;> simp [hcomplete]

/-- **A search that is not truncated leaves no variable.** Let a puzzle mention a constant, and let at least one
constant be tried for a variable without a category. If the space is not cut down, its variables are those of the facts
and rules in the order of their first mention, each with candidates, which are distinct constants of the puzzle. Any
values for all of them, assigned in any order, make every fact ground, and passes keep it so. So no leaf that a search
evaluates is rejected for a variable. -/
theorem ground_of_not_truncated {kb : KnowledgeBase} {c : SolverConfig} (hc : kb.constants ≠ [])
    (hf : 1 ≤ c.search.fallbackDomainSize) (ht : (SearchSpace.discover kb c).truncated = false) :
    (SearchSpace.discover kb c).freeVariables.map FreeVariable.name =
      ((kb.facts.toList ++ kb.rules.flatMap fun r => r.antecedents ++ [r.consequent]).flatMap Fact.vars).eraseDups ∧
    (∀ v ∈ (SearchSpace.discover kb c).freeVariables, v.RangesOver kb) ∧
    (∀ vs, vs.Perm (SearchSpace.discover kb c).freeVariables → ∀ values ∈ tuples vs,
      (kb.assignAll vs values).StaysGround) ∧
    ∀ t n, ∀ l ∈ evaluated t n (SearchSpace.discover kb c).freeVariables kb, l.StaysGround := by
  have hd := constantDomains_discover kb c
  rw [SearchSpace.discover_of_not_truncated ht] at hd ⊢
  have hnames := SearchSpace.map_name_unbounded hc hf
  have hassigned : ∀ vs, vs.Perm (SearchSpace.unbounded kb c) → ∀ values ∈ tuples vs,
      (kb.assignAll vs values).StaysGround := by
    intro vs hperm values hv
    have hdom : ConstantDomains vs := fun v hvm => hd v (hperm.subset hvm)
    refine staysGround (forall_isGround_assignAll hdom hv fun f hfm x hx => ?_)
    have hstated : x ∈ kb.variableNames :=
      List.mem_eraseDups.mpr (List.mem_flatMap.mpr ⟨f, List.mem_append_left _ hfm, hx⟩)
    rw [← hnames] at hstated
    exact (hperm.map FreeVariable.name).mem_iff.mpr hstated
  refine ⟨hnames, fun v hv => SearchSpace.rangesOver_of_mem_unbounded hv, hassigned, fun t n l hl => ?_⟩
  obtain ⟨values, hv, rfl⟩ := exists_tuple_of_mem_leavesBelow (mem_leavesBelow_of_mem_evaluated hl)
  exact hassigned _ (.refl _) values hv

/-- The facts `vive_en(1, f(H))` and `casa(casa1, H)` and the rule `p(X) -> q(X, H)`. No constant is without a
category. -/
def sharedHouse : KnowledgeBase :=
  .ofContents [⟨"vive_en", [.const "1", .app "f" [.var "H"]]⟩, ⟨"casa", [.const "casa1", .var "H"]⟩]
    [⟨[⟨"p", [.var "X"]⟩], ⟨"q", [.var "X", .var "H"]⟩⟩]

/-- So all constants are tried for both variables. -/
theorem ground_sharedHouse :
    SearchSpace.discover sharedHouse .standard =
      ⟨[⟨"H", [.const "1", .const "casa1"]⟩, ⟨"X", [.const "1", .const "casa1"]⟩], false⟩ ∧
    (∀ t n, ∀ l ∈ evaluated t n (SearchSpace.discover sharedHouse .standard).freeVariables sharedHouse,
      l.StaysGround) ∧
    (sharedHouse.assignAll [⟨"X", [.const "1", .const "casa1"]⟩, ⟨"H", [.const "1", .const "casa1"]⟩]
      [.const "1", .const "casa1"]).StaysGround := by
  have hspace : SearchSpace.discover sharedHouse .standard =
      ⟨[⟨"H", [.const "1", .const "casa1"]⟩, ⟨"X", [.const "1", .const "casa1"]⟩], false⟩ := by decide +kernel
  have hconstants : sharedHouse.constants ≠ [] := by decide +kernel
  have hwhole : (SearchSpace.discover sharedHouse .standard).truncated = false := by rw [hspace]
  obtain ⟨-, -, hassigned, hleaves⟩ := ground_of_not_truncated hconstants (by decide) hwhole
  refine ⟨hspace, hleaves, hassigned _ ?_ _ ?_⟩
  · rw [hspace]
    exact .swap _ _ _
  · decide

end LogicGrid
