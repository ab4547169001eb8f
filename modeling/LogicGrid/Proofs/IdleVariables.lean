import LogicGrid.Proofs.Assignments
import LogicGrid.Proofs.Leaves
import LogicGrid.Proofs.Solved

/-!
# Variables of rules only

The space of a search also holds the variables that occur in rules, but in no fact. To assign such a variable changes
nothing (`assign_of_idle`), so each of its values leads to the same leaves once more (`eraseDups_leavesBelow`). A search
takes the first leaf that is solved, and to that repetitions do not matter.

* `search_without_idle` – a search that leaves them out takes the same leaf.
-/

namespace LogicGrid

open KnowledgeBase

/-! ## Idle variables -/

/-- The variable occurs in no fact. -/
def KnowledgeBase.Idle (kb : KnowledgeBase) (x : String) : Prop := ∀ f ∈ kb.facts, x ∉ f.vars

instance (kb : KnowledgeBase) (x : String) : Decidable (kb.Idle x) :=
  inferInstanceAs (Decidable (∀ f ∈ kb.facts.toList, x ∉ f.vars))

section Assign

variable {kb : KnowledgeBase} {x y a : String} {v : Term} {f : Fact}

theorem Fact.mem_vars_of_mem_replace_const (h : x ∈ (f.replace y (.const a)).vars) : x ∈ f.vars := by
  rw [replace_eq_subst, vars_subst, List.mem_flatMap] at h
  obtain ⟨z, hz, hx⟩ := h
  split at hx
  · cases hx
  · exact List.mem_singleton.mp hx ▸ hz

/-- There is nothing to replace. -/
theorem assign_of_idle (h : kb.Idle x) (hv : x ∉ v.vars) : kb.assign x v = kb := by
  have hnone : kb.facts.toList.filter (x ∈ ·.vars) = [] :=
    List.filter_eq_nil_iff.mpr fun f hf => by simpa using h f hf
  have hall : kb.facts.toList.filter (x ∉ ·.vars) = kb.facts.toList :=
    List.filter_eq_self.mpr fun f hf => by simpa using h f hf
  have hfacts : (kb.assign x v).facts = kb.facts := by
    ext1
    rw [toList_assign hv, hnone, hall, List.map_nil, List.filter_nil, List.eraseDups_nil, List.append_nil]
  calc kb.assign x v = { kb with facts := (kb.assign x v).facts } := by unfold assign; split <;> rfl
    _ = kb := by rw [hfacts]

theorem KnowledgeBase.Idle.assign (h : kb.Idle x) (y a : String) : (kb.assign y (.const a)).Idle x := by
  intro f hf hx
  obtain ⟨g, hg, rfl⟩ := (mem_assign_iff (by simp)).mp hf
  exact h g hg (Fact.mem_vars_of_mem_replace_const hx)

end Assign

/-! ## Leaves that repeat -/

/-- The variables `ws` are those of `vs`, in their order, without some that satisfy `p`. -/
inductive Without (p : FreeVariable → Prop) : List FreeVariable → List FreeVariable → Prop
  | nil : Without p [] []
  | keep {v : FreeVariable} {vs ws : List FreeVariable} : Without p vs ws → Without p (v :: vs) (v :: ws)
  | drop {v : FreeVariable} {vs ws : List FreeVariable} : p v → Without p vs ws → Without p (v :: vs) ws

section Leaves

variable {t : ConstraintTable} {n : Nat} {kb : KnowledgeBase} {p : FreeVariable → Prop} {vs ws : List FreeVariable}

/-- **Idle variables only repeat leaves.** Without them the same leaves come up, in the same order. -/
theorem eraseDups_leavesBelow (h : Without p vs ws) (hp : ∀ v, p v → kb.Idle v.name) (hd : ConstantDomains vs)
    (hne : ∀ v ∈ vs, v.domain ≠ []) (hc : kb.conflict t = none) :
    (leavesBelow t vs kb).eraseDups = (leavesBelow t ws kb).eraseDups := by
  induction h generalizing kb with
  | nil => rfl
  | @keep v vs ws _ ih =>
    obtain ⟨hv, hvs⟩ := List.forall_mem_cons.mp hd
    obtain ⟨-, hnes⟩ := List.forall_mem_cons.mp hne
    rw [leavesBelow, leavesBelow]
    refine eraseDups_flatMap_congr fun value hvalue => ?_
    obtain ⟨a, rfl⟩ := hv value hvalue
    split
    · rfl
    · next hbranch => exact ih (fun w hw => (hp w hw).assign v.name a) hvs hnes (by simpa using hbranch)
  | @drop v vs ws hidle _ ih =>
    obtain ⟨hv, hvs⟩ := List.forall_mem_cons.mp hd
    obtain ⟨hnonempty, hnes⟩ := List.forall_mem_cons.mp hne
    -- each value leads to the same knowledge base, which is free of conflicts
    have hsame : leavesBelow t (v :: vs) kb = v.domain.flatMap fun _ => leavesBelow t vs kb := by
      rw [leavesBelow]
      refine List.flatMap_congr fun value hvalue => ?_
      obtain ⟨a, rfl⟩ := hv value hvalue
      rw [assign_of_idle (hp v hidle) (by simp), if_neg (by simp [hc])]
    calc (leavesBelow t (v :: vs) kb).eraseDups = (leavesBelow t vs kb).eraseDups := by
          rw [hsame, eraseDups_flatMap_const hnonempty]
      _ = (leavesBelow t ws kb).eraseDups := ih hp hvs hnes hc

end Leaves

/-- **Variables of rules only do not change what a search finds.** Let all candidates be constants, and no variable be
without candidates. Without some of the variables that occur in no fact, a search takes the same leaf, or none like
before: its facts are the same, in the same order, and so are its productive passes. Every leaf that is evaluated is
evaluated without them as well. Unless the facts are in conflict before anything is assigned, and all is pruned, the
leaves come up in the same order, and only more often. -/
theorem search_without_idle {t : ConstraintTable} {n : Nat} {kb : KnowledgeBase} {vs ws : List FreeVariable}
    (h : Without (fun v => kb.Idle v.name) vs ws) (hd : ConstantDomains vs) (hne : ∀ v ∈ vs, v.domain ≠ []) :
    (search t n ws kb).leaf = (search t n vs kb).leaf ∧
    evaluated t n vs kb ⊆ evaluated t n ws kb ∧
    (kb.conflict t = none → (evaluated t n vs kb).eraseDups = (evaluated t n ws kb).eraseDups) := by
  have hleaves : kb.conflict t = none → (leavesBelow t vs kb).eraseDups = (leavesBelow t ws kb).eraseDups :=
    eraseDups_leavesBelow h (fun _ hv => hv) hd hne
  have heval : kb.conflict t = none → (evaluated t n vs kb).eraseDups = (evaluated t n ws kb).eraseDups := fun hc => by
    rw [evaluated, evaluated, ← upTo_eraseDups, hleaves hc, upTo_eraseDups]
  by_cases hc : kb.conflict t = none
  · refine ⟨?_, fun l hl => ?_, heval⟩
    · rw [leaf_search_eq_findSome?, leaf_search_eq_findSome?, ← findSome?_eraseDups, ← hleaves hc, findSome?_eraseDups]
    · rw [← List.mem_eraseDups, ← heval hc, List.mem_eraseDups]
      exact hl
  · refine ⟨by rw [leaf_search_of_conflict hc, leaf_search_of_conflict hc], ?_, heval⟩
    -- all is pruned at once, unless there is nothing to assign
    cases h with
    | nil => exact List.Subset.refl _
    | keep | drop =>
      rw [evaluated, leavesBelow_of_conflict hc]
      exact List.nil_subset _

/-- The facts `r(z, b)` and `p(X)` and the rule `p(Y) -> q(Y)`. -/
def ruleVariable : KnowledgeBase :=
  .ofContents [⟨"r", [.const "z", .const "b"]⟩, ⟨"p", [.var "X"]⟩] [⟨[⟨"p", [.var "Y"]⟩], ⟨"q", [.var "Y"]⟩⟩]

/-- The leaf under `z`. -/
def ruleVariableLeaf : KnowledgeBase :=
  .ofContents [⟨"r", [.const "z", .const "b"]⟩, ⟨"p", [.const "z"]⟩, ⟨"q", [.const "z"]⟩] ruleVariable.rules

theorem leaf_search_ruleVariable :
    (search .puzzle 10 [⟨"X", [.const "z", .const "b"]⟩] ruleVariable).leaf = some ⟨ruleVariableLeaf, 1⟩ := by
  have h₀ : (ruleVariable.assign "X" (.const "z")).consequences = [⟨0, ⟨"q", [.const "z"]⟩⟩] := by
    rw [consequences_eq]
    cbv
  have h₁ : ruleVariableLeaf.consequences = [⟨0, ⟨"q", [.const "z"]⟩⟩] := by
    rw [consequences_eq]
    cbv
  have e₀ : (ruleVariable.assign "X" (.const "z")).forwardChain =
      (ruleVariableLeaf, ⟨[⟨0, ⟨"q", [.const "z"]⟩⟩], false⟩) := by
    rw [forwardChain, h₀]
    rfl
  have hsat : (ruleVariable.assign "X" (.const "z")).saturate 10 = (ruleVariableLeaf, ⟨2, 1, 1, true, false⟩) :=
    saturate_of_forwardChain e₀ rfl rfl (by decide) (by rw [h₁]; decide)
  have hleaf : (evaluateLeaf .puzzle 10 (ruleVariable.assign "X" (.const "z"))).leaf = some ⟨ruleVariableLeaf, 1⟩ := by
    rw [evaluateLeaf_eq, KnowledgeBase.leaf, hsat]
    rfl
  rw [leaf_search_cons, List.findSome?_cons, if_neg (by decide), search, hleaf]

/-- The space holds `Y` as well, and the search takes the same leaf over both variables. -/
theorem search_without_idle_ruleVariable :
    SearchSpace.discover ruleVariable .standard =
      ⟨[⟨"X", [.const "z", .const "b"]⟩, ⟨"Y", [.const "z", .const "b"]⟩], false⟩ ∧
    Without (fun v => ruleVariable.Idle v.name) (SearchSpace.discover ruleVariable .standard).freeVariables
      [⟨"X", [.const "z", .const "b"]⟩] ∧
    (search .puzzle 10 (SearchSpace.discover ruleVariable .standard).freeVariables ruleVariable).leaf =
      some ⟨ruleVariableLeaf, 1⟩ := by
  have hspace : SearchSpace.discover ruleVariable .standard =
      ⟨[⟨"X", [.const "z", .const "b"]⟩, ⟨"Y", [.const "z", .const "b"]⟩], false⟩ := by decide +kernel
  have hwithout : Without (fun v => ruleVariable.Idle v.name)
      (SearchSpace.discover ruleVariable .standard).freeVariables [⟨"X", [.const "z", .const "b"]⟩] := by
    rw [hspace]
    exact .keep (.drop (by decide) .nil)
  have hne : ∀ v ∈ (SearchSpace.discover ruleVariable .standard).freeVariables, v.domain ≠ [] := by
    rw [hspace]
    decide
  have hsame := (search_without_idle (t := .puzzle) (n := 10) hwithout (constantDomains_discover _ _) hne).1
  exact ⟨hspace, hwithout, hsame.symm.trans leaf_search_ruleVariable⟩

end LogicGrid
