import LogicGrid.Proofs.Pruning

/-!
# What operations on a knowledge base leave alone

A knowledge base is built and changed by seven operations. What one of them does to the facts is said once
(`Operation.exists_added`): the facts that it clears leave, all others keep their places, and new ones come in behind
them. Only an assignment clears facts, those with its variable, and none of them comes in again.

* `orderly_after` – from any moment of a run of operations on, the facts are distinct, ground facts stay, a fact is lost
  only by the assignment of one of its variables, facts that stay keep their order, rules are only appended, and what
  deduction adds is ground.
-/

namespace LogicGrid

open KnowledgeBase

/-! ## Assignments -/

/-- Replacing a variable by a term without it leaves none of it. -/
theorem Fact.not_mem_vars_replace {x : String} {v : Term} (hv : x ∉ v.vars) (f : Fact) : x ∉ (f.replace x v).vars := by
  rw [replace_eq_subst, vars_subst, List.mem_flatMap]
  rintro ⟨y, -, hx⟩
  by_cases hy : y = x
  · rw [if_pos hy] at hx
    exact hv hx
  · rw [if_neg hy, Term.vars_var, List.mem_singleton] at hx
    exact hy hx.symm

namespace KnowledgeBase

variable {kb : KnowledgeBase} {x : String} {v : Term} {f : Fact}

theorem not_mem_vars_of_mem_assign (hv : x ∉ v.vars) (hf : f ∈ (kb.assign x v).facts) : x ∉ f.vars := by
  obtain ⟨g, -, rfl⟩ := (mem_assign_iff hv).mp hf
  exact Fact.not_mem_vars_replace hv g

/-- The facts without the variable stay in front, in their order. -/
theorem prefix_facts_assign (hv : x ∉ v.vars) (kb : KnowledgeBase) :
    (kb.facts.toList.filter fun f => !f.mentions x) <+: (kb.assign x v).facts.toList := by
  have hnot : ¬v.occurs x = true := mt Term.occurs_iff.mp hv
  rw [assign, if_neg hnot]
  exact FactSet.toList_prefix_insertAll _ (kb.facts.filter fun f => !f.mentions x)

end KnowledgeBase

/-! ## One operation -/

/-- What can be done to a knowledge base. -/
inductive Operation where
  | addFact (f : Fact)
  | addFacts (fs : List Fact)
  | addRule (r : Rule)
  | setMaxFacts (n : Nat)
  | forwardChain
  | saturate (n : Nat)
  | assign (x : String) (v : Term)
deriving DecidableEq, Repr

namespace Operation

/-- The knowledge base after an operation. -/
def perform : Operation → KnowledgeBase → KnowledgeBase
  | .addFact f, kb => kb.addFact f
  | .addFacts fs, kb => kb.addFacts fs
  | .addRule r, kb => kb.addRule r
  | .setMaxFacts n, kb => { kb with maxFacts := n }
  | .forwardChain, kb => kb.forwardChain.1
  | .saturate n, kb => (kb.saturate n).1
  | .assign x v, kb => kb.assign x v

/-- The rules that an operation adds. -/
def newRules : Operation → List Rule
  | .addRule r => [r]
  | _ => []

/-- Whether an operation is deduction. -/
def deduces : Operation → Bool
  | .forwardChain => true
  | .saturate _ => true
  | _ => false

/-- Whether an operation takes a fact away. -/
def clears : Operation → Fact → Bool
  | .assign x v, f => !v.occurs x && f.mentions x
  | _, _ => false

variable {op : Operation} {kb : KnowledgeBase} {f g : Fact}

theorem exists_assign_of_clears (h : op.clears f = true) : ∃ x v, op = .assign x v ∧ x ∈ f.vars := by
  cases op with
  | assign x v =>
    obtain ⟨-, hx⟩ := Bool.and_eq_true_iff.mp h
    exact ⟨x, v, rfl, Fact.mentions_iff.mp hx⟩
  | _ => cases h

theorem exists_added_of_prefix (hp : kb.facts.toList <+: (op.perform kb).facts.toList)
    (hc : ∀ f, op.clears f = false) : ∃ added,
      (op.perform kb).facts.toList = kb.facts.toList.filter (!op.clears ·) ++ added ∧
        ∀ f ∈ added, op.clears f = false := by
  obtain ⟨added, e⟩ := hp
  have hall : kb.facts.toList.filter (!op.clears ·) = kb.facts.toList :=
    List.filter_eq_self.mpr fun f _ => by rw [hc f]; rfl
  exact ⟨added, by rw [hall, e], fun f _ => hc f⟩

/-- **What an operation does to the facts**: those that it clears leave and do not come in again, the others keep their
places, and what is added stands behind them. -/
theorem exists_added (op : Operation) (kb : KnowledgeBase) : ∃ added,
    (op.perform kb).facts.toList = kb.facts.toList.filter (!op.clears ·) ++ added ∧
      ∀ f ∈ added, op.clears f = false := by
  cases op with
  | addFact f => exact exists_added_of_prefix (FactSet.toList_prefix_insert kb.facts f) fun _ => rfl
  | addFacts fs => exact exists_added_of_prefix (FactSet.toList_prefix_insertAll fs kb.facts) fun _ => rfl
  | addRule r => exact exists_added_of_prefix (List.prefix_refl _) fun _ => rfl
  | setMaxFacts n => exact exists_added_of_prefix (List.prefix_refl _) fun _ => rfl
  | forwardChain => exact exists_added_of_prefix (prefix_facts_next kb) fun _ => rfl
  | saturate n => exact exists_added_of_prefix (run_saturate n kb).prefix_facts fun _ => rfl
  | assign x v =>
    by_cases hv : x ∈ v.vars
    · have hsame : (assign x v).perform kb = kb := assign_of_mem hv
      have hocc : v.occurs x = true := Term.occurs_iff.mpr hv
      exact exists_added_of_prefix (hsame.symm ▸ List.prefix_refl _) fun f => by simp [clears, hocc]
    · have hocc : v.occurs x = false := Bool.eq_false_iff.mpr (mt Term.occurs_iff.mp hv)
      have hclears : ∀ f, (assign x v).clears f = f.mentions x := fun f => by simp [clears, hocc]
      obtain ⟨added, e⟩ := prefix_facts_assign hv kb
      refine ⟨added, by simp only [hclears]; exact e.symm, fun f hf => ?_⟩
      -- no fact of the result mentions the variable
      have hmem : f ∈ (kb.assign x v).facts := FactSet.mem_def.mpr (e ▸ List.mem_append_right _ hf)
      rw [hclears]
      exact Bool.eq_false_iff.mpr (mt Fact.mentions_iff.mp (not_mem_vars_of_mem_assign hv hmem))

/-- A fact stays unless it is cleared. -/
theorem mem_perform_iff (hf : f ∈ kb.facts) : f ∈ (op.perform kb).facts ↔ op.clears f = false := by
  obtain ⟨added, e, hadded⟩ := exists_added op kb
  rw [FactSet.mem_def, e, List.mem_append, List.mem_filter, Bool.not_eq_true']
  exact ⟨fun h => h.elim (·.2) (hadded f), fun h => Or.inl ⟨hf, h⟩⟩

/-- Two facts that stay keep their order. -/
theorem sublist_perform (h : [f, g].Sublist kb.facts.toList) (hf : f ∈ (op.perform kb).facts)
    (hg : g ∈ (op.perform kb).facts) : [f, g].Sublist (op.perform kb).facts.toList := by
  obtain ⟨added, e, -⟩ := exists_added op kb
  have hkeep : [f, g].filter (!op.clears ·) = [f, g] := by
    rw [mem_perform_iff (h.subset (by simp))] at hf hg
    simp [hf, hg]
  rw [e]
  exact (hkeep ▸ h.filter _).trans (List.sublist_append_left _ _)

theorem rules_perform (op : Operation) (kb : KnowledgeBase) : (op.perform kb).rules = kb.rules ++ op.newRules := by
  cases op with
  | addRule r => rfl
  | saturate n => exact (run_saturate n kb).rules_eq.trans (List.append_nil _).symm
  | assign x v => exact (rules_assign kb x v).trans (List.append_nil _).symm
  | _ => exact (List.append_nil _).symm

/-- Deduction adds ground facts only. -/
theorem isGround_or_mem_of_mem_perform (hd : op.deduces = true) (hf : f ∈ (op.perform kb).facts) :
    f.isGround = true ∨ f ∈ kb.facts := by
  cases op with
  | forwardChain => exact isGround_or_mem_of_mem_next hf
  | saturate n => exact (run_saturate n kb).isGround_or_mem hf
  | _ => cases hd

end Operation

/-! ## Runs of operations -/

/-- The knowledge base after operations, one after another. -/
def KnowledgeBase.after (kb : KnowledgeBase) (ops : List Operation) : KnowledgeBase :=
  ops.foldl (fun kb op => op.perform kb) kb

/-- What a run of operations leaves of a knowledge base. -/
structure KnowledgeBase.Orderly (kb : KnowledgeBase) (ops : List Operation) : Prop where
  distinct : (kb.after ops).facts.toList.Nodup
  ground_stays : ∀ f ∈ kb.facts, f.isGround = true → f ∈ (kb.after ops).facts
  /-- A fact that is lost is lost at the assignment of one of its variables. -/
  lost : ∀ f ∈ kb.facts, f ∉ (kb.after ops).facts → ∃ before x v rest, ops = before ++ .assign x v :: rest ∧
    x ∈ f.vars ∧ f ∈ (kb.after before).facts ∧ f ∉ ((kb.after before).assign x v).facts
  /-- Two facts that stay at every moment keep their order. -/
  order : ∀ f g, [f, g].Sublist kb.facts.toList →
    (∀ before, before <+: ops → f ∈ (kb.after before).facts ∧ g ∈ (kb.after before).facts) →
      [f, g].Sublist (kb.after ops).facts.toList
  rules : (kb.after ops).rules = kb.rules ++ ops.flatMap Operation.newRules
  /-- What deduction adds at any moment is ground. -/
  deduced : ∀ before op rest, ops = before ++ op :: rest → op.deduces = true →
    ∀ f ∈ (op.perform (kb.after before)).facts, f ∉ (kb.after before).facts → f.isGround = true

section Runs

variable {kb : KnowledgeBase} {f g : Fact}

theorem mem_after_of_isGround (hg : f.isGround = true) : ∀ {ops : List Operation} {kb : KnowledgeBase}, f ∈ kb.facts →
    f ∈ (kb.after ops).facts
  | [], _, hf => hf
  | op :: ops, kb, hf => by
    have hkept : op.clears f = false := by
      rw [Bool.eq_false_iff]
      intro hc
      obtain ⟨x, v, -, hx⟩ := Operation.exists_assign_of_clears hc
      rw [Fact.isGround_iff.mp hg] at hx
      cases hx
    have hstep : f ∈ (op.perform kb).facts := (Operation.mem_perform_iff hf).mpr hkept
    have hrest : f ∈ ((op.perform kb).after ops).facts := mem_after_of_isGround hg hstep
    exact hrest

theorem exists_assign_of_not_mem_after : ∀ {ops : List Operation} {kb : KnowledgeBase}, f ∈ kb.facts →
    f ∉ (kb.after ops).facts → ∃ before x v rest, ops = before ++ .assign x v :: rest ∧
      x ∈ f.vars ∧ f ∈ (kb.after before).facts ∧ f ∉ ((kb.after before).assign x v).facts
  | [], _, hf, hn => absurd hf hn
  | op :: ops, kb, hf, hn => by
    by_cases hstep : f ∈ (op.perform kb).facts
    · obtain ⟨before, x, v, rest, rfl, h⟩ := exists_assign_of_not_mem_after hstep hn
      exact ⟨op :: before, x, v, rest, rfl, h⟩
    · have hc : op.clears f = true := by simpa [Operation.mem_perform_iff hf] using hstep
      obtain ⟨x, v, rfl, hx⟩ := Operation.exists_assign_of_clears hc
      exact ⟨[], x, v, ops, rfl, hx, hf, hstep⟩

theorem sublist_after : ∀ {ops : List Operation} {kb : KnowledgeBase}, [f, g].Sublist kb.facts.toList →
    (∀ before, before <+: ops → f ∈ (kb.after before).facts ∧ g ∈ (kb.after before).facts) →
      [f, g].Sublist (kb.after ops).facts.toList
  | [], _, h, _ => h
  | op :: ops, kb, h, hstay => by
    have hstep := hstay [op] (List.prefix_append [op] ops)
    have hrest : ∀ before, before <+: ops →
        f ∈ ((op.perform kb).after before).facts ∧ g ∈ ((op.perform kb).after before).facts := fun before hb =>
      hstay (op :: before) (List.cons_prefix_cons.mpr ⟨rfl, hb⟩)
    have hend : [f, g].Sublist ((op.perform kb).after ops).facts.toList :=
      sublist_after (Operation.sublist_perform h hstep.1 hstep.2) hrest
    exact hend

theorem rules_after : ∀ (ops : List Operation) (kb : KnowledgeBase),
    (kb.after ops).rules = kb.rules ++ ops.flatMap Operation.newRules
  | [], kb => (List.append_nil _).symm
  | op :: ops, kb => by
    have ih : ((op.perform kb).after ops).rules = (op.perform kb).rules ++ ops.flatMap Operation.newRules :=
      rules_after ops _
    rw [Operation.rules_perform, List.append_assoc, ← List.flatMap_cons] at ih
    exact ih

end Runs

/-- **What runs of operations leave alone.** After any operations, any further ones keep the facts distinct, lose no
ground fact, lose another fact only by the assignment of one of its variables, keep the order of the facts that stay,
append rules and change none, and add ground facts only where they deduce. -/
theorem orderly_after (kb : KnowledgeBase) (ops further : List Operation) : (kb.after ops).Orderly further where
  distinct := FactSet.nodup _
  ground_stays _ hf hg := mem_after_of_isGround hg hf
  lost _ hf hn := exists_assign_of_not_mem_after hf hn
  order _ _ h hstay := sublist_after h hstay
  rules := rules_after further _
  deduced _ _ _ _ hd _ hf hn := (Operation.isGround_or_mem_of_mem_perform hd hf).resolve_right hn

end LogicGrid
