import LogicGrid.Proofs.Descent
import LogicGrid.Proofs.LeastModel
import LogicGrid.Proofs.Operations

/-!
# Assignments, exactly

An assignment puts a term in for a variable in every fact, which is to apply the substitution that binds this variable
alone (`Fact.apply_of_bind?`). The facts that mention the variable are taken out first, and their instances come in one
by one: an instance that is equal to a fact that stayed, or to an earlier instance, is not taken in again
(`KnowledgeBase.toList_assign`). As a set, the facts are the image of those of before (`toSet_assign`), so they are not
more (`size_assign_le`), and values without variables may be assigned in either order (`toSet_assign_comm`).

* `assign_exact` – what an assignment counts, which facts it leaves, and in which order.
-/

namespace LogicGrid

open KnowledgeBase

/-! ## Replacing variables -/

section Replace

variable {x y : String} {v w : Term}

/-- Values that do not mention the other variable may be put in for two variables in either order. -/
theorem Term.replace_comm (hxy : x ≠ y) (hv : y ∉ v.vars) (hw : x ∉ w.vars) (t : Term) :
    (t.replace x v).replace y w = (t.replace y w).replace x v := by
  have hvw : v.replace y w = v := replace_of_not_mem hv
  have hwv : w.replace x v = w := replace_of_not_mem hw
  rw [replace, replace, replace, replace, subst_subst, subst_subst]
  refine subst_congr fun z _ => ?_
  by_cases hx : z = x
  · have hy : z ≠ y := fun e => hxy (hx.symm.trans e)
    rw [if_pos hx, if_neg hy, subst_var, if_pos hx]
    exact hvw
  · by_cases hy : z = y
    · rw [if_neg hx, if_pos hy, subst_var, if_pos hy]
      exact hwv.symm
    · rw [if_neg hx, if_neg hy, subst_var, subst_var, if_neg hx, if_neg hy]

theorem Fact.replace_comm (hxy : x ≠ y) (hv : y ∉ v.vars) (hw : x ∉ w.vars) (f : Fact) :
    (f.replace x v).replace y w = (f.replace y w).replace x v := by
  simp only [replace, List.map_map, Function.comp_def, Term.replace_comm hxy hv hw]

@[simp] theorem Substitution.apply_empty (t : Term) : empty.apply t = t := Term.subst_var_id t

/-- To replace a variable is to apply the substitution that binds it alone. -/
theorem Fact.apply_of_bind? {σ : Substitution} (h : Substitution.empty.bind? x v = some σ) (f : Fact) :
    f.apply σ = f.replace x v := by
  obtain ⟨hx, hxv, rfl⟩ := Substitution.bind?_eq_some_iff.mp h
  rw [Substitution.apply_empty] at hxv ⊢
  have happly : ∀ t, (Substitution.empty.insert x v).apply t = t.replace x v := fun t => by
    rw [Substitution.acyclic_empty.apply_insert hx (fun _ _ => rfl) hxv, Substitution.apply_empty]
  exact congrArg (Fact.mk f.predicate) (List.map_congr_left fun t _ => happly t)

end Replace

/-! ## One assignment -/

namespace KnowledgeBase

variable {kb : KnowledgeBase} {x y : String} {v w : Term}

theorem filter_mentions (fs : List Fact) (x : String) : fs.filter (·.mentions x) = fs.filter (x ∈ ·.vars) :=
  List.filter_congr fun f _ => by rw [Bool.eq_iff_iff, Fact.mentions_iff, decide_eq_true_iff]

theorem filter_not_mentions (fs : List Fact) (x : String) :
    (fs.filter fun f => !f.mentions x) = fs.filter (x ∉ ·.vars) :=
  List.filter_congr fun f _ => by
    rw [Bool.eq_iff_iff, Bool.not_eq_true', ← Bool.not_eq_true, Fact.mentions_iff, decide_eq_true_iff]

/-- The facts without the variable stay in front; the instances of the others that are not among them come in behind,
each where it occurs first. -/
theorem toList_assign (hv : x ∉ v.vars) (kb : KnowledgeBase) :
    (kb.assign x v).facts.toList = kb.facts.toList.filter (x ∉ ·.vars) ++
      (((kb.facts.toList.filter (x ∈ ·.vars)).map (·.replace x v)).filter
        (· ∉ kb.facts.toList.filter (x ∉ ·.vars))).eraseDups := by
  have hnot : ¬v.occurs x = true := mt Term.occurs_iff.mp hv
  have hkept : (kb.facts.filter fun f => !f.mentions x).toList = kb.facts.toList.filter (x ∉ ·.vars) :=
    filter_not_mentions _ x
  rw [assign, if_neg hnot]
  show ((kb.facts.filter fun f => !f.mentions x).insertAll _).toList = _
  rw [FactSet.toList_insertAll, filter_mentions]
  simp only [FactSet.mem_def, hkept]

/-- **The facts are the image of those of before.** -/
theorem toSet_assign (hv : x ∉ v.vars) (kb : KnowledgeBase) :
    (kb.assign x v).facts.toSet = (·.replace x v) '' kb.facts.toSet :=
  Set.ext fun _ => mem_assign_iff hv

theorem size_assign_le (hv : x ∉ v.vars) (kb : KnowledgeBase) : (kb.assign x v).facts.size ≤ kb.facts.size := by
  have himage := Set.encard_image_le (·.replace x v) kb.facts.toSet
  rw [← toSet_assign hv, FactSet.encard_toSet, FactSet.encard_toSet] at himage
  exact_mod_cast himage

theorem assigned_eq (hv : x ∉ v.vars) (kb : KnowledgeBase) :
    kb.assigned x v = (kb.facts.toList.filter (x ∈ ·.vars)).length := by
  rw [assigned, if_neg (mt Term.occurs_iff.mp hv), List.countP_eq_length_filter, filter_mentions]

/-- Values that do not mention the other variable may be assigned in either order. -/
theorem toSet_assign_comm (hxy : x ≠ y) (hxv : x ∉ v.vars) (hyv : y ∉ v.vars) (hxw : x ∉ w.vars) (hyw : y ∉ w.vars)
    (kb : KnowledgeBase) :
    ((kb.assign x v).assign y w).facts.toSet = ((kb.assign y w).assign x v).facts.toSet := by
  rw [toSet_assign hyw, toSet_assign hxv, toSet_assign hxv, toSet_assign hyw, Set.image_image, Set.image_image]
  exact Set.image_congr fun f _ => Fact.replace_comm hxy hyv hxw f

/-- What the assignment of `v` to `x` makes of a knowledge base. -/
structure Assigned (kb kb' : KnowledgeBase) (x : String) (v : Term) : Prop where
  /-- The facts without the variable, and behind them the instances of the others that are new, each once. -/
  toList_eq : kb'.facts.toList = kb.facts.toList.filter (x ∉ ·.vars) ++
    (((kb.facts.toList.filter (x ∈ ·.vars)).map (·.replace x v)).filter
      (· ∉ kb.facts.toList.filter (x ∉ ·.vars))).eraseDups
  image : kb'.facts.toSet = (·.replace x v) '' kb.facts.toSet
  /-- An instance is what the substitution makes of the fact that binds the variable alone. -/
  applied : ∃ σ, Substitution.empty.bind? x v = some σ ∧ ∀ f : Fact, f.apply σ = f.replace x v
  free : ∀ f ∈ kb'.facts, x ∉ f.vars
  nodup : kb'.facts.toList.Nodup
  size_le : kb'.facts.size ≤ kb.facts.size
  rules_eq : kb'.rules = kb.rules
  maxFacts_eq : kb'.maxFacts = kb.maxFacts

theorem assigned_assign (hv : x ∉ v.vars) (kb : KnowledgeBase) : Assigned kb (kb.assign x v) x v where
  toList_eq := toList_assign hv kb
  image := toSet_assign hv kb
  applied := by
    have hbind : Substitution.empty.bind? x v = some (Substitution.empty.insert x (Substitution.empty.apply v)) :=
      Substitution.bind?_eq_some_iff.mpr ⟨rfl, by rwa [Substitution.apply_empty], rfl⟩
    exact ⟨_, hbind, Fact.apply_of_bind? hbind⟩
  free _ := not_mem_vars_of_mem_assign hv
  nodup := FactSet.nodup _
  size_le := size_assign_le hv kb
  rules_eq := rules_assign kb x v
  maxFacts_eq := maxFacts_assign kb x v

/-- **An assignment, exactly.** A term that mentions the variable is not assigned, and nothing changes. Any other term
is put in for the variable in the facts that mention it, which are counted: no fact mentions it any more, the facts are
the image of those of before, in the order in which they stayed or came in, and not more than before. Two variables may
be assigned terms without variables in either order. -/
theorem assign_exact (kb : KnowledgeBase) (x : String) (v : Term) :
    (x ∈ v.vars → kb.assigned x v = 0 ∧ kb.assign x v = kb) ∧
    (x ∉ v.vars → kb.assigned x v = (kb.facts.toList.filter (x ∈ ·.vars)).length ∧ Assigned kb (kb.assign x v) x v) ∧
    ∀ y w, x ≠ y → v.isGround = true → w.isGround = true →
      ((kb.assign x v).assign y w).facts.toSet = ((kb.assign y w).assign x v).facts.toSet := by
  refine ⟨fun hv => ⟨if_pos (Term.occurs_iff.mpr hv), assign_of_mem hv⟩,
    fun hv => ⟨assigned_eq hv kb, assigned_assign hv kb⟩, fun y w hxy hv hw => ?_⟩
  have hvars : ∀ {t : Term} {z : String}, t.isGround = true → z ∉ t.vars := fun ht => by
    rw [Term.isGround_iff.mp ht]
    exact List.not_mem_nil
  exact toSet_assign_comm hxy (hvars hv) (hvars hv) (hvars hw) (hvars hw) kb

/-- The facts `p(X)`, `q(f(X), Y)`, `p(a)` and `r(X, X)`. -/
def crowdedRow : KnowledgeBase := .ofContents [⟨"p", [.var "X"]⟩, ⟨"q", [.app "f" [.var "X"], .var "Y"]⟩,
  ⟨"p", [.const "a"]⟩, ⟨"r", [.var "X", .var "X"]⟩] []

/-- Of the three facts with `X`, one becomes equal to the fact `p(a)`, which stays in front. -/
theorem assign_exact_crowdedRow : crowdedRow.assigned "X" (.const "a") = 3 ∧
    (crowdedRow.assign "X" (.const "a")).facts.toList = [⟨"p", [.const "a"]⟩,
      ⟨"q", [.app "f" [.const "a"], .var "Y"]⟩, ⟨"r", [.const "a", .const "a"]⟩] ∧
    crowdedRow.assign "X" (.app "f" [.var "X"]) = crowdedRow ∧
    ((crowdedRow.assign "X" (.const "a")).assign "Y" (.const "b")).facts.toSet =
      ((crowdedRow.assign "Y" (.const "b")).assign "X" (.const "a")).facts.toSet := by
  obtain ⟨-, hassign, hcomm⟩ := assign_exact crowdedRow "X" (.const "a")
  obtain ⟨hcount, hassigned⟩ := hassign (by decide)
  have hself := (assign_exact crowdedRow "X" (.app "f" [.var "X"])).1 (by decide)
  refine ⟨hcount.trans (by decide), hassigned.toList_eq.trans (by decide), hself.2, hcomm "Y" (.const "b") ?_ ?_ ?_⟩
  · decide
  · decide
  · decide

end KnowledgeBase

end LogicGrid
