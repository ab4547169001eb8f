import LogicGrid.Proofs.Cycles

/-!
# Most general unifiers

A substitution keeps its bindings as they were made, so unification under earlier bindings solves the equation between
the *values* of two terms and adds the solution to them. The values hold unbound variables only
(`Acyclic.unbound_apply`), hence the new bindings are of other variables than the old ones, and no cycle arises
(`Acyclic.extend`, one determined variable at a time by `Acyclic.insert`).

* `Acyclic.subst_eq_apply` – acyclic bindings determine their values: an assignment that satisfies them and leaves the
  unbound variables gives every term its value;
* `mostGeneral_extend` – the solution of the equations between the values, added to the bindings, is most general;
* `mostGeneral_of_unify?` – so are the unifiers of two terms under a substitution, and those of two facts.
-/

namespace LogicGrid

open Unification

/-- The equation between the values of the two sides. -/
def Equation.apply (e : Equation) (σ : Substitution) : Equation := (σ.apply e.1, σ.apply e.2)

namespace Substitution

variable {σ σ' : Substitution} {τ : String → Term} {x y : String} {t u : Term} {n : Nat} {es : List Equation}
  {bs : List (String × Term)}

/-! ## Values -/

/-- None of the variables is bound. -/
def Unbound (σ : Substitution) (xs : List String) : Prop := ∀ x ∈ xs, σ.get? x = none

/-- A chain ends with variables that are not bound. -/
theorem Settles.unbound_resolve (h : σ.Settles n x) : σ.Unbound (σ.resolve n x).vars := by
  induction h with
  | free hx => simpa [Unbound, resolve_of_get?_none hx] using hx
  | bound hx _ ih =>
    rw [resolve_of_get? hx, Term.vars_subst]
    exact List.forall_mem_flatMap.mpr ih

theorem Acyclic.unbound_apply (h : σ.Acyclic) (t : Term) : σ.Unbound (σ.apply t).vars := by
  rw [apply, Term.vars_subst]
  exact List.forall_mem_flatMap.mpr fun x _ => (h.settles x).unbound_resolve

/-- A term without bound variables is its own value. -/
theorem Unbound.apply_eq (h : σ.Unbound t.vars) : σ.apply t = t := by
  have hvars : ∀ y ∈ t.vars, σ.resolve σ.size y = .var y := fun y hy => resolve_of_get?_none (h y hy) _
  rw [apply, Term.subst_congr hvars, Term.subst_var_id]

/-- Acyclic bindings determine their values. -/
theorem Acyclic.subst_eq_apply (h : σ.Acyclic) (hs : Satisfies τ σ.bindings) (hτ : ∀ x, σ.get? x = none → τ x = .var x)
    (t : Term) : t.subst τ = σ.apply t :=
  calc t.subst τ = (σ.apply t).subst τ := (subst_apply hs t).symm
    _ = (σ.apply t).subst .var := Term.subst_congr fun y hy => hτ y (h.unbound_apply t y hy)
    _ = σ.apply t := Term.subst_var_id _

theorem satisfies_bindings_iff : Satisfies τ σ.bindings ↔ ∀ x t, σ.get? x = some t → τ x = t.subst τ := by
  simp only [Satisfies, Prod.forall, get?_eq_some_iff]

/-! ## One more binding -/

/-- A binding of an unbound variable to a value without it makes no cycle. -/
theorem Acyclic.insert (h : σ.Acyclic) (hx : σ.get? x = none) (hu : σ.Unbound u.vars) (hxu : x ∉ u.vars) :
    (σ.insert x u).Acyclic := by
  have hnew : ∀ n, ∀ y ∈ u.vars, (σ.insert x u).Settles n y := fun n y hy =>
    .free (by rw [get?_insert, if_neg fun e : y = x => hxu (e ▸ hy), hu y hy])
  have hold : ∀ n y, σ.Settles n y → (σ.insert x u).Settles (n + 1) y := fun n y hy => by
    induction hy with
    | @free n y hy =>
      by_cases e : y = x
      · exact .bound (t := u) (by rw [get?_insert, if_pos e]) (hnew n)
      · exact .free (by rw [get?_insert, if_neg e, hy])
    | @bound n y t hy _ ih =>
      have hne : y ≠ x := fun e => by simp [e, hx] at hy
      exact .bound (by rw [get?_insert, if_neg hne, hy]) ih
  exact acyclic_iff_settles.mpr fun y => ⟨_, hold _ y (h.settles y)⟩

/-- The binding is applied to the values that the terms had before. -/
theorem Acyclic.apply_insert (h : σ.Acyclic) (hx : σ.get? x = none) (hu : σ.Unbound u.vars) (hxu : x ∉ u.vars)
    (t : Term) : (σ.insert x u).apply t = (σ.apply t).replace x u := by
  have hval : ∀ y, σ.get? y = none → (σ.apply (.var y)).replace x u = if y = x then u else .var y := fun y hy => by
    have hfree : σ.Unbound (Term.var y).vars := by simpa [Unbound] using hy
    simp [hfree.apply_eq, Term.replace]
  have hold : Satisfies (fun y => (σ.apply (.var y)).replace x u) σ.bindings := h.satisfies_apply _
  have hs : Satisfies (fun y => (σ.apply (.var y)).replace x u) (σ.insert x u).bindings := by
    refine satisfies_bindings_iff.mpr fun y t hy => ?_
    rw [get?_insert] at hy
    split at hy
    · next e =>
      cases hy
      have hu' : ∀ z ∈ u.vars, (σ.apply (.var z)).replace x u = .var z := fun z hz => by
        rw [hval z (hu z hz), if_neg fun e : z = x => hxu (e ▸ hz)]
      rw [hval y (e ▸ hx), if_pos e, Term.subst_congr hu', Term.subst_var_id]
    · exact satisfies_bindings_iff.mp hold y t hy
  rw [← (h.insert hx hu hxu).subst_eq_apply hs fun y hy => ?_]
  · simp [apply, Term.replace, Term.subst_subst]
  · rw [get?_insert] at hy
    split at hy
    · cases hy
    · next e => rw [hval y hy, if_neg e]

/-! ## A solution added to bindings -/

theorem Acyclic.unbound_values (h : σ.Acyclic) (es : List Equation) : σ.Unbound (vars (es.map (Equation.apply · σ))) := by
  intro y hy
  obtain ⟨e', he', hy⟩ := List.mem_flatMap.mp hy
  obtain ⟨e, _, rfl⟩ := List.mem_map.mp he'
  exact (List.mem_append.mp hy).elim (h.unbound_apply e.1 y) (h.unbound_apply e.2 y)

/-- Equations between unbound variables are between values. -/
theorem Unbound.map_apply_eq (h : σ.Unbound (vars es)) : es.map (Equation.apply · σ) = es := by
  have heach : ∀ e ∈ es, Equation.apply e σ = e := fun e he => by
    have hvars : σ.Unbound e.vars := fun y hy => h y (List.mem_flatMap.mpr ⟨e, he, hy⟩)
    rw [Equation.apply, Unbound.apply_eq fun y hy => hvars y (List.mem_append_left _ hy),
      Unbound.apply_eq fun y hy => hvars y (List.mem_append_right _ hy)]
  exact (List.map_congr_left heach).trans (List.map_id' es)

/-- What is determined is unbound, and so are the variables of the equations that are left. -/
theorem Unbound.determine {e : Equation} (h : σ.Unbound (vars (e :: es))) (hr : e.reduce = .determine x t) :
    σ.get? x = none ∧ σ.Unbound t.vars ∧ (σ.insert x t).Unbound (vars (eliminate x t es)) := by
  obtain ⟨he, hnot⟩ := Equation.reduce_eq_determine hr
  have hvars : x ∈ e.vars ∧ t.vars ⊆ e.vars := by rcases he with rfl | rfl <;> simp [Equation.vars]
  refine ⟨h x (List.mem_append_left _ hvars.1), fun y hy => h y (List.mem_append_left _ (hvars.2 hy)), fun y hy => ?_⟩
  obtain ⟨hne, hy⟩ := mem_vars_eliminate hnot hy
  rw [get?_insert, if_neg hne]
  exact hy.elim (fun hy => h y (List.mem_append_right _ hy)) fun hy => h y (List.mem_append_left _ (hvars.2 hy))

/-- Solving equations between unbound variables makes no cycle. -/
theorem Acyclic.extend (h : σ.Acyclic) (hs : solve es = some bs) (hf : σ.Unbound (vars es)) : (σ.extend bs).Acyclic := by
  fun_induction solve es generalizing σ bs with
  | case1 =>
    cases hs
    exact h
  | case2 => cases hs
  | case3 e es new hr ih => exact ih h hs fun y hy => hf y (vars_split_subset hr hy)
  | case4 e es x t hr ih =>
    obtain ⟨bs', hbs, rfl⟩ := Option.map_eq_some_iff.mp hs
    obtain ⟨hx, ht, hrest⟩ := hf.determine hr
    rw [extend_cons]
    exact ih (h.insert hx ht (Equation.reduce_eq_determine hr).2) hbs hrest

/-- New bindings of unbound variables are satisfied beside the old ones. -/
theorem satisfies_extend_iff (hn : (bs.map (·.1)).Nodup) (hf : σ.Unbound (bs.map (·.1))) :
    Satisfies τ (σ.extend bs).bindings ↔ Satisfies τ σ.bindings ∧ Satisfies τ bs := by
  have hget : ∀ x t, (σ.extend bs).get? x = some t ↔ σ.get? x = some t ∨ (x, t) ∈ bs := fun x t => by
    rw [get?_extend σ hn, ← lookup_eq_some_iff hn]
    cases hx : bs.lookup x with
    | none => simp
    | some u =>
      have hkey : x ∈ bs.map (·.1) := List.mem_map_of_mem ((lookup_eq_some_iff hn).mp hx)
      simp [hf x hkey]
  simp only [Satisfies, Prod.forall, ← get?_eq_some_iff, hget, or_imp, forall_and]

/-- What a most general unifier of equations under earlier bindings is. -/
structure MostGeneral (σ σ' : Substitution) (es : List Equation) : Prop where
  /-- The two sides of every equation have the same value. -/
  unifies : ∀ e ∈ es, σ'.apply e.1 = σ'.apply e.2
  /-- Every earlier binding is kept as it is. -/
  keeps : ∀ x t, σ.get? x = some t → σ'.get? x = some t
  /-- Every other binding is of a variable in a value of before. -/
  adds : ∀ x, σ.get? x = none → σ'.get? x ≠ none → ∃ e ∈ es, x ∈ (σ.apply e.1).vars ∨ x ∈ (σ.apply e.2).vars
  /-- The bindings ask no more of an assignment than the earlier ones and the equations do, and no less. -/
  general : ∀ τ : String → Term, Satisfies τ σ'.bindings ↔
    Satisfies τ σ.bindings ∧ ∀ e ∈ es, e.1.subst τ = e.2.subst τ

/-- **A solution of the equations between values is most general.** -/
theorem mostGeneral_extend (h : σ.Acyclic) (hs : solve (es.map (Equation.apply · σ)) = some bs) :
    σ.MostGeneral (σ.extend bs) es := by
  have hkeys : ∀ x ∈ bs.map (·.1), x ∈ vars (es.map (Equation.apply · σ)) := fun x hx => by
    obtain ⟨b, hb, rfl⟩ := List.mem_map.mp hx
    exact (mem_vars_of_mem_solve hs hb).1
  have hf : σ.Unbound (bs.map (·.1)) := fun x hx => h.unbound_values es x (hkeys x hx)
  have hkeeps : ∀ x t, σ.get? x = some t → (σ.extend bs).get? x = some t := fun x t hx => by
    rw [get?_extend_of_not_mem σ fun hm => by simp [hf x hm] at hx, hx]
  have hgeneral : ∀ τ : String → Term, Satisfies τ (σ.extend bs).bindings ↔
      Satisfies τ σ.bindings ∧ ∀ e ∈ es, e.1.subst τ = e.2.subst τ := fun τ => by
    rw [satisfies_extend_iff (nodup_solve hs) hf, satisfies_iff_equalizes hs]
    refine and_congr_right fun hτ => ?_
    simp only [Equalizes, List.forall_mem_map, Equation.apply, subst_apply hτ]
  have hac : (σ.extend bs).Acyclic := h.extend hs (h.unbound_values es)
  refine ⟨fun e he => ?_, hkeeps, fun x hx hx' => ?_, hgeneral⟩
  · -- the values are an assignment that satisfies the bindings
    exact ((hgeneral _).mp hac.satisfies_resolve).2 e he
  · rw [get?_extend σ (nodup_solve hs), hx, Option.or_none] at hx'
    obtain ⟨t, ht⟩ := Option.ne_none_iff_exists'.mp hx'
    have hm := hkeys x (List.mem_map_of_mem ((lookup_eq_some_iff (nodup_solve hs)).mp ht))
    obtain ⟨e', he', hx⟩ := List.mem_flatMap.mp hm
    obtain ⟨e, he, rfl⟩ := List.mem_map.mp he'
    exact ⟨e, he, List.mem_append.mp hx⟩

/-! ## Unifiers -/

theorem unify?_eq_some_iff {s : Term} : σ.unify? s t = some σ' ↔
    ∃ bs, solve ([(s, t)].map (Equation.apply · σ)) = some bs ∧ σ.extend bs = σ' := Option.map_eq_some_iff

theorem Acyclic.unify? {s : Term} (h : σ.Acyclic) (hu : σ.unify? s t = some σ') : σ'.Acyclic := by
  obtain ⟨bs, hbs, rfl⟩ := unify?_eq_some_iff.mp hu
  exact h.extend hbs (h.unbound_values _)

theorem acyclic_empty : empty.Acyclic := acyclic_of_hasGroundValues rfl

end Substitution

open Substitution

/-- **Unification gives most general unifiers.** Where it succeeds under acyclic bindings, the two terms have one value.
The earlier bindings are kept as they are, and others are added for variables of the values of before only. An
assignment satisfies the result exactly when it satisfies the earlier bindings and makes the terms equal. The same
holds for two facts, with no earlier bindings. -/
theorem mostGeneral_of_unify? :
    (∀ (σ σ' : Substitution) (s t : Term), σ.Acyclic → σ.unify? s t = some σ' →
      σ'.apply s = σ'.apply t ∧
      (∀ x u, σ.get? x = some u → σ'.get? x = some u) ∧
      (∀ x, σ.get? x = none → σ'.get? x ≠ none → x ∈ (σ.apply s).vars ∨ x ∈ (σ.apply t).vars) ∧
      ∀ τ, Satisfies τ σ'.bindings ↔ Satisfies τ σ.bindings ∧ s.subst τ = t.subst τ) ∧
    ∀ (f g : Fact) (σ : Substitution), f.unify? g = some σ →
      f.apply σ = g.apply σ ∧
      (∀ x, σ.get? x ≠ none → x ∈ f.vars ∨ x ∈ g.vars) ∧
      ∀ τ, Satisfies τ σ.bindings ↔ f.args.map (Term.subst τ) = g.args.map (Term.subst τ) := by
  refine ⟨fun σ σ' s t h hu => ?_, fun f g σ hu => ?_⟩
  · obtain ⟨bs, hbs, rfl⟩ := unify?_eq_some_iff.mp hu
    obtain ⟨hunifies, hkeeps, hadds, hgeneral⟩ : σ.MostGeneral (σ.extend bs) [(s, t)] := mostGeneral_extend h hbs
    exact ⟨hunifies (s, t) List.mem_cons_self, hkeeps, fun x hx hx' => by simpa using hadds x hx hx', fun τ => by
      simpa using hgeneral τ⟩
  · obtain ⟨⟨hp, ha⟩, bs, hbs, rfl⟩ := Fact.unify?_eq_some_iff.mp hu
    have hvalues : solve ((f.args.zip g.args).map (Equation.apply · empty)) = some bs := by
      rw [Unbound.map_apply_eq fun _ _ => rfl, hbs]
    obtain ⟨hunifies, -, -, hgeneral⟩ := mostGeneral_extend acyclic_empty hvalues
    refine ⟨?_, fun x hx => ?_, fun τ => ?_⟩
    · rw [Fact.apply_eq_subst, Fact.apply_eq_subst, Fact.subst_eq_iff]
      exact ⟨hp, (equalizes_zip ha).mp hunifies⟩
    · obtain ⟨t, ht⟩ := Option.ne_none_iff_exists'.mp hx
      have hm := (mem_vars_of_mem_solve hbs ((get?_extend_solution hbs).mp ht)).1
      exact List.mem_append.mp (vars_zip_subset _ _ hm)
    · rw [hgeneral, ← equalizes_zip ha]
      exact and_iff_right nofun

/-- One binding, `X` to `f(Y)`. -/
def chained : Substitution := empty.insert "X" (.app "f" [.var "Y"])

theorem acyclic_chained : chained.Acyclic := acyclic_empty.insert rfl (fun _ _ => rfl) (by simp)

/-- Under it `X` and `f(g(Z))` are unified by binding `Y`, and `p(X, X)` and `p(a, Y)` by binding both variables. -/
theorem mostGeneral_chained :
    chained.Acyclic ∧
    chained.unify? (.var "X") (.app "f" [.app "g" [.var "Z"]]) = some (chained.insert "Y" (.app "g" [.var "Z"])) ∧
    (∀ τ, Satisfies τ (chained.insert "Y" (.app "g" [.var "Z"])).bindings ↔
      Satisfies τ chained.bindings ∧ (Term.var "X").subst τ = (Term.app "f" [.app "g" [.var "Z"]]).subst τ) ∧
    ∃ σ, (Fact.mk "p" [.var "X", .var "X"]).unify? ⟨"p", [.const "a", .var "Y"]⟩ = some σ ∧
      (Fact.mk "p" [.var "X", .var "X"]).apply σ = (Fact.mk "p" [.const "a", .var "Y"]).apply σ := by
  have hac : chained.Acyclic := acyclic_empty.insert rfl (fun _ _ => rfl) (by simp)
  have hu : chained.unify? (.var "X") (.app "f" [.app "g" [.var "Z"]]) =
      some (chained.insert "Y" (.app "g" [.var "Z"])) := by cbv
  obtain ⟨σ, hσ⟩ : ∃ σ, (Fact.mk "p" [.var "X", .var "X"]).unify? ⟨"p", [.const "a", .var "Y"]⟩ = some σ :=
    ⟨(empty.insert "X" (.const "a")).insert "Y" (.const "a"), by cbv⟩
  exact ⟨hac, hu, (mostGeneral_of_unify?.1 _ _ _ _ hac hu).2.2.2, σ, hσ, (mostGeneral_of_unify?.2 _ _ _ hσ).1⟩

end LogicGrid
