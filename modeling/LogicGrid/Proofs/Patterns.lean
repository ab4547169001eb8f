import LogicGrid.Proofs.Symmetry

/-!
# Patterns

A pattern is a term that mentions each of its variables once and none that the other term or the bindings mention.
Against a pattern unification misses nothing. The equations that arise keep their sides *apart*: no variable is met
twice on the left, and none of the left ones on the right. A move keeps this (`Apart.split`, `Apart.determine`), so a
variable meets neither itself nor a term around it, and sides with a common value never clash. In general a variable
that meets itself is refused, so unification may fail where the terms are equal already.

* `exists_solve_of_apart` – equations with their sides apart that some assignment equalizes have a solution;
* `unify?_eq_none_iff_of_fresh` – a pattern does not unify exactly when no assignment unifies it.
-/

namespace LogicGrid

open Unification Substitution

namespace Unification

variable {τ : String → Term} {x : String} {t : Term} {e : Equation} {es new : List Equation}

/-- No variable stands twice on the left, and none of the left ones on the right. -/
structure Apart (es : List Equation) : Prop where
  linear : (lefts es).Nodup
  disjoint : (lefts es).Disjoint (rights es)

theorem Apart.split (h : Apart (e :: es)) (hr : e.reduce = .split new) : Apart (new ++ es) := by
  have hl : lefts (new ++ es) = lefts (e :: es) := by
    rw [lefts_append, lefts_cons, (sides_split hr).1]
  have hrs : rights (new ++ es) = rights (e :: es) := by
    rw [rights_append, rights_cons, (sides_split hr).2]
  exact ⟨hl ▸ h.linear, hl ▸ hrs ▸ h.disjoint⟩

/-- The sides of the first equation have no variable in common with each other and with the left sides behind it. -/
theorem Apart.uncons (h : Apart (e :: es)) :
    (e.1.vars.Disjoint e.2.vars ∧ e.1.vars.Disjoint (lefts es) ∧ e.2.vars.Disjoint (lefts es)) ∧ Apart es := by
  obtain ⟨hlinear, hdisjoint⟩ := h
  rw [lefts_cons, List.nodup_append'] at hlinear
  rw [lefts_cons, rights_cons, List.disjoint_append_left, List.disjoint_append_right,
    List.disjoint_append_right] at hdisjoint
  exact ⟨⟨hdisjoint.1.1, hlinear.2.2, hdisjoint.2.1.symm⟩, hlinear.2.1, hdisjoint.2.2⟩

theorem lefts_eliminate (hx : x ∉ lefts es) : lefts (eliminate x t es) = lefts es := by
  rw [lefts, lefts, eliminate, List.flatMap_map]
  refine List.flatMap_congr fun e he => ?_
  exact congrArg Term.vars (Term.replace_of_not_mem fun hm => hx (List.mem_flatMap.mpr ⟨e, he, hm⟩))

theorem rights_eliminate_subset (x : String) (t : Term) (es : List Equation) :
    rights (eliminate x t es) ⊆ rights es ++ t.vars := by
  intro y hy
  obtain ⟨e', he', hy⟩ := List.mem_flatMap.mp hy
  obtain ⟨e, he, rfl⟩ := List.mem_map.mp he'
  rcases Term.mem_vars_replace.mp hy with ⟨hy, -⟩ | ⟨-, hy⟩
  · exact List.mem_append_left _ (List.mem_flatMap.mpr ⟨e, he, hy⟩)
  · exact List.mem_append_right _ hy

theorem apart_eliminate (h : Apart es) (hx : x ∉ lefts es) (ht : t.vars.Disjoint (lefts es)) :
    Apart (eliminate x t es) := by
  have hlefts : lefts (eliminate x t es) = lefts es := lefts_eliminate hx
  refine ⟨hlefts.symm ▸ h.linear, fun y hl hr => ?_⟩
  rw [hlefts] at hl
  rcases List.mem_append.mp (rights_eliminate_subset x t es hr) with hr | hr
  · exact h.disjoint hl hr
  · exact ht hr hl

/-- A determined variable is on no left side behind it, and neither are the variables of its term. -/
theorem Apart.determine (h : Apart (e :: es)) (hr : e.reduce = .determine x t) : Apart (eliminate x t es) := by
  obtain ⟨⟨-, hleft, hright⟩, hrest⟩ := h.uncons
  rcases (Equation.reduce_eq_determine hr).1 with rfl | rfl
  · exact apart_eliminate hrest (hleft (by simp)) hright
  · exact apart_eliminate hrest (hright (by simp)) hleft

theorem safe_apart : Safe Apart := ⟨fun h _ hl hr => h.uncons.1.1 hl hr, Apart.split, Apart.determine⟩

/-- **Equations with their sides apart that can be equalized have a solution.** -/
theorem exists_solve_of_apart (h : Apart es) (he : Equalizes τ es) : ∃ bs, solve es = some bs :=
  safe_apart.exists_solve h he

end Unification

namespace Substitution

variable {σ : Substitution} {τ : String → Term} {x y : String} {s t : Term}

/-- The term mentions each of its variables once, and none that the other term or the bindings mention. -/
structure Fresh (σ : Substitution) (s t : Term) : Prop where
  linear : s.vars.Nodup
  disjoint : s.vars.Disjoint t.vars
  unmentioned : ∀ x ∈ s.vars, ∀ b ∈ σ.bindings, x ≠ b.1 ∧ x ∉ b.2.vars

/-- Between ground terms and others nothing is shared. -/
theorem fresh_of_isGround (h : s.isGround = true) (σ : Substitution) (t : Term) : σ.Fresh s t := by
  rw [Term.isGround_iff] at h
  exact ⟨by simp [h], by simp [h], by simp [h]⟩

theorem Fresh.unbound (h : σ.Fresh s t) : σ.Unbound s.vars := fun x hx => by
  rw [Option.eq_none_iff_forall_not_mem]
  exact fun u hu => (h.unmentioned x hx (x, u) ((get?_eq_some_iff σ).mp hu)).1 rfl

/-- What a chain of bindings ends with is the variable itself or stands in a bound term. -/
theorem mem_vars_resolve : ∀ {n : Nat} {x : String}, y ∈ (σ.resolve n x).vars → y = x ∨ ∃ b ∈ σ.bindings, y ∈ b.2.vars
  | 0, _, hy => Or.inl (by simpa [resolve] using hy)
  | n + 1, x, hy => by
    cases hx : σ.get? x with
    | none => exact Or.inl (by simpa [resolve_of_get?_none hx] using hy)
    | some u =>
      rw [resolve_of_get? hx, Term.vars_subst, List.mem_flatMap] at hy
      obtain ⟨z, hz, hy⟩ := hy
      rcases mem_vars_resolve hy with rfl | hb
      · exact Or.inr ⟨(x, u), (get?_eq_some_iff σ).mp hx, hz⟩
      · exact Or.inr hb

theorem mem_vars_apply (hy : y ∈ (σ.apply t).vars) : y ∈ t.vars ∨ ∃ b ∈ σ.bindings, y ∈ b.2.vars := by
  rw [apply, Term.vars_subst, List.mem_flatMap] at hy
  obtain ⟨x, hx, hy⟩ := hy
  rcases mem_vars_resolve hy with rfl | hb
  · exact Or.inl hx
  · exact Or.inr hb

/-- A pattern is its own value, and apart from the value of the other term. -/
theorem Fresh.apart (h : σ.Fresh s t) : Apart [(σ.apply s, σ.apply t)] := by
  have hdisjoint : s.vars.Disjoint (σ.apply t).vars := fun x hs ht => by
    rcases mem_vars_apply ht with ht | ⟨b, hb, hx⟩
    · exact h.disjoint hs ht
    · exact (h.unmentioned x hs b hb).2 hx
  rw [h.unbound.apply_eq]
  constructor
  · simpa [lefts] using h.linear
  · simpa [lefts, rights] using hdisjoint

/-- A unifier of the terms is found. -/
theorem Fresh.isSome_unify? (h : σ.Fresh s t) (hτ : Satisfies τ σ.bindings) (he : s.subst τ = t.subst τ) :
    (σ.unify? s t).isSome := by
  have hvalues : Equalizes τ [(σ.apply s, σ.apply t)] := by
    simpa [Equalizes, subst_apply hτ] using he
  obtain ⟨bs, hbs⟩ := exists_solve_of_apart h.apart hvalues
  rw [Substitution.unify?, hbs, Option.map_some, Option.isSome_some]

end Substitution

/-- **Unification with a pattern is complete.** Let one of two terms mention each of its variables once, and none that
the other one or the bindings mention, as a ground term does. Then under acyclic bindings the terms do not unify exactly
when no assignment satisfies the bindings and makes the terms equal. -/
theorem unify?_eq_none_iff_of_fresh {σ : Substitution} {s t : Term} (h : σ.Acyclic)
    (hf : (σ.Fresh s t ∨ σ.Fresh t s) ∨ s.isGround = true ∨ t.isGround = true) :
    σ.unify? s t = none ↔ ∀ τ, Satisfies τ σ.bindings → s.subst τ ≠ t.subst τ := by
  have hfresh : σ.Fresh s t ∨ σ.Fresh t s := by
    rcases hf with hf | hs | ht
    · exact hf
    · exact Or.inl (fresh_of_isGround hs σ t)
    · exact Or.inr (fresh_of_isGround ht σ s)
  rw [← Option.not_isSome_iff_eq_none]
  constructor
  · intro hnone τ hτ he
    rcases hfresh with hf | hf
    · exact hnone (hf.isSome_unify? hτ he)
    · exact hnone (isSome_unify?_comm σ s t ▸ hf.isSome_unify? hτ he.symm)
  · intro hall hsome
    obtain ⟨ρ, hρ⟩ := Option.isSome_iff_exists.mp hsome
    -- the values under a unifier are an assignment
    have hvalues := (h.satisfies_unify? hρ).mp ((h.unify? hρ).satisfies_apply .var)
    exact hall _ hvalues.1 hvalues.2

/-- Under `X` bound to `f(Y)`, the pattern `p(A, g(B))` does not unify with `p(X, X)`, whose value is `p(f(Y), f(Y))`: no
assignment makes `g(B)` and `f(Y)` equal. Its part `p(A, B)` does unify, also as the second term. -/
theorem fresh_chained :
    chained.Acyclic ∧
    chained.Fresh (.app "p" [.var "A", .app "g" [.var "B"]]) (.app "p" [.var "X", .var "X"]) ∧
    (∀ τ, Satisfies τ chained.bindings → (Term.app "p" [.var "A", .app "g" [.var "B"]]).subst τ ≠
      (Term.app "p" [.var "X", .var "X"]).subst τ) ∧
    chained.unify? (.app "p" [.var "X", .var "X"]) (.app "p" [.var "A", .var "B"]) ≠ none := by
  have hbindings : chained.bindings = [("X", .app "f" [.var "Y"])] := rfl
  have hfresh : chained.Fresh (.app "p" [.var "A", .app "g" [.var "B"]]) (.app "p" [.var "X", .var "X"]) :=
    ⟨by simp, by simp [List.Disjoint], by simp [hbindings]⟩
  have hpart : chained.Fresh (.app "p" [.var "A", .var "B"]) (.app "p" [.var "X", .var "X"]) :=
    ⟨by simp, by simp [List.Disjoint], by simp [hbindings]⟩
  have hnone : chained.unify? (.app "p" [.var "A", .app "g" [.var "B"]]) (.app "p" [.var "X", .var "X"]) = none := by
    cbv
  refine ⟨acyclic_chained, hfresh, ?_, fun hn => ?_⟩
  · exact (unify?_eq_none_iff_of_fresh acyclic_chained (.inl (.inl hfresh))).mp hnone
  · -- `A`, `B` and `X` are all `f(Y)`
    let τ : String → Term := fun x => if x = "Y" then .var "Y" else .app "f" [.var "Y"]
    have hτ : Satisfies τ chained.bindings := by simp [Satisfies, hbindings, τ]
    exact (unify?_eq_none_iff_of_fresh acyclic_chained (.inl (.inr hpart))).mp hn τ hτ (by simp [τ])

/-- A term that is no pattern may be refused although it is equal to the other one. -/
example : Substitution.empty.unify? (.var "X") (.var "X") = none := by cbv

end LogicGrid
