import LogicGrid.Proofs.Unifiers

/-!
# Values of terms

Bindings *equate* two terms when no assignment that satisfies the bindings tells the terms apart. A *value* of a term is
a term without bound variables that the bindings equate with it. Neither notion follows a chain of bindings, so a law of
`apply` that compares several rounds of replacement, or replacement under different bindings, needs no second induction
on chains: more bindings equate more (`Equates.mono`), and acyclic ones equate what they give one value
(`Acyclic.equates_iff`).

* `Acyclic.isValue_iff` – under acyclic bindings a term has one value, the one that `apply` gives;
* `Acyclic.apply_apply_of_subset` – bindings that are added later give a term and its earlier value one value;
* `values_of_acyclic` – so a value is its own value, under the bindings and under every part of them.
-/

namespace LogicGrid

open Unification

namespace Substitution

variable {σ ρ : Substitution} {xs : List String} {s t v : Term}

/-! ## Terms that bindings equate -/

/-- No assignment that satisfies the bindings tells the terms apart. -/
def Equates (σ : Substitution) (s t : Term) : Prop := ∀ τ, Satisfies τ σ.bindings → s.subst τ = t.subst τ

/-- A term is equated with what `apply` gives, also under a cycle, where this may hold bound variables. -/
theorem equates_apply (σ : Substitution) (t : Term) : σ.Equates (σ.apply t) t := fun _ hτ => subst_apply hτ t

/-- More bindings equate more. -/
theorem Equates.mono (h : σ.Equates s t) (hsub : σ.bindings ⊆ ρ.bindings) : ρ.Equates s t := fun τ hτ =>
  h τ fun b hb => hτ b (hsub hb)

/-- **Acyclic bindings equate exactly the terms to which they give one value.** -/
theorem Acyclic.equates_iff (h : σ.Acyclic) : σ.Equates s t ↔ σ.apply s = σ.apply t := by
  constructor
  · -- the values of the variables are one of the assignments
    intro hst
    exact hst _ h.satisfies_resolve
  · intro he τ hτ
    calc s.subst τ = (σ.apply s).subst τ := (subst_apply hτ s).symm
      _ = (σ.apply t).subst τ := by rw [he]
      _ = t.subst τ := subst_apply hτ t

/-! ## Values -/

/-- What a value of a term is. -/
structure IsValue (σ : Substitution) (t v : Term) : Prop where
  /-- It holds no bound variable. -/
  unbound : σ.Unbound v.vars
  /-- It is equated with the term. -/
  equates : σ.Equates v t

/-- **A term has one value, and `apply` gives it.** -/
theorem Acyclic.isValue_iff (h : σ.Acyclic) : σ.IsValue t v ↔ σ.apply t = v := by
  constructor
  · intro hv
    calc σ.apply t = σ.apply v := (h.equates_iff.mp hv.equates).symm
      _ = v := hv.unbound.apply_eq
  · rintro rfl
    exact ⟨h.unbound_apply t, equates_apply σ t⟩

/-! ## Bindings and a part of them -/

/-- A part of acyclic bindings is acyclic. -/
theorem Acyclic.of_subset (h : ρ.Acyclic) (hsub : σ.bindings ⊆ ρ.bindings) : σ.Acyclic := fun x hx =>
  h x (Relation.TransGen.mono (fun _ _ ⟨t, ht, hy⟩ => ⟨t, get?_of_subset hsub ht, hy⟩) x x hx)

/-- A part binds no other variable. -/
theorem Unbound.of_subset (h : ρ.Unbound xs) (hsub : σ.bindings ⊆ ρ.bindings) : σ.Unbound xs := by
  intro x hx
  refine Option.eq_none_iff_forall_ne_some.mpr fun t ht => ?_
  have hbound : ρ.get? x = some t := get?_of_subset hsub ht
  simp [h x hx] at hbound

/-- **The value under a part of the bindings has the value of the term.** -/
theorem Acyclic.apply_apply_of_subset (h : ρ.Acyclic) (hsub : σ.bindings ⊆ ρ.bindings) (t : Term) :
    ρ.apply (σ.apply t) = ρ.apply t :=
  h.equates_iff.mp ((equates_apply σ t).mono hsub)

/-- The part has nothing to replace in a value. -/
theorem Acyclic.apply_of_subset_apply (h : ρ.Acyclic) (hsub : σ.bindings ⊆ ρ.bindings) (t : Term) :
    σ.apply (ρ.apply t) = ρ.apply t :=
  ((h.unbound_apply t).of_subset hsub).apply_eq

end Substitution

open Substitution

/-- **Acyclic bindings give every term one value.** It holds no bound variable, applying the bindings again changes
nothing, and it is the only term without bound variables that the bindings equate with the term. A part of the bindings
is acyclic as well. Applied first, it makes no difference to the value, and applied to the value it changes nothing. -/
theorem values_of_acyclic :
    (∀ σ : Substitution, σ.Acyclic → ∀ t,
      σ.Unbound (σ.apply t).vars ∧ σ.apply (σ.apply t) = σ.apply t ∧ ∀ v, σ.IsValue t v ↔ σ.apply t = v) ∧
    ∀ σ ρ : Substitution, ρ.Acyclic → σ.bindings ⊆ ρ.bindings →
      σ.Acyclic ∧ ∀ t, ρ.apply (σ.apply t) = ρ.apply t ∧ σ.apply (ρ.apply t) = ρ.apply t := by
  constructor
  · intro σ h t
    -- the bindings are a part of themselves
    have htwice : σ.apply (σ.apply t) = σ.apply t := h.apply_apply_of_subset (List.Subset.refl σ.bindings) t
    exact ⟨h.unbound_apply t, htwice, fun v => h.isValue_iff⟩
  · intro σ ρ h hsub
    exact ⟨h.of_subset hsub, fun t => ⟨h.apply_apply_of_subset hsub t, h.apply_of_subset_apply hsub t⟩⟩

/-- The binding of `X` to `f(Y)`, and one of `Y` to `g(Z)` added by a unification. -/
def prolonged : Substitution := chained.insert "Y" (.app "g" [.var "Z"])

/-- Under the first binding `h(X, Y)` has the value `h(f(Y), Y)`, in which the second one replaces `Y` twice. -/
theorem values_prolonged :
    chained.unify? (.var "X") (.app "f" [.app "g" [.var "Z"]]) = some prolonged ∧
    (prolonged.Acyclic ∧ chained.bindings ⊆ prolonged.bindings) ∧
    chained.apply (.app "h" [.var "X", .var "Y"]) = .app "h" [.app "f" [.var "Y"], .var "Y"] ∧
    prolonged.apply (.app "h" [.app "f" [.var "Y"], .var "Y"]) = prolonged.apply (.app "h" [.var "X", .var "Y"]) ∧
    prolonged.IsValue (.app "h" [.var "X", .var "Y"])
      (.app "h" [.app "f" [.app "g" [.var "Z"]], .app "g" [.var "Z"]]) := by
  have hfree : chained.Unbound (Term.app "g" [.var "Z"]).vars := List.forall_mem_singleton.mpr rfl
  have hac : prolonged.Acyclic := acyclic_chained.insert rfl hfree (by simp)
  have hsub : chained.bindings ⊆ prolonged.bindings := by decide
  have hchained : chained.apply (.app "h" [.var "X", .var "Y"]) = .app "h" [.app "f" [.var "Y"], .var "Y"] := by decide
  have hpart := ((values_of_acyclic.2 chained prolonged hac hsub).2 (.app "h" [.var "X", .var "Y"])).1
  rw [hchained] at hpart
  exact ⟨by cbv, ⟨hac, hsub⟩, hchained, hpart, ((values_of_acyclic.1 prolonged hac _).2.2 _).mpr (by decide)⟩

end LogicGrid
