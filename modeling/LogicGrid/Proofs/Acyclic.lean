import LogicGrid.Proofs.Equations
import Mathlib.Logic.Relation

/-!
# Chains of bindings

A bound variable leads to the variables of its term. Without a cycle a chain passes no variable twice, so it is no
longer than the bindings (`Acyclic.settles`), and `apply` follows every chain to its end (`Acyclic.apply_var`).

* `subst_apply` – under an assignment that satisfies the bindings, applying them changes no value;
* `Acyclic.satisfies_apply` – acyclic bindings are satisfied by their own values.
-/

namespace LogicGrid

open Unification

namespace Substitution

variable {σ : Substitution} {τ ρ : String → Term} {x y : String} {t : Term} {n : Nat}

/-- The variable `y` stands in the term of `x`. -/
def Leads (σ : Substitution) (x y : String) : Prop := ∃ t, σ.get? x = some t ∧ y ∈ t.vars

/-- No chain of bindings leads from a variable back to it. -/
def Acyclic (σ : Substitution) : Prop := ∀ x, ¬Relation.TransGen σ.Leads x x

/-! ## The length of chains -/

/-- Every chain from the variable ends after at most `n` bindings. -/
inductive Settles (σ : Substitution) : Nat → String → Prop
  | free {n : Nat} {x : String} : σ.get? x = none → Settles σ n x
  | bound {n : Nat} {x : String} {t : Term} : σ.get? x = some t → (∀ y ∈ t.vars, Settles σ n y) → Settles σ (n + 1) x

theorem resolve_of_get?_none (h : σ.get? x = none) : ∀ n, σ.resolve n x = .var x
  | 0 => rfl
  | n + 1 => by rw [resolve, h]

theorem resolve_of_get? (h : σ.get? x = some t) (n : Nat) : σ.resolve (n + 1) x = t.subst (σ.resolve n) := by
  rw [resolve, h]

/-- Behind the end of all chains nothing changes. -/
theorem Settles.resolve_succ (h : σ.Settles n x) : σ.resolve (n + 1) x = σ.resolve n x := by
  induction h with
  | free hx => rw [resolve_of_get?_none hx, resolve_of_get?_none hx]
  | bound hx _ ih =>
    rw [resolve_of_get? hx, resolve_of_get? hx]
    exact Term.subst_congr ih

/-- `path` lists variables that lead to `x`, and `k` bindings are left for the chains from `x`. -/
theorem Acyclic.settles_of_path (h : σ.Acyclic) : ∀ (k : Nat) {path : List String} {x : String}, path.Nodup →
    path ⊆ σ.bindings.map (·.1) → (∀ p ∈ path, Relation.TransGen σ.Leads p x) → σ.size ≤ path.length + k →
      σ.Settles k x := by
  intro k path x hn hsub hp hk
  cases hx : σ.get? x with
  | none => exact .free hx
  | some t =>
    have hnot : x ∉ path := fun hm => h x (hp x hm)
    have hn' : (x :: path).Nodup := List.nodup_cons.mpr ⟨hnot, hn⟩
    have hsub' : x :: path ⊆ σ.bindings.map (·.1) :=
      List.cons_subset.mpr ⟨List.mem_map_of_mem ((get?_eq_some_iff σ).mp hx), hsub⟩
    have hle : path.length + 1 ≤ σ.size := by
      have hlen := hn'.length_le_of_subset hsub'
      simpa [size] using hlen
    cases k with
    | zero => omega
    | succ k =>
      refine .bound hx fun y hy => h.settles_of_path k hn' hsub' (List.forall_mem_cons.mpr ⟨?_, fun p hm => ?_⟩) ?_
      · exact .single ⟨t, hx, hy⟩
      · exact (hp p hm).tail ⟨t, hx, hy⟩
      · simp only [List.length_cons]
        omega

/-- No chain is longer than the bindings. -/
theorem Acyclic.settles (h : σ.Acyclic) (x : String) : σ.Settles σ.size x :=
  h.settles_of_path σ.size .nil (List.nil_subset _) nofun (by simp)

/-- **A bound variable has the value of its term.** -/
theorem Acyclic.apply_var (h : σ.Acyclic) (hx : σ.get? x = some t) : σ.apply (.var x) = σ.apply t := by
  show (Term.var x).subst (σ.resolve σ.size) = t.subst (σ.resolve σ.size)
  rw [Term.subst_var, ← (h.settles x).resolve_succ, resolve_of_get? hx]

/-! ## Assignments that satisfy bindings -/

theorem subst_resolve (h : Satisfies τ σ.bindings) : ∀ (n : Nat) (x : String), (σ.resolve n x).subst τ = τ x
  | 0, x => Term.subst_var x
  | n + 1, x => by
    cases hx : σ.get? x with
    | none => rw [resolve_of_get?_none hx, Term.subst_var]
    | some t =>
      have ht : τ x = t.subst τ := h (x, t) ((get?_eq_some_iff σ).mp hx)
      rw [resolve_of_get? hx, Term.subst_subst, ht]
      exact Term.subst_congr fun y _ => subst_resolve h n y

theorem subst_apply (h : Satisfies τ σ.bindings) (t : Term) : (σ.apply t).subst τ = t.subst τ := by
  rw [apply, Term.subst_subst]
  exact Term.subst_congr fun x _ => subst_resolve h σ.size x

theorem Acyclic.satisfies_apply (h : σ.Acyclic) (ρ : String → Term) :
    Satisfies (fun x => (σ.apply (.var x)).subst ρ) σ.bindings := by
  rintro ⟨x, t⟩ hb
  show (σ.apply (.var x)).subst ρ = _
  rw [h.apply_var ((get?_eq_some_iff σ).mpr hb), apply, Term.subst_subst]
  exact Term.subst_congr fun y _ => by rw [apply, Term.subst_var]

/-- The values of the variables are an assignment that satisfies the bindings. -/
theorem Acyclic.satisfies_resolve (h : σ.Acyclic) : Satisfies (σ.resolve σ.size) σ.bindings := by
  simpa [apply] using h.satisfies_apply .var

/-- Acyclic bindings have a ground solution. -/
theorem Acyclic.exists_satisfies (h : σ.Acyclic) : ∃ τ, (∀ x, (τ x).isGround = true) ∧ Satisfies τ σ.bindings := by
  refine ⟨_, fun x => ?_, h.satisfies_apply fun _ => .const ""⟩
  rw [Term.isGround_iff, Term.vars_subst]
  simp

end Substitution

end LogicGrid
