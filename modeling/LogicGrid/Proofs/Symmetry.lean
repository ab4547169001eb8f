import LogicGrid.Proofs.Unifiers
import Mathlib.Logic.Equiv.Basic

/-!
# Unification from either side

Exchanging the sides of equations changes a run of `solve` only where two variables meet: one run determines `X` by
`Y`, the other one `Y` by `X`, and from there on each of them keeps the name that the other one has replaced. So the
equations of one run are the *mirror images* of those of the other one: sides exchanged, and variables renamed by a
permutation. A variable that is determined by a variable adds their transposition to it (`map_mirror_eliminate_var`);
every other move keeps it. A variable met with itself clashes in both runs, and so does one met with a term around it.

* `isSome_solve_mirror` – equations have a solution exactly when their mirror images have one;
* `Acyclic.apply_eq_of_satisfies` – what satisfying some bindings entails holds of their own values;
* `unify?_symmetric` – two terms, or two facts, unify in either order or in none, with equivalent results.
-/

namespace LogicGrid

open Unification Substitution

/-! ## Renaming -/

namespace Term

variable {π : Equiv.Perm String} {x y : String} {t v : Term}

/-- Renames all variables. -/
def rename (π : Equiv.Perm String) (t : Term) : Term := t.subst fun x => .var (π x)

@[simp] theorem rename_const (c : String) : (const c).rename π = const c := subst_const c
@[simp] theorem rename_var (x : String) : (var x).rename π = var (π x) := subst_var x
@[simp] theorem rename_app (f : String) (args : List Term) : (app f args).rename π = app f (args.map (rename π)) :=
  subst_app f args

@[simp] theorem rename_refl (t : Term) : t.rename (Equiv.refl String) = t := subst_var_id t

theorem vars_rename (π : Equiv.Perm String) (t : Term) : (t.rename π).vars = t.vars.map π := by
  rw [rename, vars_subst]
  simp only [vars_var, ← List.map_eq_flatMap]

/-- Renaming is injective, so it keeps what occurs where. -/
@[simp] theorem mem_vars_rename : π x ∈ (t.rename π).vars ↔ x ∈ t.vars := by
  rw [vars_rename, List.mem_map_of_injective π.injective]

theorem occurs_rename (π : Equiv.Perm String) (x : String) (t : Term) : (t.rename π).occurs (π x) = t.occurs x := by
  rw [Bool.eq_iff_iff, occurs_iff, occurs_iff, mem_vars_rename]

theorem rename_ne_var (h : ∀ y, t ≠ var y) (y : String) : t.rename π ≠ var y := by
  cases t with
  | var x => exact absurd rfl (h x)
  | const c => simp
  | app f args => simp

theorem rename_replace (π : Equiv.Perm String) (x : String) (v t : Term) :
    (t.replace x v).rename π = (t.rename π).replace (π x) (v.rename π) := by
  simp only [rename, replace, subst_subst]
  refine subst_congr fun z _ => ?_
  by_cases hz : z = x <;> simp [hz]

/-- Replacing `x` by `y` or `y` by `x` is the same up to the transposition of their names. -/
theorem rename_swap_replace (π : Equiv.Perm String) (x y : String) (t : Term) :
    (t.replace x (.var y)).rename (π * Equiv.swap x y) = (t.rename π).replace (π y) (.var (π x)) := by
  simp only [rename, replace, subst_subst]
  refine subst_congr fun z _ => ?_
  by_cases hx : z = x
  · by_cases hxy : x = y <;> simp [hx, hxy]
  · by_cases hy : z = y
    · simp [hy]
    · simp [hx, hy, Equiv.swap_apply_of_ne_of_ne]

end Term

namespace Equation

variable {x y : String} {t : Term}

/-- The sides exchanged, and the variables renamed. -/
def mirror (π : Equiv.Perm String) (e : Equation) : Equation := (e.2.rename π, e.1.rename π)

/-- The mirror image of what is left after a move. Where two variables meet, the other one is determined. -/
def Reduction.mirror (π : Equiv.Perm String) : Reduction → Reduction
  | .clash => .clash
  | .split new => .split (new.map (Equation.mirror π))
  | .determine x (.var y) => .determine (π y) (.var (π x))
  | .determine x t => .determine (π x) (t.rename π)

theorem Reduction.mirror_determine (π : Equiv.Perm String) (x : String) (ht : ∀ y, t ≠ .var y) :
    (determine x t).mirror π = determine (π x) (t.rename π) := by
  cases t with
  | var y => exact absurd rfl (ht y)
  | const c => rfl
  | app f args => rfl

theorem reduce_var_left (x : String) (t : Term) :
    reduce (.var x, t) = if t.occurs x then .clash else .determine x t := by
  rw [reduce]

theorem reduce_var_right (ht : ∀ y, t ≠ .var y) (x : String) :
    reduce (t, .var x) = if t.occurs x then .clash else .determine x t := by
  rw [reduce]
  exact fun y e => ht y e

/-- A variable that meets a term of another shape is determined from either side. -/
theorem mirror_reduce_var_left (π : Equiv.Perm String) (x : String) (ht : ∀ y, t ≠ .var y) :
    (reduce (.var x, t)).mirror π = if (t.rename π).occurs (π x) then .clash else .determine (π x) (t.rename π) := by
  rw [reduce_var_left, Term.occurs_rename]
  split
  · rfl
  · exact Reduction.mirror_determine π x ht

theorem zip_mirror (π : Equiv.Perm String) : ∀ as bs : List Term,
    (bs.map (Term.rename π)).zip (as.map (Term.rename π)) = (as.zip bs).map (mirror π)
  | [], bs => by simp
  | _ :: _, [] => by simp
  | a :: as, b :: bs => by
    have ih := zip_mirror π as bs
    simp only [List.map_cons, List.zip_cons_cons, ih]
    rfl

/-- **A move and its mirror image.** -/
theorem reduce_mirror (π : Equiv.Perm String) (e : Equation) : (e.mirror π).reduce = e.reduce.mirror π := by
  obtain ⟨s, u⟩ := e
  cases s with
  | const a =>
    cases u with
    | const b =>
      simp only [mirror, reduce, Term.rename_const, eq_comm (a := b)]
      split <;> rfl
    | var y => rfl
    | app g bs => rfl
  | var x =>
    cases u with
    | const b => rfl
    | var y =>
      -- each side of the mirror determines its own first variable
      simp only [mirror, Term.rename_var, reduce_var_left, Term.occurs, Term.vars_var]
      by_cases h : x = y
      · simp [h, Reduction.mirror]
      · simp [h, Ne.symm h, Reduction.mirror]
    | app g bs =>
      have hshape : ∀ z, Term.app g bs ≠ .var z := fun z => by simp
      rw [mirror, Term.rename_var, reduce_var_right (Term.rename_ne_var hshape), mirror_reduce_var_left π x hshape]
  | app f as =>
    cases u with
    | const b => rfl
    | var y =>
      have hshape : ∀ z, Term.app f as ≠ .var z := fun z => by simp
      rw [mirror, Term.rename_var, reduce_var_left, ← mirror_reduce_var_left π y hshape, reduce_var_left,
        reduce_var_right hshape]
    | app g bs =>
      simp only [mirror, reduce, Term.rename_app, List.length_map, eq_comm (a := g), eq_comm (a := bs.length)]
      split
      · exact congrArg Reduction.split (zip_mirror π as bs)
      · rfl

end Equation

namespace Unification

/-! ## Runs -/

theorem map_mirror_eliminate (π : Equiv.Perm String) (x : String) (t : Term) (es : List Equation) :
    (eliminate x t es).map (.mirror π) = eliminate (π x) (t.rename π) (es.map (.mirror π)) := by
  simp [eliminate, Equation.mirror, Equation.replace, Term.rename_replace]

/-- Eliminating one of two variables is the mirror image of eliminating the other one, under their transposition. -/
theorem map_mirror_eliminate_var (π : Equiv.Perm String) (x y : String) (es : List Equation) :
    (eliminate x (.var y) es).map (.mirror (π * Equiv.swap x y)) =
      eliminate (π y) (.var (π x)) (es.map (.mirror π)) := by
  simp [eliminate, Equation.mirror, Equation.replace, Term.rename_swap_replace]

/-- **Equations have a solution exactly when their mirror images have one.** The induction is on the moves of `solve`, for
all permutations at once. -/
theorem isSome_solve_mirror (π : Equiv.Perm String) (es : List Equation) :
    (solve (es.map (.mirror π))).isSome = (solve es).isSome := by
  fun_induction solve es generalizing π with
  | case1 => rw [List.map_nil, solve]
  | case2 e es hr =>
    have hm : (e.mirror π).reduce = .clash := by rw [Equation.reduce_mirror, hr]; rfl
    rw [List.map_cons, solve_of_clash hm]
  | case3 e es new hr ih =>
    have hm : (e.mirror π).reduce = .split (new.map (.mirror π)) := by rw [Equation.reduce_mirror, hr]; rfl
    rw [List.map_cons, solve_of_split hm, ← List.map_append, ih]
  | case4 e es x t hr ih =>
    rw [List.map_cons, Option.isSome_map]
    by_cases hvar : ∃ y, t = .var y
    · obtain ⟨y, rfl⟩ := hvar
      have hm : (e.mirror π).reduce = .determine (π y) (.var (π x)) := by rw [Equation.reduce_mirror, hr]; rfl
      rw [solve_of_determine hm, Option.isSome_map, ← map_mirror_eliminate_var, ih]
    · have hm : (e.mirror π).reduce = .determine (π x) (t.rename π) := by
        rw [Equation.reduce_mirror, hr, Equation.Reduction.mirror_determine π x (not_exists.mp hvar)]
      rw [solve_of_determine hm, Option.isSome_map, ← map_mirror_eliminate, ih]

/-- The sides exchanged, with all names as they are. -/
theorem mirror_refl (e : Equation) : e.mirror (Equiv.refl String) = e.swap := by
  simp [Equation.mirror, Prod.swap]

theorem isSome_solve_swap (es : List Equation) : (solve (es.map Prod.swap)).isSome = (solve es).isSome := by
  rw [← isSome_solve_mirror (Equiv.refl String) es]
  simp only [funext mirror_refl]

end Unification

/-! ## Unifiers -/

namespace Substitution

variable {σ ρ ρ' : Substitution}

theorem isSome_unify?_comm (σ : Substitution) (s t : Term) : (σ.unify? s t).isSome = (σ.unify? t s).isSome := by
  rw [Substitution.unify?, Substitution.unify?, Option.isSome_map, Option.isSome_map]
  exact isSome_solve_swap [(σ.apply t, σ.apply s)]

/-- The bindings of each make the two sides of every binding of the other equal. -/
structure Equivalent (ρ ρ' : Substitution) : Prop where
  left : ∀ x t, ρ'.get? x = some t → ρ.apply (.var x) = ρ.apply t
  right : ∀ x t, ρ.get? x = some t → ρ'.apply (.var x) = ρ'.apply t

/-- Bindings that are satisfied along with acyclic ones hold of the values of these. -/
theorem Acyclic.apply_eq_of_satisfies (h : ρ.Acyclic)
    (hs : ∀ τ, Satisfies τ ρ.bindings → Satisfies τ ρ'.bindings) {x : String} {t : Term} (hx : ρ'.get? x = some t) :
    ρ.apply (.var x) = ρ.apply t := by
  have heq : ρ.resolve ρ.size x = ρ.apply t := satisfies_bindings_iff.mp (hs _ h.satisfies_resolve) x t hx
  exact (Term.subst_var x).trans heq

theorem equivalent_of_satisfies_iff (h : ρ.Acyclic) (h' : ρ'.Acyclic)
    (hs : ∀ τ, Satisfies τ ρ.bindings ↔ Satisfies τ ρ'.bindings) : ρ.Equivalent ρ' :=
  ⟨fun _ _ => h.apply_eq_of_satisfies fun τ => (hs τ).mp, fun _ _ => h'.apply_eq_of_satisfies fun τ => (hs τ).mpr⟩

theorem Acyclic.satisfies_unify? {s t : Term} {τ : String → Term} (h : σ.Acyclic) (hu : σ.unify? s t = some ρ) :
    Satisfies τ ρ.bindings ↔ Satisfies τ σ.bindings ∧ s.subst τ = t.subst τ := by
  obtain ⟨bs, hbs, rfl⟩ := unify?_eq_some_iff.mp hu
  simpa using (mostGeneral_extend h hbs).general τ

theorem Acyclic.equivalent_unify? {s t : Term} (h : σ.Acyclic) (hu : σ.unify? s t = some ρ)
    (hu' : σ.unify? t s = some ρ') : ρ.Equivalent ρ' :=
  equivalent_of_satisfies_iff (h.unify? hu) (h.unify? hu') fun τ => by
    rw [h.satisfies_unify? hu, h.satisfies_unify? hu', eq_comm (a := s.subst τ)]

end Substitution

namespace Fact

variable {f g : Fact} {ρ ρ' : Substitution}

theorem isSome_unify?_comm (f g : Fact) : (f.unify? g).isSome = (g.unify? f).isSome := by
  unfold unify?
  by_cases h : f.predicate = g.predicate ∧ f.arity = g.arity
  · have h' : g.predicate = f.predicate ∧ g.arity = f.arity := ⟨h.1.symm, h.2.symm⟩
    rw [if_pos h, if_pos h', Option.isSome_map, Option.isSome_map, ← isSome_solve_swap, List.zip_swap]
  · have h' : ¬(g.predicate = f.predicate ∧ g.arity = f.arity) := fun e => h ⟨e.1.symm, e.2.symm⟩
    rw [if_neg h, if_neg h']

theorem equivalent_unify? (hu : f.unify? g = some ρ) (hu' : g.unify? f = some ρ') : ρ.Equivalent ρ' :=
  Substitution.equivalent_of_satisfies_iff (acyclic_of_unify? hu) (acyclic_of_unify? hu') fun τ => by
    rw [satisfies_unify? hu, satisfies_unify? hu', eq_comm]

end Fact

/-- **Unification is symmetric.** Under acyclic bindings two terms unify in either order or in none, and the two results
are equivalent. The same holds of two facts. -/
theorem unify?_symmetric :
    (∀ (σ : Substitution) (s t : Term), σ.Acyclic →
      ((σ.unify? s t).isSome ↔ (σ.unify? t s).isSome) ∧
      ∀ ρ ρ', σ.unify? s t = some ρ → σ.unify? t s = some ρ' → ρ.Equivalent ρ') ∧
    ∀ f g : Fact, ((f.unify? g).isSome ↔ (g.unify? f).isSome) ∧
      ∀ ρ ρ', f.unify? g = some ρ → g.unify? f = some ρ' → ρ.Equivalent ρ' :=
  ⟨fun σ s t h => ⟨by rw [Substitution.isSome_unify?_comm], fun _ _ => h.equivalent_unify?⟩,
    fun f g => ⟨by rw [Fact.isSome_unify?_comm], fun _ _ => Fact.equivalent_unify?⟩⟩

/-- Under `X` bound to `f(Y)`, unifying `X` with `f(Z)` binds `Y` to `Z`, and in the other order `Z` to `Y`. The facts
`p(X, X)` and `p(Y, Y)` unify in neither order: once the variables are one, they meet themselves. -/
theorem symmetric_chained :
    chained.Acyclic ∧
    chained.unify? (.var "X") (.app "f" [.var "Z"]) = some (chained.insert "Y" (.var "Z")) ∧
    chained.unify? (.app "f" [.var "Z"]) (.var "X") = some (chained.insert "Z" (.var "Y")) ∧
    (chained.insert "Y" (.var "Z")).Equivalent (chained.insert "Z" (.var "Y")) ∧
    (Fact.mk "p" [.var "X", .var "X"]).unify? ⟨"p", [.var "Y", .var "Y"]⟩ = none ∧
    (Fact.mk "p" [.var "Y", .var "Y"]).unify? ⟨"p", [.var "X", .var "X"]⟩ = none := by
  have hu : chained.unify? (.var "X") (.app "f" [.var "Z"]) = some (chained.insert "Y" (.var "Z")) := by cbv
  have hu' : chained.unify? (.app "f" [.var "Z"]) (.var "X") = some (chained.insert "Z" (.var "Y")) := by cbv
  have hn : (Fact.mk "p" [.var "X", .var "X"]).unify? ⟨"p", [.var "Y", .var "Y"]⟩ = none := by cbv
  refine ⟨acyclic_chained, hu, hu', (unify?_symmetric.1 _ _ _ acyclic_chained).2 _ _ hu hu', hn, ?_⟩
  have hiff := (unify?_symmetric.2 ⟨"p", [.var "X", .var "X"]⟩ ⟨"p", [.var "Y", .var "Y"]⟩).1
  rw [← Option.not_isSome_iff_eq_none] at hn ⊢
  exact mt hiff.mpr hn

end LogicGrid
