import LogicGrid.Distinct
import LogicGrid.Substitution

/-!
# Unification

Equations between terms are solved from left to right. The first equation is reduced: it splits into the equations of
its arguments, or it determines a variable, which is then replaced in all equations that remain, or it clashes. A
variable is never determined by a term in which it occurs, not even by itself: `X = X` clashes like `X = f(X)`.

* `solve` – the determined variables in order, or nothing after a clash; every step leaves fewer distinct variables or
  smaller equations, so it ends (`distinctVars_eliminate_lt`, `totalSize_split_lt`);
* `Substitution.unify?` – extends a substitution by the solution of one equation between the values of two terms.
-/

namespace LogicGrid

/-- Two terms that are to become equal. -/
abbrev Equation := Term × Term

namespace Equation

/-- The variables of both sides. -/
def vars (e : Equation) : List String := e.1.vars ++ e.2.vars

/-- The sizes of both sides together. -/
def size (e : Equation) : Nat := e.1.size + e.2.size

/-- Replaces a variable on both sides. -/
def replace (e : Equation) (x : String) (t : Term) : Equation := (e.1.replace x t, e.2.replace x t)

/-- What is left of an equation after one step. -/
inductive Reduction where
  /-- No instance of the two sides is equal, or a variable would stand for a term that contains it. -/
  | clash
  /-- Equal as soon as all of these are. -/
  | split (equations : List Equation)
  /-- Determines the variable, which does not occur in the term. -/
  | determine (x : String) (t : Term)

/-- One step of solving. -/
def reduce : Equation → Reduction
  | (.var x, t) => if t.occurs x then .clash else .determine x t
  | (s, .var y) => if s.occurs y then .clash else .determine y s
  | (.const a, .const b) => if a = b then .split [] else .clash
  | (.app f as, .app g bs) => if f = g ∧ as.length = bs.length then .split (as.zip bs) else .clash
  | (.const _, .app _ _) => .clash
  | (.app _ _, .const _) => .clash

/-- A determined variable is one side of the equation and does not occur in the other. -/
theorem reduce_eq_determine {e : Equation} {x : String} {t : Term} (h : e.reduce = .determine x t) :
    (e = (.var x, t) ∨ e = (t, .var x)) ∧ x ∉ t.vars := by
  unfold reduce at h
  split at h
  · split at h
    · cases h
    · next hocc =>
      cases h
      exact ⟨Or.inl rfl, mt Term.occurs_iff.mpr hocc⟩
  · split at h
    · cases h
    · next hocc =>
      cases h
      exact ⟨Or.inr rfl, mt Term.occurs_iff.mpr hocc⟩
  · split at h <;> cases h
  · split at h <;> cases h
  · cases h
  · cases h

/-- What is split are equal constants, or compounds with one functor and equally many arguments. -/
theorem reduce_eq_split {e : Equation} {new : List Equation} (h : e.reduce = .split new) :
    (∃ a, e = (.const a, .const a) ∧ new = []) ∨
    ∃ f as bs, as.length = bs.length ∧ e = (.app f as, .app f bs) ∧ new = as.zip bs := by
  unfold reduce at h
  split at h
  · split at h <;> cases h
  · split at h <;> cases h
  · split at h
    · next hab =>
      cases h
      exact Or.inl ⟨_, by rw [hab], rfl⟩
    · cases h
  · split at h
    · next hfg =>
      cases h
      exact Or.inr ⟨_, _, _, hfg.2, by rw [hfg.1], rfl⟩
    · cases h
  · cases h
  · cases h

end Equation

namespace Unification

/-! ## Measures -/

/-- The variables of a list of equations. -/
def vars (es : List Equation) : List String := es.flatMap Equation.vars

/-- The number of distinct variables of a list of equations. -/
def distinctVars (es : List Equation) : Nat := (vars es).eraseDups.length

/-- The sizes of a list of equations, added up. -/
def totalSize : List Equation → Nat
  | [] => 0
  | e :: es => e.size + totalSize es

theorem totalSize_append : ∀ es es' : List Equation, totalSize (es ++ es') = totalSize es + totalSize es'
  | [], _ => (Nat.zero_add _).symm
  | e :: es, es' => by rw [List.cons_append, totalSize, totalSize, totalSize_append es es', Nat.add_assoc]

theorem totalSize_zip_le : ∀ as bs : List Term,
    totalSize (as.zip bs) ≤ Term.sizeArgs as + Term.sizeArgs bs
  | [], _ => Nat.zero_le _
  | _ :: _, [] => Nat.zero_le _
  | a :: as, b :: bs => by
    have ih := totalSize_zip_le as bs
    simp only [List.zip_cons_cons, totalSize, Equation.size, Term.sizeArgs]
    omega

theorem vars_zip_subset (as bs : List Term) :
    vars (as.zip bs) ⊆ as.flatMap Term.vars ++ bs.flatMap Term.vars := by
  intro x hx
  obtain ⟨⟨a, b⟩, hab, hx⟩ := List.mem_flatMap.mp hx
  obtain ⟨ha, hb⟩ := List.of_mem_zip hab
  rcases List.mem_append.mp hx with hx | hx
  · exact List.mem_append_left _ (List.mem_flatMap.mpr ⟨a, ha, hx⟩)
  · exact List.mem_append_right _ (List.mem_flatMap.mpr ⟨b, hb, hx⟩)

/-- The parts of an equation hold no new variable and are smaller than it. -/
theorem split_decreases {e : Equation} {new : List Equation} (h : e.reduce = .split new) :
    vars new ⊆ e.vars ∧ totalSize new < e.size := by
  rcases Equation.reduce_eq_split h with ⟨a, rfl, rfl⟩ | ⟨f, as, bs, -, rfl, rfl⟩
  · exact ⟨by simp [vars], by simp [totalSize, Equation.size, Term.size]⟩
  · refine ⟨by simpa [Equation.vars] using vars_zip_subset as bs, ?_⟩
    have := totalSize_zip_le as bs
    simp only [Equation.size, Term.size]
    omega

theorem totalSize_split_lt {e : Equation} {new es : List Equation} (h : e.reduce = .split new) :
    totalSize (new ++ es) < totalSize (e :: es) := by
  rw [totalSize_append, totalSize]
  exact Nat.add_lt_add_right (split_decreases h).2 _

theorem vars_split_subset {e : Equation} {new es : List Equation} (h : e.reduce = .split new) :
    vars (new ++ es) ⊆ vars (e :: es) := by
  rw [vars, vars, List.flatMap_append, List.flatMap_cons]
  intro x hx
  rcases List.mem_append.mp hx with hx | hx
  · exact List.mem_append_left _ ((split_decreases h).1 hx)
  · exact List.mem_append_right _ hx

theorem distinctVars_split_le {e : Equation} {new es : List Equation} (h : e.reduce = .split new) :
    distinctVars (new ++ es) ≤ distinctVars (e :: es) := length_eraseDups_le (vars_split_subset h)

/-- Replaces a variable in all equations. -/
def eliminate (x : String) (t : Term) (es : List Equation) : List Equation := es.map (·.replace x t)

/-- A variable of the equations after an elimination is another one of before, or came in with the term. -/
theorem mem_vars_eliminate {x y : String} {t : Term} {es : List Equation} (hx : x ∉ t.vars)
    (hy : y ∈ vars (eliminate x t es)) : y ≠ x ∧ (y ∈ vars es ∨ y ∈ t.vars) := by
  obtain ⟨e', he', hy⟩ := List.mem_flatMap.mp hy
  obtain ⟨e, he, rfl⟩ := List.mem_map.mp he'
  have side : ∀ s : Term, s.vars ⊆ e.vars → y ∈ (s.replace x t).vars →
      y ≠ x ∧ (y ∈ vars es ∨ y ∈ t.vars) := fun s hs hy => by
    rcases Term.mem_vars_replace.mp hy with ⟨hy, hne⟩ | ⟨_, hy⟩
    · exact ⟨hne, Or.inl (List.mem_flatMap.mpr ⟨e, he, hs hy⟩)⟩
    · exact ⟨fun h => hx (h ▸ hy), Or.inr hy⟩
  rcases List.mem_append.mp hy with hy | hy
  · exact side e.1 (List.subset_append_left _ _) hy
  · exact side e.2 (List.subset_append_right _ _) hy

theorem distinctVars_eliminate_lt {e : Equation} {x : String} {t : Term} {es : List Equation}
    (h : e.reduce = .determine x t) : distinctVars (eliminate x t es) < distinctVars (e :: es) := by
  obtain ⟨hx, ht⟩ : x ∈ e.vars ∧ t.vars ⊆ e.vars := by
    rcases (Equation.reduce_eq_determine h).1 with rfl | rfl <;> simp [Equation.vars]
  have hnot := (Equation.reduce_eq_determine h).2
  rw [distinctVars, distinctVars]
  refine length_eraseDups_lt (a := x) (fun y hy => ?_) (List.mem_append_left _ hx) fun hm =>
    (mem_vars_eliminate hnot hm).1 rfl
  rcases (mem_vars_eliminate hnot hy).2 with hy | hy
  · exact List.mem_append_right _ hy
  · exact List.mem_append_left _ (ht hy)

/-! ## Solving -/

/-- Solves equations from left to right. The solution lists the determined variables in order; no later equation
mentions a variable that is listed. -/
def solve : List Equation → Option (List (String × Term))
  | [] => some []
  | e :: es =>
    match _h : e.reduce with
    | .clash => none
    | .split new => solve (new ++ es)
    | .determine x t => (solve (eliminate x t es)).map ((x, t) :: ·)
termination_by es => (distinctVars es, totalSize es)
decreasing_by
  · exact Prod.Lex.right' _ (distinctVars_split_le _h) (totalSize_split_lt _h)
  · exact Prod.Lex.left _ _ (distinctVars_eliminate_lt _h)

end Unification

/-- Extends `σ` so that the two terms have the same value, by the solution of the equation between their values. -/
def Substitution.unify? (σ : Substitution) (s t : Term) : Option Substitution :=
  (Unification.solve [(σ.apply s, σ.apply t)]).map σ.extend

end LogicGrid
