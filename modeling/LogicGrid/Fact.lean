import LogicGrid.Unification

/-!
# Facts

A fact is a predicate with a list of argument terms. Its variables are those of its arguments, from left to right.
-/

namespace LogicGrid

/-- A statement such as `vive_en(juan, casa_roja)`. -/
structure Fact where
  predicate : String
  args : List Term
deriving DecidableEq, Repr, Inhabited

namespace Fact

/-- The number of arguments. -/
def arity (f : Fact) : Nat := f.args.length

/-- The variables of the arguments, with repetitions. -/
def vars (f : Fact) : List String := f.args.flatMap Term.vars

/-- The constants of the arguments, with repetitions. -/
def consts (f : Fact) : List String := f.args.flatMap Term.consts

/-- A fact without variables. -/
def isGround (f : Fact) : Bool := f.args.all Term.isGround

/-- Whether the variable `x` occurs in an argument. -/
def mentions (f : Fact) (x : String) : Bool := f.args.any (·.occurs x)

/-- Replaces every variable `x` by `g x`. -/
def subst (f : Fact) (g : String → Term) : Fact := { f with args := f.args.map (Term.subst g) }

/-- Replaces the variable `x` by `v`. -/
def replace (f : Fact) (x : String) (v : Term) : Fact := { f with args := f.args.map (·.replace x v) }

/-- Applies a substitution to every argument. -/
def apply (f : Fact) (σ : Substitution) : Fact := { f with args := f.args.map σ.apply }

/-- Unifies two facts argument by argument, from left to right and without earlier bindings. The predicates and the
numbers of arguments have to be equal. -/
def unify? (f g : Fact) : Option Substitution :=
  if f.predicate = g.predicate ∧ f.arity = g.arity then
    (Unification.solve (f.args.zip g.args)).map Substitution.empty.extend
  else none

/-- The text of a fact: its predicate in front of its arguments. -/
def text (f : Fact) : String := Term.application f.predicate (f.args.map Term.text)

/-! ## Variables of a fact -/

section

variable {f : Fact} {x y : String} {v : Term} {g h : String → Term}

theorem isGround_iff : f.isGround = true ↔ f.vars = [] := by
  simp [isGround, vars, Term.isGround_iff]

@[simp] theorem mentions_iff : f.mentions x = true ↔ x ∈ f.vars := by
  simp [mentions, vars]

@[simp] theorem arity_subst : (f.subst g).arity = f.arity := by simp [subst, arity]

theorem vars_subst : (f.subst g).vars = f.vars.flatMap fun x => (g x).vars := by
  simp only [subst, vars, List.flatMap_map, List.flatMap_assoc]
  exact congrArg (fun k => List.flatMap k f.args) (funext fun t => t.vars_subst)

theorem subst_congr (e : ∀ x ∈ f.vars, g x = h x) : f.subst g = f.subst h := by
  simp only [subst, mk.injEq, true_and, List.map_inj_left]
  exact fun t ht => Term.subst_congr fun x hx => e x (List.mem_flatMap.mpr ⟨t, ht, hx⟩)

@[simp] theorem subst_var_id (f : Fact) : f.subst .var = f := by
  have hargs : ∀ t ∈ f.args, t.subst .var = t := fun t _ => t.subst_var_id
  cases f
  simp only [subst, mk.injEq, true_and]
  exact (List.map_congr_left hargs).trans (List.map_id' _)

theorem subst_subst : (f.subst g).subst h = f.subst fun x => (g x).subst h := by
  simp only [subst, List.map_map, mk.injEq, true_and, List.map_inj_left]
  exact fun t _ => t.subst_subst

theorem subst_of_isGround (e : f.isGround = true) : f.subst g = f := by
  have hvars : ∀ x ∈ f.vars, g x = .var x := by simp [isGround_iff.mp e]
  rw [subst_congr hvars, subst_var_id]

theorem replace_eq_subst : f.replace x v = f.subst fun y => if y = x then v else .var y := rfl

theorem replace_of_not_mem (e : x ∉ f.vars) : f.replace x v = f := by
  have hvars : ∀ y ∈ f.vars, (if y = x then v else .var y) = .var y := fun y hy => if_neg fun h : y = x => e (h ▸ hy)
  rw [replace_eq_subst, subst_congr hvars, subst_var_id]

theorem apply_eq_subst (σ : Substitution) : f.apply σ = f.subst (σ.resolve σ.size) := rfl

end

end Fact

end LogicGrid
