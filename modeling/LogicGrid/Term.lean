/-!
# Terms

The value language of a puzzle: a term is a constant, a variable, or a functor with a list of argument terms.
All that is said about variables goes through one view, the list `Term.vars` of the variables met from left to right;
a term is ground when that list is empty, and a variable occurs in a term when it is in the list.

* `Term.induction` – induction over terms, with the hypothesis for every argument of a compound;
* `Term.subst_subst`, `Term.subst_congr`, `Term.vars_subst` – substituting for all variables at once;
* `Term.mem_vars_replace`, `Term.replace_of_not_mem` – replacing one variable.
-/

namespace LogicGrid

/-- A logic term. -/
inductive Term where
  | const (name : String)
  | var (name : String)
  | app (functor : String) (args : List Term)
deriving Inhabited, Repr

namespace Term

/-- Induction over terms: a compound may assume the claim of each of its arguments. -/
@[elab_as_elim]
theorem induction {motive : Term → Prop} (const : ∀ c, motive (.const c)) (var : ∀ x, motive (.var x))
    (app : ∀ f args, (∀ t ∈ args, motive t) → motive (.app f args)) (t : Term) : motive t :=
  @Term.rec motive (fun ts => ∀ t ∈ ts, motive t) const var app (fun _ h => nomatch h)
    (fun _ _ hd tl _ h => (List.mem_cons.mp h).elim (fun e => e ▸ hd) (tl _)) t

/-! ## Equality -/

mutual

/-- Structural equality, as a Boolean. -/
def same : Term → Term → Bool
  | .const a, .const b => a == b
  | .var x, .var y => x == y
  | .app f as, .app g bs => f == g && sameArgs as bs
  | _, _ => false

/-- Structural equality of argument lists. -/
def sameArgs : List Term → List Term → Bool
  | [], [] => true
  | a :: as, b :: bs => same a b && sameArgs as bs
  | _, _ => false

end

/-- `sameArgs` decides equality of lists on whose first list `same` decides equality. -/
theorem sameArgs_iff : ∀ {as bs : List Term}, (∀ a ∈ as, ∀ b, same a b = true ↔ a = b) →
    (sameArgs as bs = true ↔ as = bs)
  | [], [], _ => by simp [sameArgs]
  | [], _ :: _, _ => by simp [sameArgs]
  | _ :: _, [], _ => by simp [sameArgs]
  | a :: as, b :: bs, h => by
    have ih : sameArgs as bs = true ↔ as = bs := sameArgs_iff fun x hx => h x (List.mem_cons_of_mem _ hx)
    simp [sameArgs, h a List.mem_cons_self b, ih]

/-- `same` decides equality. -/
theorem same_iff (t u : Term) : same t u = true ↔ t = u := by
  induction t using Term.induction generalizing u with
  | const c => cases u <;> simp [same]
  | var x => cases u <;> simp [same]
  | app f as ih => cases u <;> simp [same, sameArgs_iff ih]

instance : DecidableEq Term := fun t u => decidable_of_iff _ (same_iff t u)

/-! ## Variables and constants -/

mutual

/-- The variables of a term, from left to right, with repetitions. -/
def vars : Term → List String
  | .const _ => []
  | .var x => [x]
  | .app _ args => varsArgs args

/-- The variables of an argument list. -/
def varsArgs : List Term → List String
  | [] => []
  | t :: ts => vars t ++ varsArgs ts

end

theorem varsArgs_eq : ∀ ts : List Term, varsArgs ts = ts.flatMap vars
  | [] => rfl
  | t :: ts => by rw [varsArgs, varsArgs_eq ts, List.flatMap_cons]

@[simp] theorem vars_const (c : String) : (const c).vars = [] := by rw [vars]
@[simp] theorem vars_var (x : String) : (var x).vars = [x] := by rw [vars]
@[simp] theorem vars_app (f : String) (args : List Term) : (app f args).vars = args.flatMap vars := by
  rw [vars, varsArgs_eq]

mutual

/-- The constants of a term, from left to right, with repetitions. Functors are not constants. -/
def consts : Term → List String
  | .const c => [c]
  | .var _ => []
  | .app _ args => constsArgs args

/-- The constants of an argument list. -/
def constsArgs : List Term → List String
  | [] => []
  | t :: ts => consts t ++ constsArgs ts

end

theorem constsArgs_eq : ∀ ts : List Term, constsArgs ts = ts.flatMap consts
  | [] => rfl
  | t :: ts => by rw [constsArgs, constsArgs_eq ts, List.flatMap_cons]

@[simp] theorem consts_const (c : String) : (const c).consts = [c] := by rw [consts]
@[simp] theorem consts_var (x : String) : (var x).consts = [] := by rw [consts]
@[simp] theorem consts_app (f : String) (args : List Term) : (app f args).consts = args.flatMap consts := by
  rw [consts, constsArgs_eq]

/-- A term without variables. -/
def isGround (t : Term) : Bool := t.vars.isEmpty

/-- Whether the variable `x` occurs in the term. -/
def occurs (x : String) (t : Term) : Bool := t.vars.contains x

theorem isGround_iff {t : Term} : t.isGround = true ↔ t.vars = [] := List.isEmpty_iff

@[simp] theorem occurs_iff {x : String} {t : Term} : t.occurs x = true ↔ x ∈ t.vars := List.contains_iff_mem

/-! ## Size -/

mutual

/-- The number of constants, variables and functors of a term. -/
def size : Term → Nat
  | .const _ => 1
  | .var _ => 1
  | .app _ args => 1 + sizeArgs args

/-- The sizes of an argument list, added up. -/
def sizeArgs : List Term → Nat
  | [] => 0
  | t :: ts => size t + sizeArgs ts

end

/-! ## Substitution -/

mutual

/-- Replaces every variable `x` by `f x`. -/
def subst (f : String → Term) : Term → Term
  | .const c => .const c
  | .var x => f x
  | .app g args => .app g (substArgs f args)

/-- Replaces every variable of an argument list. -/
def substArgs (f : String → Term) : List Term → List Term
  | [] => []
  | t :: ts => subst f t :: substArgs f ts

end

theorem substArgs_eq (f : String → Term) : ∀ ts : List Term, substArgs f ts = ts.map (subst f)
  | [] => rfl
  | t :: ts => by rw [substArgs, substArgs_eq f ts, List.map_cons]

section Subst

variable {f g : String → Term}

@[simp] theorem subst_const (c : String) : (const c).subst f = const c := by rw [subst]
@[simp] theorem subst_var (x : String) : (var x).subst f = f x := by rw [subst]
@[simp] theorem subst_app (h : String) (args : List Term) :
    (app h args).subst f = app h (args.map (subst f)) := by rw [subst, substArgs_eq]

/-- Only the values at the variables of a term matter. -/
theorem subst_congr {t : Term} (h : ∀ x ∈ t.vars, f x = g x) : t.subst f = t.subst g := by
  induction t using Term.induction with
  | const c => simp
  | var x => simpa using h x (by simp)
  | app k args ih =>
    simp only [subst_app, app.injEq, List.map_inj_left, true_and]
    intro t ht
    exact ih t ht fun x hx => h x (by simp only [vars_app, List.mem_flatMap]; exact ⟨t, ht, hx⟩)

@[simp] theorem subst_var_id (t : Term) : t.subst var = t := by
  induction t using Term.induction with
  | const c => simp
  | var x => simp
  | app k args ih =>
    simp only [subst_app, app.injEq, true_and]
    exact (List.map_congr_left ih).trans (List.map_id' args)

/-- Substituting twice is substituting once by the composite. -/
theorem subst_subst (t : Term) : (t.subst f).subst g = t.subst fun x => (f x).subst g := by
  induction t using Term.induction with
  | const c => simp
  | var x => simp
  | app k args ih => simpa using ih

/-- The variables of an instance are those of the values put in. -/
theorem vars_subst (t : Term) : (t.subst f).vars = t.vars.flatMap fun x => (f x).vars := by
  induction t using Term.induction with
  | const c => simp
  | var x => simp
  | app k args ih =>
    simp only [subst_app, vars_app, List.flatMap_map, List.flatMap_assoc]
    induction args with
    | nil => rfl
    | cons t ts ih' =>
      rw [List.flatMap_cons, List.flatMap_cons, ih t List.mem_cons_self,
        ih' fun u hu => ih u (List.mem_cons_of_mem _ hu)]

/-- A ground term is its only instance. -/
theorem subst_of_isGround {t : Term} (h : t.isGround = true) : t.subst f = t := by
  rw [isGround_iff] at h
  have := subst_congr (f := f) (g := var) (t := t) (by simp [h])
  simpa using this

end Subst

/-- Replaces the variable `x` by `v` and leaves every other variable. -/
def replace (t : Term) (x : String) (v : Term) : Term := t.subst fun y => if y = x then v else .var y

section Replace

variable {x y : String} {v t : Term}

/-- A term without the variable is left as it is. -/
theorem replace_of_not_mem (h : x ∉ t.vars) : t.replace x v = t := by
  have := subst_congr (f := fun y => if y = x then v else .var y) (g := var) (t := t)
    fun y hy => if_neg fun e : y = x => h (e ▸ hy)
  simpa [replace] using this

/-- A variable of the result stood in the term and was kept, or came in with the value. -/
theorem mem_vars_replace : y ∈ (t.replace x v).vars ↔ (y ∈ t.vars ∧ y ≠ x) ∨ (x ∈ t.vars ∧ y ∈ v.vars) := by
  rw [replace, vars_subst, List.mem_flatMap]
  constructor
  · rintro ⟨z, hz, hy⟩
    by_cases h : z = x
    · subst h
      exact Or.inr ⟨hz, by simpa using hy⟩
    · rw [if_neg h, vars_var, List.mem_singleton] at hy
      subst hy
      exact Or.inl ⟨hz, h⟩
  · rintro (⟨hy, hne⟩ | ⟨hx, hy⟩)
    · exact ⟨y, hy, by simp [hne]⟩
    · exact ⟨x, hx, by simpa using hy⟩

end Replace

/-! ## Text -/

/-- A name in front of its arguments, as in `f(a, b)`; a name without arguments stands alone. -/
def application (name : String) (args : List String) : String :=
  if args.isEmpty then name else name ++ "(" ++ String.intercalate ", " args ++ ")"

mutual

/-- The text of a term: names as they are, compounds as an application. -/
def text : Term → String
  | .const c => c
  | .var x => x
  | .app f args => application f (textArgs args)

/-- The texts of an argument list. -/
def textArgs : List Term → List String
  | [] => []
  | t :: ts => text t :: textArgs ts

end

theorem textArgs_eq : ∀ ts : List Term, textArgs ts = ts.map text
  | [] => rfl
  | t :: ts => by rw [textArgs, textArgs_eq ts, List.map_cons]

end Term

end LogicGrid
