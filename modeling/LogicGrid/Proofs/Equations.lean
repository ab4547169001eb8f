import LogicGrid.Unification

/-!
# What a solution of equations says

An assignment gives every variable a term. It *satisfies* bindings when each bound variable has the value of its term,
and it *equalizes* equations when the two sides of each have the same value.

* **Most general** (`satisfies_iff_equalizes`): a solution is satisfied by exactly the assignments that equalize the
  equations. One lemma per move of `solve`: a split (`equalizes_split`) and a determined variable
  (`eq_determine`, `equalizes_eliminate`).
* **Variables** (`mem_vars_of_mem_solve`, `nodup_solve`): a solution binds variables of the equations, each once.
* **Existence** (`Safe.exists_solve`): where an invariant of the moves keeps variables from meeting themselves, equations
  that some assignment equalizes have a solution.
* **Ground right sides** (`exists_solve`, `mem_keys_solve`): they are such an invariant, and the solution binds all
  variables of the equations, to ground terms.
-/

namespace LogicGrid

theorem Term.subst_replace {τ : String → Term} {x : String} {t : Term} (h : τ x = t.subst τ) (s : Term) :
    (s.replace x t).subst τ = s.subst τ := by
  rw [replace, subst_subst]
  refine subst_congr fun y _ => ?_
  by_cases hy : y = x
  · subst hy
    simp [h]
  · simp [hy]

/-- Replacing in a ground term changes nothing. -/
theorem Term.replace_of_isGround {t : Term} (h : t.isGround = true) (x : String) (v : Term) : t.replace x v = t :=
  subst_of_isGround h

namespace Unification

variable {τ : String → Term} {x : String} {t : Term} {e : Equation} {es new : List Equation}
  {bs : List (String × Term)}

/-- Every bound variable has the value of its term. -/
def Satisfies (τ : String → Term) (bs : List (String × Term)) : Prop := ∀ b ∈ bs, τ b.1 = b.2.subst τ

/-- The two sides of every equation have the same value. -/
def Equalizes (τ : String → Term) (es : List Equation) : Prop := ∀ e ∈ es, e.1.subst τ = e.2.subst τ

theorem satisfies_cons {b : String × Term} : Satisfies τ (b :: bs) ↔ τ b.1 = b.2.subst τ ∧ Satisfies τ bs :=
  List.forall_mem_cons

theorem equalizes_cons : Equalizes τ (e :: es) ↔ e.1.subst τ = e.2.subst τ ∧ Equalizes τ es := List.forall_mem_cons

theorem equalizes_append : Equalizes τ (new ++ es) ↔ Equalizes τ new ∧ Equalizes τ es := List.forall_mem_append

/-! ## The moves of `solve` -/

theorem solve_of_clash (h : e.reduce = .clash) : solve (e :: es) = none := by
  rw [solve]
  split <;> simp_all

theorem solve_of_split (h : e.reduce = .split new) : solve (e :: es) = solve (new ++ es) := by
  rw [solve]
  split <;> simp_all

theorem solve_of_determine (h : e.reduce = .determine x t) :
    solve (e :: es) = (solve (eliminate x t es)).map ((x, t) :: ·) := by
  rw [solve]
  split <;> simp_all

/-! ## The moves keep the assignments -/

/-- Argument lists of one length are equalized exactly when their values are the same list. -/
theorem equalizes_zip : ∀ {as bs : List Term}, as.length = bs.length →
    (Equalizes τ (as.zip bs) ↔ as.map (Term.subst τ) = bs.map (Term.subst τ))
  | [], [], _ => ⟨fun _ => rfl, fun _ => by simp [Equalizes]⟩
  | a :: as, b :: bs, h => by
    have ih : Equalizes τ (as.zip bs) ↔ as.map (Term.subst τ) = bs.map (Term.subst τ) :=
      equalizes_zip (Nat.succ.inj h)
    rw [List.zip_cons_cons, equalizes_cons, ih, List.map_cons, List.map_cons, List.cons.injEq]

theorem equalizes_split (h : e.reduce = .split new) : Equalizes τ new ↔ e.1.subst τ = e.2.subst τ := by
  rcases Equation.reduce_eq_split h with ⟨a, rfl, rfl⟩ | ⟨f, as, bs, hlen, rfl, rfl⟩
  · exact ⟨fun _ => rfl, fun _ => by simp [Equalizes]⟩
  · rw [equalizes_zip hlen, Term.subst_app, Term.subst_app, Term.app.injEq]
    exact ⟨fun e => ⟨rfl, e⟩, And.right⟩

theorem eq_determine (h : e.reduce = .determine x t) : e.1.subst τ = e.2.subst τ ↔ τ x = t.subst τ := by
  rcases (Equation.reduce_eq_determine h).1 with rfl | rfl
  · rw [Term.subst_var]
  · rw [Term.subst_var]
    exact eq_comm

theorem equalizes_eliminate (h : τ x = t.subst τ) : Equalizes τ (eliminate x t es) ↔ Equalizes τ es := by
  simp only [Equalizes, eliminate, List.forall_mem_map, Equation.replace, Term.subst_replace h]

/-- **A solution is most general.** -/
theorem satisfies_iff_equalizes (h : solve es = some bs) : Satisfies τ bs ↔ Equalizes τ es := by
  fun_induction solve es generalizing bs with
  | case1 =>
    cases h
    exact ⟨fun _ => by simp [Equalizes], fun _ => by simp [Satisfies]⟩
  | case2 => cases h
  | case3 e es new hr ih => rw [ih h, equalizes_append, equalizes_cons, equalizes_split hr]
  | case4 e es x t hr ih =>
    obtain ⟨bs', hbs, rfl⟩ := Option.map_eq_some_iff.mp h
    rw [satisfies_cons, equalizes_cons, eq_determine hr]
    exact and_congr_right fun hx => (ih hbs).trans (equalizes_eliminate hx)

/-! ## The variables of a solution -/

/-- A solution speaks of the variables of the equations only. -/
theorem mem_vars_of_mem_solve {b : String × Term} (h : solve es = some bs) (hb : b ∈ bs) :
    b.1 ∈ vars es ∧ b.2.vars ⊆ vars es := by
  fun_induction solve es generalizing bs with
  | case1 =>
    cases h
    cases hb
  | case2 => cases h
  | case3 e es new hr ih =>
    exact ⟨vars_split_subset hr (ih h hb).1, fun y hy => vars_split_subset hr ((ih h hb).2 hy)⟩
  | case4 e es x t hr ih =>
    obtain ⟨bs', hbs, rfl⟩ := Option.map_eq_some_iff.mp h
    obtain ⟨he, hnot⟩ := Equation.reduce_eq_determine hr
    have hx : x ∈ e.vars ∧ t.vars ⊆ e.vars := by rcases he with rfl | rfl <;> simp [Equation.vars]
    have hsub : vars (eliminate x t es) ⊆ vars (e :: es) := fun y hy =>
      (mem_vars_eliminate hnot hy).2.elim (List.mem_append_right _) fun h => List.mem_append_left _ (hx.2 h)
    rcases List.mem_cons.mp hb with rfl | hb
    · exact ⟨List.mem_append_left _ hx.1, fun y hy => List.mem_append_left _ (hx.2 hy)⟩
    · exact ⟨hsub (ih hbs hb).1, fun y hy => hsub ((ih hbs hb).2 hy)⟩

/-- A solution binds a variable once. -/
theorem nodup_solve (h : solve es = some bs) : (bs.map (·.1)).Nodup := by
  fun_induction solve es generalizing bs with
  | case1 =>
    cases h
    exact .nil
  | case2 => cases h
  | case3 e es new hr ih => exact ih h
  | case4 e es x t hr ih =>
    obtain ⟨bs', hbs, rfl⟩ := Option.map_eq_some_iff.mp h
    refine List.nodup_cons.mpr ⟨fun hx => ?_, ih hbs⟩
    -- a variable that was determined is in no equation that is left
    obtain ⟨b, hb, e⟩ := List.mem_map.mp hx
    exact (mem_vars_eliminate (Equation.reduce_eq_determine hr).2 (mem_vars_of_mem_solve hbs hb).1).1 e

/-! ## The two sides -/

/-- The variables of the left sides, from left to right. -/
def lefts (es : List Equation) : List String := es.flatMap (·.1.vars)

/-- The variables of the right sides, from left to right. -/
def rights (es : List Equation) : List String := es.flatMap (·.2.vars)

theorem lefts_cons (e : Equation) (es : List Equation) : lefts (e :: es) = e.1.vars ++ lefts es := List.flatMap_cons
theorem rights_cons (e : Equation) (es : List Equation) : rights (e :: es) = e.2.vars ++ rights es := List.flatMap_cons

theorem lefts_append (es es' : List Equation) : lefts (es ++ es') = lefts es ++ lefts es' := List.flatMap_append
theorem rights_append (es es' : List Equation) : rights (es ++ es') = rights es ++ rights es' := List.flatMap_append

theorem mem_vars_iff {y : String} : y ∈ vars es ↔ y ∈ lefts es ∨ y ∈ rights es := by
  simp only [vars, lefts, rights, Equation.vars, List.mem_flatMap, List.mem_append, and_or_left, exists_or]

theorem sides_zip {as bs : List Term} (h : as.length = bs.length) :
    lefts (as.zip bs) = as.flatMap Term.vars ∧ rights (as.zip bs) = bs.flatMap Term.vars := by
  constructor
  · rw [lefts, ← List.flatMap_map, List.map_fst_zip (Nat.le_of_eq h)]
  · rw [rights, ← List.flatMap_map, List.map_snd_zip (Nat.le_of_eq h.symm)]

/-- A split leaves every occurrence of a variable on its side. -/
theorem sides_split (h : e.reduce = .split new) : lefts new = e.1.vars ∧ rights new = e.2.vars := by
  rcases Equation.reduce_eq_split h with ⟨a, rfl, rfl⟩ | ⟨f, as, bs, hlen, rfl, rfl⟩
  · exact ⟨by simp [lefts], by simp [rights]⟩
  · simpa using sides_zip hlen

/-- The variables of two argument lists of one length are in the equations between them. -/
theorem subset_vars_zip {as bs : List Term} (h : as.length = bs.length) :
    as.flatMap Term.vars ++ bs.flatMap Term.vars ⊆ vars (as.zip bs) := fun y hy => by
  rwa [mem_vars_iff, (sides_zip h).1, (sides_zip h).2, ← List.mem_append]

theorem vars_subset_split (h : e.reduce = .split new) : e.vars ⊆ vars new := fun y hy => by
  rwa [mem_vars_iff, (sides_split h).1, (sides_split h).2, ← List.mem_append]

/-! ## Solutions that exist -/

/-- Sides with a common value and no common variable do not clash. -/
theorem reduce_ne_clash (hd : ∀ x ∈ e.1.vars, x ∉ e.2.vars) (he : e.1.subst τ = e.2.subst τ) : e.reduce ≠ .clash := by
  obtain ⟨s, u⟩ := e
  cases s with
  | var x => simpa [Equation.reduce, Term.occurs] using hd
  | const a =>
    cases u with
    | const b => simp_all [Equation.reduce]
    | var y => simp [Equation.reduce, Term.occurs]
    | app g bs => simp at he
  | app f as =>
    cases u with
    | var y =>
      have hy : y ∉ (Term.app f as).vars := fun hy => hd y hy (by simp)
      simpa [Equation.reduce, Term.occurs] using hy
    | const b => simp at he
    | app g bs =>
      simp only [Term.subst_app, Term.app.injEq] at he
      have hlen : as.length = bs.length := by simpa using congrArg List.length he.2
      simp [Equation.reduce, he.1, hlen]

/-- An invariant of the moves under which the sides of an equation have no variable in common. -/
structure Safe (I : List Equation → Prop) : Prop where
  apart : ∀ {e es}, I (e :: es) → ∀ x ∈ e.1.vars, x ∉ e.2.vars
  split : ∀ {e es new}, I (e :: es) → e.reduce = .split new → I (new ++ es)
  determine : ∀ {e es x t}, I (e :: es) → e.reduce = .determine x t → I (eliminate x t es)

/-- **Equations that can be equalized have a solution**, wherever an invariant keeps variables from meeting themselves. -/
theorem Safe.exists_solve {I : List Equation → Prop} (hI : Safe I) (h : I es) (he : Equalizes τ es) :
    ∃ bs, solve es = some bs := by
  fun_induction solve es with
  | case1 => exact ⟨[], rfl⟩
  | case2 e es hr => exact absurd hr (reduce_ne_clash (hI.apart h) (equalizes_cons.mp he).1)
  | case3 e es new hr ih =>
    rw [equalizes_cons, ← equalizes_split hr, ← equalizes_append] at he
    exact ih (hI.split h hr) he
  | case4 e es x t hr ih =>
    rw [equalizes_cons, eq_determine hr] at he
    obtain ⟨bs, hbs⟩ := ih (hI.determine h hr) ((equalizes_eliminate he.1).mpr he.2)
    exact ⟨(x, t) :: bs, by rw [hbs]; rfl⟩

/-! ## Ground right sides -/

/-- No variable stands on the right of an equation. -/
def RightGround (es : List Equation) : Prop := ∀ e ∈ es, e.2.isGround = true

/-- Then a determined variable stands on the left, and its term is ground. -/
theorem determine_of_isGround (h : e.reduce = .determine x t) (hg : e.2.isGround = true) :
    e = (.var x, t) ∧ t.isGround = true := by
  rcases (Equation.reduce_eq_determine h).1 with rfl | rfl
  · exact ⟨rfl, hg⟩
  · simp [Term.isGround] at hg

theorem rightGround_split (h : e.reduce = .split new) (hg : e.2.isGround = true) : RightGround new := by
  have hnil : new.flatMap (·.2.vars) = [] := (sides_split h).2.trans (Term.isGround_iff.mp hg)
  exact fun e' he' => Term.isGround_iff.mpr (List.flatMap_eq_nil_iff.mp hnil e' he')

theorem rightGround_eliminate (hg : RightGround es) : RightGround (eliminate x t es) := by
  intro e he
  obtain ⟨e', he', rfl⟩ := List.mem_map.mp he
  rw [Equation.replace, Term.replace_of_isGround (hg e' he')]
  exact hg e' he'

theorem safe_rightGround : Safe RightGround where
  apart hg := by simp [Term.isGround_iff.mp (hg _ List.mem_cons_self)]
  split hg hr := by
    obtain ⟨hge, hges⟩ := List.forall_mem_cons.mp hg
    exact List.forall_mem_append.mpr ⟨rightGround_split hr hge, hges⟩
  determine hg _ := rightGround_eliminate fun e he => hg e (List.mem_cons_of_mem _ he)

/-- Equations that can be equalized have a solution. -/
theorem exists_solve (hg : RightGround es) (he : Equalizes τ es) : ∃ bs, solve es = some bs :=
  safe_rightGround.exists_solve hg he

theorem isGround_of_mem_solve {b : String × Term} (hg : RightGround es) (h : solve es = some bs) (hb : b ∈ bs) :
    b.2.isGround = true := by
  fun_induction solve es generalizing bs with
  | case1 =>
    cases h
    cases hb
  | case2 => cases h
  | case3 e es new hr ih => exact ih (safe_rightGround.split hg hr) h hb
  | case4 e es x t hr ih =>
    obtain ⟨bs', hbs, rfl⟩ := Option.map_eq_some_iff.mp h
    rcases List.mem_cons.mp hb with rfl | hb
    · exact (determine_of_isGround hr (hg e List.mem_cons_self)).2
    · exact ih (safe_rightGround.determine hg hr) hbs hb

theorem mem_vars_eliminate_of_ne {y : String} (hy : y ∈ vars es) (hne : y ≠ x) : y ∈ vars (eliminate x t es) := by
  obtain ⟨e, he, hy⟩ := List.mem_flatMap.mp hy
  refine List.mem_flatMap.mpr ⟨e.replace x t, List.mem_map_of_mem he, ?_⟩
  rcases List.mem_append.mp hy with hy | hy
  · exact List.mem_append_left _ (Term.mem_vars_replace.mpr (Or.inl ⟨hy, hne⟩))
  · exact List.mem_append_right _ (Term.mem_vars_replace.mpr (Or.inl ⟨hy, hne⟩))

/-- Over ground right sides no variable is left undetermined. -/
theorem mem_keys_solve (hg : RightGround es) (h : solve es = some bs) {y : String} (hy : y ∈ vars es) :
    y ∈ bs.map (·.1) := by
  fun_induction solve es generalizing bs with
  | case1 => cases hy
  | case2 => cases h
  | case3 e es new hr ih =>
    refine ih (safe_rightGround.split hg hr) h ?_
    rw [vars, List.flatMap_append]
    rw [vars, List.flatMap_cons] at hy
    exact (List.mem_append.mp hy).elim (fun hy => List.mem_append_left _ (vars_subset_split hr hy))
      (List.mem_append_right _)
  | case4 e es x t hr ih =>
    obtain ⟨bs', hbs, rfl⟩ := Option.map_eq_some_iff.mp h
    obtain ⟨rfl, ht⟩ := determine_of_isGround hr (hg e List.mem_cons_self)
    rw [List.map_cons, List.mem_cons]
    by_cases hyx : y = x
    · exact Or.inl hyx
    · refine Or.inr (ih (safe_rightGround.determine hg hr) hbs (mem_vars_eliminate_of_ne ?_ hyx))
      simpa [vars, Equation.vars, hyx, Term.isGround_iff.mp ht] using hy

end Unification

end LogicGrid
