import LogicGrid.Proofs.Unifiers
import Mathlib.Data.List.Forall2

/-!
# Unification by recursion on the terms

Terms can be unified without a list of equations: both are resolved, and then a variable is bound at once, or the
arguments are unified one after another, each pair under the bindings made so far. The recursion goes into bound terms
and into terms that were just resolved, which may be larger than those of the start, so its text does not show that it
ends. Here it runs within a number of nested calls, and has no answer (`none`) while it has not ended; more calls keep
an answer (`applyWithin_mono`, `unifyWithin_mono`).

* One call reduces one equation (`unifyValues_eq`), so the recursion goes through the moves of `solve`, which end
  (`Acyclic.exists_unifyEach`).
* `acyclic_iff_exists_applyWithin` – resolving ends on every term exactly when there is no cycle.
* `recursion_ends_of_acyclic` – under acyclic bindings the recursion ends, with the answer of `unify?`, and every way
  to add bindings keeps them acyclic.
-/

namespace LogicGrid

open Unification

/-- A list is mapped when each of its members is. -/
theorem mapM_eq_some_iff {α β : Type _} {f : α → Option β} : ∀ {l : List α} {l' : List β},
    l.mapM f = some l' ↔ List.Forall₂ (fun a b => f a = some b) l l'
  | [], l' => by simp [eq_comm]
  | a :: l, l' => by
    simp only [List.mapM_cons, Option.bind_eq_bind, Option.bind_eq_some_iff, Option.pure_def, Option.some.injEq,
      List.forall₂_cons_left_iff, mapM_eq_some_iff]
    exact exists_congr fun b => by grind

/-- Bounds for the members of a list have a common one, where larger bounds are bounds as well. -/
theorem exists_bound {α : Type _} {P : Nat → α → Prop} (hP : ∀ n m a, n ≤ m → P n a → P m a) : ∀ {l : List α},
    (∀ a ∈ l, ∃ n, P n a) → ∃ n, ∀ a ∈ l, P n a
  | [], _ => ⟨0, nofun⟩
  | a :: l, h => by
    obtain ⟨⟨n, hn⟩, hl⟩ := List.forall_mem_cons.mp h
    obtain ⟨m, hm⟩ := exists_bound hP hl
    exact ⟨max n m, List.forall_mem_cons.mpr ⟨hP n _ a (Nat.le_max_left n m) hn, fun b hb =>
      hP m _ b (Nat.le_max_right n m) (hm b hb)⟩⟩

namespace Substitution

/-! ## The recursion -/

/-- The value of a term, by recursion through the bindings of its variables and within `n` nested calls. -/
def applyWithin (σ : Substitution) : Nat → Term → Option Term
  | 0, _ => none
  | _ + 1, .const c => some (.const c)
  | n + 1, .var x =>
    match σ.get? x with
    | some t => σ.applyWithin n t
    | none => some (.var x)
  | n + 1, .app f args => (args.mapM (σ.applyWithin n)).map (.app f)

/-- A way to unify two terms under bindings. It has no answer while it has not ended; its answer is the extended
bindings, or nothing where the terms clash. -/
abbrev Unifying := Substitution → Term → Term → Option (Option Substitution)

section Call

variable (unify : Unifying) (σ : Substitution)

/-- Binds `x` to `t`, unless `x` occurs in it. What `x` is bound to already is unified with `t`. -/
def bindWith (x : String) (t : Term) : Option (Option Substitution) :=
  match σ.get? x with
  | some u => unify σ u t
  | none => some (if t.occurs x then none else some (σ.insert x t))

/-- Unifies pairs of terms one after another, up to the first clash. -/
def unifyEach : Substitution → List Equation → Option (Option Substitution)
  | σ, [] => some (some σ)
  | σ, e :: es =>
    match unify σ e.1 e.2 with
    | some (some ρ) => unifyEach ρ es
    | answer => answer

/-- Unifies two terms that are resolved. -/
def unifyValues : Term → Term → Option (Option Substitution)
  | .var x, t => bindWith unify σ x t
  | s, .var y => bindWith unify σ y s
  | .const a, .const b => some (if a = b then some σ else none)
  | .app f as, .app g bs => if f = g ∧ as.length = bs.length then unifyEach unify σ (as.zip bs) else some none
  | .const _, .app _ _ => some none
  | .app _ _, .const _ => some none

end Call

/-- Unification of two terms by recursion, within `n` nested calls. -/
def unifyWithin : Nat → Unifying
  | 0, _, _, _ => none
  | n + 1, σ, s, t =>
    (σ.applyWithin n s).bind fun s => (σ.applyWithin n t).bind fun t => unifyValues (unifyWithin n) σ s t

/-! ## More calls -/

variable {σ ρ : Substitution} {s t v : Term} {x : String} {n m : Nat} {es : List Equation} {f g : Unifying}
  {a : Option Substitution}

theorem applyWithin_succ : ∀ {n : Nat} {t v : Term}, σ.applyWithin n t = some v → σ.applyWithin (n + 1) t = some v
  | n + 1, .const c, v, h => h
  | n + 1, .var x, v, h => by
    rw [applyWithin] at h ⊢
    cases hx : σ.get? x with
    | none => simpa [hx] using h
    | some t => exact applyWithin_succ (by simpa [hx] using h)
  | n + 1, .app f args, v, h => by
    rw [applyWithin] at h ⊢
    obtain ⟨vs, hvs, rfl⟩ := Option.map_eq_some_iff.mp h
    rw [mapM_eq_some_iff.mpr ((mapM_eq_some_iff.mp hvs).imp fun _ _ => applyWithin_succ)]
    rfl

theorem applyWithin_mono (hnm : n ≤ m) (h : σ.applyWithin n t = some v) : σ.applyWithin m t = some v :=
  Nat.le_induction h (fun _ _ => applyWithin_succ) m hnm

/-- Every answer of `f` is one of `g`. -/
def Unifying.Below (f g : Unifying) : Prop := ∀ {σ s t a}, f σ s t = some a → g σ s t = some a

theorem bindWith_mono (hfg : f.Below g) (h : bindWith f σ x t = some a) : bindWith g σ x t = some a := by
  rw [bindWith] at h ⊢
  cases hx : σ.get? x with
  | none => simpa [hx] using h
  | some u => exact hfg (by simpa [hx] using h)

theorem unifyEach_mono (hfg : f.Below g) : ∀ {es : List Equation} {σ : Substitution},
    unifyEach f σ es = some a → unifyEach g σ es = some a
  | [], _, h => h
  | e :: es, σ, h => by
    rw [unifyEach] at h ⊢
    cases he : f σ e.1 e.2 with
    | none => simp [he] at h
    | some r =>
      rw [hfg he]
      cases r with
      | none => simpa [he] using h
      | some ρ => exact unifyEach_mono hfg (by simpa [he] using h)

theorem unifyValues_mono (hfg : f.Below g) (h : unifyValues f σ s t = some a) : unifyValues g σ s t = some a := by
  unfold unifyValues at h ⊢
  split at h
  · exact bindWith_mono hfg h
  · exact bindWith_mono hfg h
  · exact h
  · split at h
    · next hfg' => rw [if_pos hfg']; exact unifyEach_mono hfg h
    · next hfg' => rw [if_neg hfg']; exact h
  · exact h
  · exact h

theorem unifyWithin_succ : ∀ {n : Nat}, (unifyWithin n).Below (unifyWithin (n + 1))
  | n + 1, σ, s, t, a, h => by
    rw [unifyWithin] at h ⊢
    obtain ⟨s', hs, h⟩ := Option.bind_eq_some_iff.mp h
    obtain ⟨t', ht, h⟩ := Option.bind_eq_some_iff.mp h
    rw [applyWithin_succ hs, applyWithin_succ ht]
    exact unifyValues_mono unifyWithin_succ h

theorem unifyWithin_mono (hnm : n ≤ m) : (unifyWithin n).Below (unifyWithin m) := fun {_ _ _ _} h =>
  Nat.le_induction h (fun _ _ => unifyWithin_succ) m hnm

/-! ## Resolving ends -/

theorem exists_applyWithin_of_vars (h : ∀ x ∈ t.vars, ∃ n, σ.applyWithin n (.var x) = some (σ.apply (.var x))) :
    ∃ n, σ.applyWithin n t = some (σ.apply t) := by
  induction t using Term.induction with
  | const c => exact ⟨1, by simp [applyWithin, apply]⟩
  | var x => exact h x (by simp)
  | app f args ih =>
    have hargs : ∀ t ∈ args, ∃ n, σ.applyWithin n t = some (σ.apply t) := fun t ht =>
      ih t ht fun x hx => h x (by rw [Term.vars_app]; exact List.mem_flatMap.mpr ⟨t, ht, hx⟩)
    obtain ⟨n, hn⟩ := exists_bound (P := fun n t => σ.applyWithin n t = some (σ.apply t))
      (fun _ _ _ => applyWithin_mono) hargs
    have hmap : args.mapM (σ.applyWithin n) = some (args.map σ.apply) :=
      mapM_eq_some_iff.mpr (List.forall₂_map_right_iff.mpr (List.forall₂_same.mpr hn))
    refine ⟨n + 1, ?_⟩
    rw [applyWithin, hmap]
    simp [apply]

/-- Resolving follows every chain of acyclic bindings to its end. -/
theorem Acyclic.exists_applyWithin (h : σ.Acyclic) (t : Term) : ∃ n, σ.applyWithin n t = some (σ.apply t) := by
  have hvar : ∀ k x, σ.Settles k x → ∃ n, σ.applyWithin n (.var x) = some (σ.apply (.var x)) := fun k x hx => by
    induction hx with
    | @free k x hx =>
      have hfree : σ.Unbound (Term.var x).vars := by simpa [Unbound] using hx
      exact ⟨1, by simp [applyWithin, hx, hfree.apply_eq]⟩
    | bound hx _ ih =>
      obtain ⟨n, hn⟩ := exists_applyWithin_of_vars ih
      exact ⟨n + 1, by rw [applyWithin, hx, h.apply_var hx]; exact hn⟩
  exact exists_applyWithin_of_vars fun x _ => hvar _ x (h.settles x)

theorem Settles.succ (h : σ.Settles n x) : σ.Settles (n + 1) x := by
  induction h with
  | free hx => exact .free hx
  | bound hx _ ih => exact .bound hx ih

/-- Where resolving ends, so do the chains from the variables of the term. -/
theorem settles_of_applyWithin : ∀ {n : Nat} {t v : Term}, σ.applyWithin n t = some v → ∀ x ∈ t.vars, σ.Settles n x
  | n + 1, .const c, v, _, x, hx => by simp at hx
  | n + 1, .var y, v, h, x, hx => by
    rw [Term.vars_var, List.mem_singleton] at hx
    subst hx
    rw [applyWithin] at h
    cases hget : σ.get? x with
    | none => exact .free hget
    | some t => exact .bound hget (settles_of_applyWithin (by simpa [hget] using h))
  | n + 1, .app f args, v, h, x, hx => by
    rw [applyWithin] at h
    obtain ⟨vs, hvs, -⟩ := Option.map_eq_some_iff.mp h
    have hargs : ∀ t ∈ args, ∀ x ∈ t.vars, σ.Settles n x :=
      ((List.forall₂_and_left _ _).mp ((mapM_eq_some_iff.mp hvs).imp fun t v hv => ⟨settles_of_applyWithin hv, hv⟩)).1
    rw [Term.vars_app, List.mem_flatMap] at hx
    obtain ⟨t, ht, hx⟩ := hx
    exact (hargs t ht x hx).succ

/-- **Resolving ends on every term exactly when no chain of bindings is a cycle.** -/
theorem acyclic_iff_exists_applyWithin : σ.Acyclic ↔ ∀ t, ∃ n v, σ.applyWithin n t = some v := by
  constructor
  · exact fun h t => (h.exists_applyWithin t).imp fun n hn => ⟨_, hn⟩
  · intro h
    refine acyclic_iff_settles.mpr fun x => ?_
    obtain ⟨n, v, hv⟩ := h (.var x)
    exact ⟨n, settles_of_applyWithin hv x (by simp)⟩

/-! ## Unification ends -/

/-- **One call reduces one equation.** Its two sides are resolved, so a variable of theirs is not bound. -/
theorem unifyValues_eq (hs : σ.Unbound s.vars) (ht : σ.Unbound t.vars) : unifyValues f σ s t =
    match Equation.reduce (s, t) with
    | .clash => some none
    | .split new => unifyEach f σ new
    | .determine x u => some (some (σ.insert x u)) := by
  cases s with
  | var x =>
    have hx : σ.get? x = none := hs x (by simp)
    simp only [unifyValues, bindWith, hx, Equation.reduce]
    split <;> rfl
  | const c =>
    cases t with
    | var y =>
      have hy : σ.get? y = none := ht y (by simp)
      simp only [unifyValues, bindWith, hy, Equation.reduce]
      split <;> rfl
    | const d =>
      simp only [unifyValues, Equation.reduce]
      split <;> simp_all [unifyEach]
    | app g bs => rfl
  | app f as =>
    cases t with
    | var y =>
      have hy : σ.get? y = none := ht y (by simp)
      simp only [unifyValues, bindWith, hy, Equation.reduce]
      split <;> rfl
    | const d => rfl
    | app g bs =>
      simp only [unifyValues, Equation.reduce]
      split <;> rfl

theorem unifyEach_append : ∀ {es es' : List Equation} {σ : Substitution}, unifyEach f σ (es ++ es') =
    match unifyEach f σ es with
    | some (some ρ) => unifyEach f ρ es'
    | answer => answer
  | [], es', σ => rfl
  | e :: es, es', σ => by
    rw [List.cons_append, unifyEach, unifyEach]
    split
    · exact unifyEach_append
    · split <;> simp_all

theorem Acyclic.map_apply_insert {u : Term} (h : σ.Acyclic) (hx : σ.get? x = none) (hu : σ.Unbound u.vars)
    (hxu : x ∉ u.vars) (es : List Equation) :
    es.map (Equation.apply · (σ.insert x u)) = eliminate x u (es.map (Equation.apply · σ)) := by
  simp [eliminate, Equation.apply, Equation.replace, h.apply_insert hx hu hxu]

/-- With enough calls left, the next one reduces the equation between the values. -/
theorem Acyclic.exists_unifyWithin_succ (h : σ.Acyclic) (e : Equation) : ∃ d, ∀ n, d ≤ n →
    unifyWithin (n + 1) σ e.1 e.2 =
      match (Equation.apply e σ).reduce with
      | .clash => some none
      | .split new => unifyEach (unifyWithin n) σ new
      | .determine x u => some (some (σ.insert x u)) := by
  obtain ⟨d₁, h₁⟩ := h.exists_applyWithin e.1
  obtain ⟨d₂, h₂⟩ := h.exists_applyWithin e.2
  refine ⟨max d₁ d₂, fun n hn => ?_⟩
  rw [unifyWithin, applyWithin_mono (Nat.le_trans (Nat.le_max_left _ _) hn) h₁,
    applyWithin_mono (Nat.le_trans (Nat.le_max_right _ _) hn) h₂]
  exact unifyValues_eq (h.unbound_apply e.1) (h.unbound_apply e.2)

/-- **Under acyclic bindings the recursion ends**, with the solution of the equations between the values. The induction
is on the moves of `solve`. -/
theorem Acyclic.exists_unifyEach (h : σ.Acyclic) (es : List Equation) : ∃ n, unifyEach (unifyWithin n) σ es =
    some ((solve (es.map (Equation.apply · σ))).map σ.extend) := by
  generalize hvs : es.map (Equation.apply · σ) = vs
  fun_induction solve vs generalizing σ es with
  | case1 =>
    rw [List.map_eq_nil_iff] at hvs
    subst hvs
    exact ⟨0, rfl⟩
  | case2 v vs hr =>
    obtain ⟨e, es, rfl, rfl, rfl⟩ := List.map_eq_cons_iff.mp hvs
    obtain ⟨d, hd⟩ := h.exists_unifyWithin_succ e
    exact ⟨d + 1, by rw [unifyEach, hd d (Nat.le_refl d), hr]; rfl⟩
  | case3 v vs new hr ih =>
    obtain ⟨e, es, rfl, rfl, rfl⟩ := List.map_eq_cons_iff.mp hvs
    obtain ⟨d, hd⟩ := h.exists_unifyWithin_succ e
    have hnew : σ.Unbound (vars new) := fun y hy =>
      h.unbound_values (e :: es) y (List.mem_append_left _ ((split_decreases hr).1 hy))
    obtain ⟨n, hn⟩ := ih h (new ++ es) (by rw [List.map_append, hnew.map_apply_eq])
    have hm := unifyEach_mono (unifyWithin_mono (Nat.le_max_left n d)) hn
    rw [unifyEach_append] at hm
    refine ⟨max n d + 1, ?_⟩
    rw [unifyEach, hd _ (Nat.le_max_right n d), hr]
    dsimp only
    -- the arguments are unified first, and then the rest with one more call
    cases hargs : unifyEach (unifyWithin (max n d)) σ new with
    | none => simp [hargs] at hm
    | some answer =>
      cases answer with
      | none => simpa [hargs] using hm
      | some ρ => exact unifyEach_mono unifyWithin_succ (by simpa [hargs] using hm)
  | case4 v vs x t hr ih =>
    obtain ⟨e, es, rfl, rfl, rfl⟩ := List.map_eq_cons_iff.mp hvs
    obtain ⟨d, hd⟩ := h.exists_unifyWithin_succ e
    have hnot := (Equation.reduce_eq_determine hr).2
    obtain ⟨hx, ht, -⟩ := Unbound.determine (h.unbound_values (e :: es)) hr
    obtain ⟨n, hn⟩ := ih (h.insert hx ht hnot) es (h.map_apply_insert hx ht hnot es)
    refine ⟨max n d + 1, ?_⟩
    rw [unifyEach, hd _ (Nat.le_max_right n d), hr]
    have hm := unifyEach_mono (unifyWithin_mono (Nat.le_succ_of_le (Nat.le_max_left n d))) hn
    simpa [Option.map_map, Function.comp_def] using hm

theorem Acyclic.exists_unifyWithin (h : σ.Acyclic) (s t : Term) :
    ∃ n, ∀ m, n ≤ m → unifyWithin m σ s t = some (σ.unify? s t) := by
  obtain ⟨n, hn⟩ := h.exists_unifyEach [(s, t)]
  have hanswer : unifyEach (unifyWithin n) σ [(s, t)] = some (σ.unify? s t) := hn
  refine ⟨n, fun m hm => unifyWithin_mono hm ?_⟩
  rw [← hanswer, unifyEach]
  split
  · next ρ hρ => exact hρ
  · rfl

/-- Binding a variable ends as well: it is bound, or what it is bound to is unified. -/
theorem Acyclic.exists_bindWith (h : σ.Acyclic) (x : String) (t : Term) :
    ∃ n a, ∀ m, n ≤ m → bindWith (unifyWithin m) σ x t = some a := by
  cases hx : σ.get? x with
  | none => exact ⟨0, _, fun m _ => by rw [bindWith, hx]⟩
  | some u =>
    obtain ⟨n, hn⟩ := h.exists_unifyWithin u t
    exact ⟨n, _, fun m hm => by rw [bindWith, hx]; exact hn m hm⟩

/-! ## Adding bindings -/

theorem bind?_eq_none_iff : σ.bind? x t = none ↔ σ.binds x = true ∨ x ∈ (σ.apply t).vars := by
  rw [bind?, ← Term.occurs_iff, ← Bool.or_eq_true]
  split <;> simp_all

theorem bind?_eq_some_iff : σ.bind? x t = some ρ ↔
    σ.get? x = none ∧ x ∉ (σ.apply t).vars ∧ σ.insert x (σ.apply t) = ρ := by
  simp [bind?, binds, and_assoc]

theorem Acyclic.bind? (h : σ.Acyclic) (hb : σ.bind? x t = some ρ) : ρ.Acyclic := by
  obtain ⟨hx, hxt, rfl⟩ := bind?_eq_some_iff.mp hb
  exact h.insert hx (h.unbound_apply t) hxt

/-- A refused binding leaves the substitution as it is, and only a refused one does. -/
theorem getD_bind?_eq_self_iff : (σ.bind? x t).getD σ = σ ↔ σ.bind? x t = none := by
  cases hb : σ.bind? x t with
  | none => simp
  | some ρ =>
    obtain ⟨hx, -, rfl⟩ := bind?_eq_some_iff.mp hb
    refine ⟨fun e => ?_, nofun⟩
    have hget : σ.get? x = some (σ.apply t) := by
      rw [← congrArg (get? · x) e]
      simp
    simp [hx] at hget

theorem acyclic_ofPairs (pairs : List (String × Term)) : (ofPairs pairs).Acyclic := by
  refine List.foldlRecOn pairs _ acyclic_empty fun ρ hρ p _ => ?_
  cases hb : ρ.bind? p.1 p.2 with
  | none => exact hρ
  | some ρ' => exact hρ.bind? hb

end Substitution

open Substitution

/-- The recursion over the arguments of two facts ends with their unifier. -/
theorem Fact.exists_unifyEach {f g : Fact} (hp : f.predicate = g.predicate) (ha : f.arity = g.arity) :
    ∃ n, ∀ m, n ≤ m → unifyEach (unifyWithin m) empty (f.args.zip g.args) = some (f.unify? g) := by
  obtain ⟨n, hn⟩ := acyclic_empty.exists_unifyEach (f.args.zip g.args)
  rw [Unbound.map_apply_eq fun _ _ => rfl] at hn
  refine ⟨n, fun m hm => ?_⟩
  rw [unify?, if_pos ⟨hp, ha⟩]
  exact unifyEach_mono (unifyWithin_mono hm) hn

/-- **The recursion ends under acyclic bindings, and bindings stay acyclic.** Resolving a term, unifying two terms,
binding a variable and unifying the arguments of two facts come to an end, with the answers of `apply` and `unify?`.
What `bind?`, `unify?` and `ofPairs` give is acyclic. A binding is refused, and the substitution left as it is, exactly
when the variable is bound or occurs in the value of the term. -/
theorem recursion_ends_of_acyclic :
    (∀ σ : Substitution, σ.Acyclic →
      (∀ t, ∃ n, ∀ m, n ≤ m → σ.applyWithin m t = some (σ.apply t)) ∧
      (∀ s t, ∃ n, ∀ m, n ≤ m → unifyWithin m σ s t = some (σ.unify? s t)) ∧
      (∀ x t, ∃ n a, ∀ m, n ≤ m → bindWith (unifyWithin m) σ x t = some a) ∧
      (∀ x t ρ, σ.bind? x t = some ρ → ρ.Acyclic) ∧
      (∀ s t ρ, σ.unify? s t = some ρ → ρ.Acyclic)) ∧
    (∀ f g : Fact, f.predicate = g.predicate → f.arity = g.arity →
      ∃ n, ∀ m, n ≤ m → unifyEach (unifyWithin m) empty (f.args.zip g.args) = some (f.unify? g)) ∧
    (∀ (σ : Substitution) x t, (σ.bind? x t = none ↔ σ.binds x = true ∨ x ∈ (σ.apply t).vars) ∧
      ((σ.bind? x t).getD σ = σ ↔ σ.bind? x t = none)) ∧
    ∀ pairs, (ofPairs pairs).Acyclic := by
  refine ⟨fun σ h => ⟨fun t => ?_, h.exists_unifyWithin, h.exists_bindWith, fun _ _ _ => h.bind?,
    fun _ _ _ => h.unify?⟩, fun _ _ => Fact.exists_unifyEach, fun _ _ _ => ⟨bind?_eq_none_iff, getD_bind?_eq_self_iff⟩,
    acyclic_ofPairs⟩
  exact (h.exists_applyWithin t).imp fun n hn m hm => applyWithin_mono hm hn

/-- Under `X` bound to `f(Y)` the recursion ends on `X` and `f(g(Z))`, and `Y` cannot be bound to `X`. -/
theorem recursion_ends_chained :
    chained.Acyclic ∧
    (∃ n, ∀ m, n ≤ m → unifyWithin m chained (.var "X") (.app "f" [.app "g" [.var "Z"]]) =
      some (chained.unify? (.var "X") (.app "f" [.app "g" [.var "Z"]]))) ∧
    (chained.unify? (.var "X") (.app "f" [.app "g" [.var "Z"]]) = some (chained.insert "Y" (.app "g" [.var "Z"])) ∧
      (chained.insert "Y" (.app "g" [.var "Z"])).Acyclic) ∧
    chained.bind? "Y" (.var "X") = none ∧ chained.binds "Y" = false := by
  have hac : chained.Acyclic := acyclic_empty.insert rfl (fun _ _ => rfl) (by simp)
  have hu : chained.unify? (.var "X") (.app "f" [.app "g" [.var "Z"]]) =
      some (chained.insert "Y" (.app "g" [.var "Z"])) := by cbv
  obtain ⟨-, hunify, -, -, hkeeps⟩ := recursion_ends_of_acyclic.1 chained hac
  have hbind := (recursion_ends_of_acyclic.2.2.1 chained "Y" (.var "X")).1.mpr (Or.inr (by decide))
  exact ⟨hac, hunify _ _, ⟨hu, hkeeps _ _ _ hu⟩, hbind, by decide⟩

end LogicGrid
