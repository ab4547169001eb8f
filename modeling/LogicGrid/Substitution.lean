import LogicGrid.Term

/-!
# Substitutions

A substitution binds finitely many variables to terms. Its bindings are kept by ascending variable, so two substitutions
that bind the same variables to the same terms are equal. The terms are stored as they were bound: a variable inside a
bound term may be bound itself, and `Substitution.apply` follows such chains.

* `Substitution.ext_get?` – a substitution is determined by its look-ups;
* `Substitution.get?_insert`, `Substitution.get?_extend` – what the two ways of adding bindings do to a look-up;
* `Substitution.get?_merge?` – a merge looks up in the one substitution or in the other.
-/

namespace LogicGrid

/-- Bindings of variables to terms, by ascending variable. -/
structure Substitution where
  /-- The bound variables with their terms. -/
  bindings : List (String × Term)
  ascending : bindings.Pairwise fun a b => a.1 < b.1
deriving DecidableEq, Repr

namespace Substitution

/-- Binds nothing. -/
def empty : Substitution := ⟨[], .nil⟩

instance : Inhabited Substitution := ⟨empty⟩

variable (σ τ : Substitution)

/-- The term that a variable is bound to. -/
def get? (x : String) : Option Term := σ.bindings.lookup x

/-- Whether a variable is bound. -/
def binds (x : String) : Bool := (σ.get? x).isSome

/-- The number of bound variables. -/
def size : Nat := σ.bindings.length

/-- Whether no variable is bound. -/
def isEmpty : Bool := σ.bindings.isEmpty

/-! ## Look-up -/

@[simp] theorem get?_empty (x : String) : empty.get? x = none := rfl

/-- Under distinct variables a pair is found exactly when it is there. -/
theorem lookup_eq_some_iff {x : String} {t : Term} : ∀ {l : List (String × Term)}, (l.map (·.1)).Nodup →
    (l.lookup x = some t ↔ (x, t) ∈ l)
  | [], _ => by simp
  | (y, u) :: l, h => by
    rw [List.map_cons, List.nodup_cons] at h
    rw [List.lookup_cons, List.mem_cons]
    by_cases hxy : x = y
    · subst hxy
      simp only [BEq.rfl, Option.some.injEq, Prod.mk.injEq, true_and]
      exact ⟨fun e => Or.inl e.symm, fun e => e.elim Eq.symm fun hm => absurd (List.mem_map_of_mem hm) h.1⟩
    · simp [beq_eq_false_iff_ne.mpr hxy, hxy, lookup_eq_some_iff h.2]

theorem nodup_variables : (σ.bindings.map (·.1)).Nodup := by
  rw [List.Nodup, List.pairwise_map]
  exact σ.ascending.imp fun {a b} h (e : a.1 = b.1) => String.lt_irrefl b.1 (e ▸ h)

theorem get?_eq_some_iff {x : String} {t : Term} : σ.get? x = some t ↔ (x, t) ∈ σ.bindings :=
  lookup_eq_some_iff σ.nodup_variables

variable {σ τ} in
/-- What a part of the bindings finds, they find as well. -/
theorem get?_of_subset {x : String} {t : Term} (h : σ.bindings ⊆ τ.bindings) (hx : σ.get? x = some t) :
    τ.get? x = some t :=
  (get?_eq_some_iff τ).mpr (h ((get?_eq_some_iff σ).mp hx))

/-- Ascending lists with the same members are equal. -/
theorem eq_of_mem_iff : ∀ {l m : List (String × Term)}, l.Pairwise (fun a b => a.1 < b.1) →
    m.Pairwise (fun a b => a.1 < b.1) → (∀ p, p ∈ l ↔ p ∈ m) → l = m
  | [], [], _, _, _ => rfl
  | [], p :: m, _, _, h => absurd ((h p).mpr List.mem_cons_self) List.not_mem_nil
  | p :: l, [], _, _, h => absurd ((h p).mp List.mem_cons_self) List.not_mem_nil
  | p :: l, q :: m, hl, hm, h => by
    rw [List.pairwise_cons] at hl hm
    have hpq : p = q := by
      rcases List.mem_cons.mp ((h p).mp List.mem_cons_self) with e | hp
      · exact e
      · rcases List.mem_cons.mp ((h q).mpr List.mem_cons_self) with e | hq
        · exact e.symm
        · exact absurd (hl.1 _ hq) (String.lt_asymm (hm.1 _ hp))
    subst hpq
    congr 1
    refine eq_of_mem_iff hl.2 hm.2 fun r => ⟨fun hr => ?_, fun hr => ?_⟩
    · rcases List.mem_cons.mp ((h r).mp (List.mem_cons_of_mem _ hr)) with e | hr'
      · exact absurd (e ▸ hl.1 _ hr) (String.lt_irrefl _)
      · exact hr'
    · rcases List.mem_cons.mp ((h r).mpr (List.mem_cons_of_mem _ hr)) with e | hr'
      · exact absurd (e ▸ hm.1 _ hr) (String.lt_irrefl _)
      · exact hr'

variable {σ τ} in
/-- Substitutions with the same look-ups are equal. -/
@[ext] theorem ext_get? (h : ∀ x, σ.get? x = τ.get? x) : σ = τ := by
  have : σ.bindings = τ.bindings := eq_of_mem_iff σ.ascending τ.ascending fun (x, t) => by
    rw [← get?_eq_some_iff, ← get?_eq_some_iff, h]
  cases σ; cases τ; simp_all

/-! ## Adding bindings -/

/-- Puts a binding at its place among ascending bindings; a binding of the same variable gives way. -/
def insertBinding (x : String) (t : Term) : List (String × Term) → List (String × Term)
  | [] => [(x, t)]
  | (y, u) :: l =>
    if x < y then (x, t) :: (y, u) :: l
    else if x = y then (x, t) :: l
    else (y, u) :: insertBinding x t l

theorem mem_insertBinding {x : String} {t : Term} {p : String × Term} : ∀ {l : List (String × Term)},
    p ∈ insertBinding x t l → p = (x, t) ∨ p ∈ l
  | [], h => by simpa [insertBinding] using h
  | (y, u) :: l, h => by
    rw [insertBinding] at h
    split at h
    · simpa using h
    · split at h
      · rcases List.mem_cons.mp h with h | h
        · exact Or.inl h
        · exact Or.inr (List.mem_cons_of_mem _ h)
      · rcases List.mem_cons.mp h with h | h
        · exact Or.inr (h ▸ List.mem_cons_self)
        · exact (mem_insertBinding h).imp_right (List.mem_cons_of_mem _)

theorem ascending_insertBinding {x : String} {t : Term} : ∀ {l : List (String × Term)},
    l.Pairwise (fun a b => a.1 < b.1) → (insertBinding x t l).Pairwise fun a b => a.1 < b.1
  | [], _ => by simp [insertBinding]
  | (y, u) :: l, h => by
    have h' := List.pairwise_cons.mp h
    rw [insertBinding]
    split
    · next hxy =>
      refine List.pairwise_cons.mpr ⟨fun p hp => ?_, h⟩
      rcases List.mem_cons.mp hp with rfl | hp
      · exact hxy
      · exact String.lt_trans hxy (h'.1 p hp)
    · split
      · next hxy => exact List.pairwise_cons.mpr ⟨fun p hp => hxy ▸ h'.1 p hp, h'.2⟩
      · next hlt hne =>
        refine List.pairwise_cons.mpr ⟨fun p hp => ?_, ascending_insertBinding h'.2⟩
        rcases mem_insertBinding hp with rfl | hp
        · rcases Decidable.em (y < x) with hyx | hyx
          · exact hyx
          · exact absurd (String.le_antisymm (String.not_lt.mp hyx) (String.not_lt.mp hlt)) hne
        · exact h'.1 p hp

theorem lookup_insertBinding {x y : String} {t : Term} : ∀ l : List (String × Term),
    l.Pairwise (fun a b => a.1 < b.1) →
      (insertBinding x t l).lookup y = if y = x then some t else l.lookup y
  | [], _ => by
    by_cases h : y = x <;> simp [insertBinding, List.lookup_cons, h, beq_eq_false_iff_ne.mpr]
  | (z, u) :: l, hl => by
    rw [insertBinding]
    split
    · by_cases h : y = x <;> simp [List.lookup_cons, h, beq_eq_false_iff_ne.mpr]
    · split
      · next hxz =>
        subst hxz
        by_cases h : y = x <;> simp [List.lookup_cons, h, beq_eq_false_iff_ne.mpr]
      · next hne =>
        have ih := lookup_insertBinding (x := x) (y := y) (t := t) l (List.pairwise_cons.mp hl).2
        by_cases hyz : y = z
        · subst hyz
          simp [Ne.symm hne]
        · simp [List.lookup_cons, beq_eq_false_iff_ne.mpr hyz, ih]

/-- Binds `x` to `t`, in place of what `x` was bound to. -/
def insert (x : String) (t : Term) : Substitution :=
  ⟨insertBinding x t σ.bindings, ascending_insertBinding σ.ascending⟩

@[simp] theorem get?_insert (x y : String) (t : Term) :
    (σ.insert x t).get? y = if y = x then some t else σ.get? y :=
  lookup_insertBinding σ.bindings σ.ascending

/-- Adds bindings one after another; the last one of a variable stays. -/
def extend (new : List (String × Term)) : Substitution := new.foldl (fun ρ b => ρ.insert b.1 b.2) σ

@[simp] theorem extend_nil : σ.extend [] = σ := rfl
@[simp] theorem extend_cons (b : String × Term) (new : List (String × Term)) :
    σ.extend (b :: new) = (σ.insert b.1 b.2).extend new := rfl

/-- A variable that no new binding mentions keeps its look-up. -/
theorem get?_extend_of_not_mem {x : String} : ∀ {new : List (String × Term)} (σ : Substitution),
    x ∉ new.map (·.1) → (σ.extend new).get? x = σ.get? x
  | [], _, _ => rfl
  | b :: new, σ, h => by
    rw [List.map_cons, List.mem_cons, not_or] at h
    rw [extend_cons, get?_extend_of_not_mem _ h.2, get?_insert, if_neg h.1]

/-- Where the new bindings name each variable once, they are found, and the old ones behind them. -/
theorem get?_extend {x : String} : ∀ {new : List (String × Term)} (σ : Substitution),
    (new.map (·.1)).Nodup → (σ.extend new).get? x = (new.lookup x).or (σ.get? x)
  | [], _, _ => rfl
  | (y, t) :: new, σ, h => by
    rw [List.map_cons, List.nodup_cons] at h
    rw [extend_cons, List.lookup_cons]
    by_cases hxy : x = y
    · subst hxy
      rw [get?_extend_of_not_mem _ h.1]
      simp
    · rw [get?_extend _ h.2, get?_insert]
      simp [hxy, beq_eq_false_iff_ne.mpr hxy]

/-! ## Application -/

/-- The value of a variable, following at most `n` bindings in a chain. -/
def resolve : Nat → String → Term
  | 0, x => .var x
  | n + 1, x =>
    match σ.get? x with
    | some t => t.subst (resolve n)
    | none => .var x

/-- Replaces every bound variable by its value, following chains of bindings. No chain without a cycle is longer than
the number of bindings, so the bound on its length is felt only where bindings form a cycle. -/
def apply (t : Term) : Term := t.subst (σ.resolve σ.size)

/-! ## Binding and merging -/

/-- Binds `x` to the value of `t`. Refused when `x` is bound already or occurs in that value. -/
def bind? (x : String) (t : Term) : Option Substitution :=
  if σ.binds x || (σ.apply t).occurs x then none else some (σ.insert x (σ.apply t))

/-- Binds the pairs in order and skips those that are refused. -/
def ofPairs (pairs : List (String × Term)) : Substitution :=
  pairs.foldl (fun ρ p => (ρ.bind? p.1 p.2).getD ρ) empty

/-- Whether every variable bound in both substitutions is bound to the same term. -/
def agrees : Bool := τ.bindings.all fun b => σ.get? b.1 == none || σ.get? b.1 == some b.2

/-- All bindings of both substitutions, when they agree. The result may chain bindings of the one to bindings of the
other. -/
def merge? : Option Substitution := if σ.agrees τ then some (σ.extend τ.bindings) else none

variable {σ τ} in
/-- A merge binds what either substitution binds. -/
theorem get?_merge? {ρ : Substitution} (h : σ.merge? τ = some ρ) (x : String) :
    ρ.get? x = (τ.get? x).or (σ.get? x) := by
  rw [merge?] at h
  split at h
  · cases h
    exact get?_extend σ τ.nodup_variables
  · cases h

end Substitution

end LogicGrid
