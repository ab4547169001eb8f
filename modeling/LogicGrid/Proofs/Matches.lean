import LogicGrid.Proofs.Equations
import LogicGrid.Rule
import Mathlib.Data.Set.Basic

/-!
# Matching as a join

Over ground facts a match is an assignment: it gives every variable of the clauses a ground term, under which each
clause is one of the facts, and it binds nothing else. `Restricts` says which bindings stand for an assignment.

* `Substitution.mem_merge?` – a merge has the bindings of both sides;
* `restricts_of_mem_nestedMatches`, `exists_mem_nestedMatches` – every match is an assignment, and every assignment is
  found;
* `Rule.mem_apply_iff` – what a rule yields from ground facts.
-/

namespace LogicGrid

open Unification

/-! ## Bindings that stand for an assignment -/

namespace Substitution

variable {σ ρ π : Substitution} {θ θ' : String → Term} {xs ys : List String}

/-- The bindings are those of `θ` at the variables `xs`. -/
def Restricts (σ : Substitution) (θ : String → Term) (xs : List String) : Prop :=
  ∀ x, σ.get? x = if x ∈ xs then some (θ x) else none

theorem restricts_empty (θ : String → Term) : empty.Restricts θ [] := fun _ => rfl

theorem Restricts.get? (h : σ.Restricts θ xs) {x : String} (hx : x ∈ xs) : σ.get? x = some (θ x) := by
  rw [h x, if_pos hx]

theorem Restricts.get?_none (h : σ.Restricts θ xs) {x : String} (hx : x ∉ xs) : σ.get? x = none := by
  rw [h x, if_neg hx]

/-- Only the members of the list and the values at them matter. -/
theorem Restricts.congr (h : σ.Restricts θ xs) (hm : ∀ x, x ∈ xs ↔ x ∈ ys) (he : ∀ x ∈ xs, θ x = θ' x) :
    σ.Restricts θ' ys := by
  intro x
  by_cases hx : x ∈ xs
  · rw [h.get? hx, if_pos ((hm x).mp hx), he x hx]
  · rw [h.get?_none hx, if_neg (mt (hm x).mpr hx)]

/-! ## Merging -/

theorem agrees_iff : σ.agrees ρ = true ↔ ∀ x t u, σ.get? x = some t → ρ.get? x = some u → t = u := by
  simp only [agrees, List.all_eq_true, Bool.or_eq_true, beq_iff_eq]
  constructor
  · intro h x t u ht hu
    rcases h (x, u) ((get?_eq_some_iff ρ).mp hu) with h | h
    · exact nomatch h.symm.trans ht
    · exact Option.some.inj (ht.symm.trans h)
  · rintro h ⟨x, u⟩ hb
    cases ht : σ.get? x with
    | none => exact Or.inl rfl
    | some t => exact Or.inr (congrArg some (h x t u ht ((get?_eq_some_iff ρ).mpr hb)))

theorem agrees_of_merge? (h : σ.merge? ρ = some π) : σ.agrees ρ = true := by
  rw [merge?] at h
  split at h
  · assumption
  · cases h

/-- A merge has the bindings of both. -/
theorem mem_merge? (h : σ.merge? ρ = some π) {b : String × Term} :
    b ∈ π.bindings ↔ b ∈ σ.bindings ∨ b ∈ ρ.bindings := by
  obtain ⟨x, t⟩ := b
  have hag := agrees_iff.mp (agrees_of_merge? h)
  rw [← get?_eq_some_iff, ← get?_eq_some_iff, ← get?_eq_some_iff, get?_merge? h]
  cases hρ : ρ.get? x with
  | none => simp
  | some u =>
    simp only [Option.some_or, Option.some.injEq]
    exact ⟨Or.inr, fun e => e.elim (fun ht => (hag x t u ht hρ).symm) id⟩

theorem exists_merge? (hσ : σ.Restricts θ xs) (hρ : ρ.Restricts θ ys) :
    ∃ π, σ.merge? ρ = some π ∧ π.Restricts θ (xs ++ ys) := by
  have hag : σ.agrees ρ = true := agrees_iff.mpr fun x t u ht hu => by
    rw [hσ x] at ht
    rw [hρ x] at hu
    split at ht <;> split at hu <;> simp_all
  have hm : σ.merge? ρ = some (σ.extend ρ.bindings) := by rw [merge?, if_pos hag]
  refine ⟨_, hm, fun x => ?_⟩
  rw [get?_merge? hm, hρ x, hσ x]
  by_cases hx : x ∈ xs <;> by_cases hy : x ∈ ys <;> simp [hx, hy]

/-- Merged bindings restrict an assignment that has the values of both. -/
theorem restricts_of_merge? (hσ : σ.Restricts θ xs) (hρ : ρ.Restricts θ' ys) (h : σ.merge? ρ = some π) :
    ∃ η, π.Restricts η (xs ++ ys) ∧ (∀ x ∈ xs, η x = θ x) ∧ ∀ x ∈ ys, η x = θ' x := by
  have hag := agrees_iff.mp (agrees_of_merge? h)
  refine ⟨fun x => if x ∈ ys then θ' x else θ x, fun x => ?_, fun x hx => ?_, fun x hx => if_pos hx⟩
  · rw [get?_merge? h, hρ x, hσ x]
    by_cases hx : x ∈ xs <;> by_cases hy : x ∈ ys <;> simp [hx, hy]
  · by_cases hy : x ∈ ys
    · exact (if_pos hy).trans (hag x _ _ (hσ.get? hx) (hρ.get? hy)).symm
    · exact if_neg hy

/-! ## Ground values -/

/-- Ground values need no chain of bindings. -/
theorem resolve_of_restricts (h : σ.Restricts θ xs) (hg : ∀ x ∈ xs, (θ x).isGround = true) (x : String) :
    σ.resolve σ.size x = if x ∈ xs then θ x else .var x := by
  by_cases hx : x ∈ xs
  · have hb := (get?_eq_some_iff σ).mp (h.get? hx)
    obtain ⟨n, hn⟩ : ∃ n, σ.size = n + 1 := Nat.exists_eq_succ_of_ne_zero (List.length_pos_of_mem hb).ne'
    rw [hn, resolve, h.get? hx, if_pos hx]
    exact Term.subst_of_isGround (hg x hx)
  · rw [if_neg hx]
    cases σ.size with
    | zero => rfl
    | succ n => rw [resolve, h.get?_none hx]

end Substitution

/-! ## One clause and one ground fact -/

namespace Unification

variable {es : List Equation} {bs : List (String × Term)} {θ : String → Term}

theorem get?_extend_solution (h : solve es = some bs) {x : String} {t : Term} :
    (Substitution.empty.extend bs).get? x = some t ↔ (x, t) ∈ bs := by
  rw [Substitution.get?_extend _ (nodup_solve h), Substitution.get?_empty, Option.or_none,
    Substitution.lookup_eq_some_iff (nodup_solve h)]

/-- Over ground right sides the solution is the assignment that equalizes the equations. -/
theorem restricts_solution (hg : RightGround es) (h : solve es = some bs) (he : Equalizes θ es) :
    (Substitution.empty.extend bs).Restricts θ (vars es) := by
  intro x
  have hval : ∀ t, (x, t) ∈ bs → θ x = t := fun t hb => by
    have := (satisfies_iff_equalizes h).mpr he (x, t) hb
    rwa [Term.subst_of_isGround (isGround_of_mem_solve hg h hb)] at this
  split
  · next hx =>
    obtain ⟨⟨_, t⟩, hb, rfl⟩ := List.mem_map.mp (mem_keys_solve hg h hx)
    rw [hval t hb]
    exact (get?_extend_solution h).mpr hb
  · next hx =>
    cases ht : (Substitution.empty.extend bs).get? x with
    | none => rfl
    | some t => exact absurd (mem_vars_of_mem_solve h ((get?_extend_solution h).mp ht)).1 hx

theorem exists_equalizes (hg : RightGround es) (h : solve es = some bs) : ∃ θ, Equalizes θ es := by
  refine ⟨fun x => (bs.lookup x).getD (.var x), (satisfies_iff_equalizes h).mp fun b hb => ?_⟩
  rw [(Substitution.lookup_eq_some_iff (nodup_solve h)).mpr hb, Term.subst_of_isGround (isGround_of_mem_solve hg h hb)]
  rfl

end Unification

namespace Fact

variable {c f : Fact} {σ : Substitution} {τ θ : String → Term}

theorem subst_eq_iff : c.subst τ = f.subst τ ↔
    c.predicate = f.predicate ∧ c.args.map (Term.subst τ) = f.args.map (Term.subst τ) := by
  simp [subst]

theorem unify?_eq_some_iff : c.unify? f = some σ ↔ (c.predicate = f.predicate ∧ c.arity = f.arity) ∧
    ∃ bs, solve (c.args.zip f.args) = some bs ∧ Substitution.empty.extend bs = σ := by
  rw [unify?]
  split
  · next h => simp [h]
  · next h => simp [h]

/-- The unifier of two facts is satisfied by the assignments under which they are one fact. -/
theorem satisfies_unify? (h : c.unify? f = some σ) : Satisfies τ σ.bindings ↔ c.subst τ = f.subst τ := by
  obtain ⟨⟨hp, ha⟩, bs, hbs, rfl⟩ := unify?_eq_some_iff.mp h
  rw [subst_eq_iff, ← equalizes_zip ha, ← satisfies_iff_equalizes hbs]
  simp only [hp, true_and]
  exact forall_congr' fun b => by rw [← Substitution.get?_eq_some_iff, get?_extend_solution hbs]

theorem rightGround_zip (hf : f.isGround = true) : RightGround (c.args.zip f.args) := fun _ he =>
  List.all_eq_true.mp hf _ (List.of_mem_zip he).2

theorem mem_vars_zip (hf : f.isGround = true) (ha : c.arity = f.arity) (x : String) :
    x ∈ Unification.vars (c.args.zip f.args) ↔ x ∈ c.vars := by
  constructor
  · intro hx
    have hx := vars_zip_subset _ _ hx
    rw [← vars, ← vars, isGround_iff.mp hf, List.append_nil] at hx
    exact hx
  · exact fun hx => subset_vars_zip ha (List.mem_append_left _ hx)

/-- A fact that is an instance of a clause unifies with it. -/
theorem exists_unify? (hf : f.isGround = true) (h : c.subst θ = f) :
    ∃ σ, c.unify? f = some σ ∧ σ.Restricts θ c.vars := by
  have he : c.subst θ = f.subst θ := h.trans (subst_of_isGround hf).symm
  have ha : c.arity = f.arity := by rw [← h, arity_subst]
  rw [subst_eq_iff, ← equalizes_zip ha] at he
  obtain ⟨bs, hbs⟩ := exists_solve (rightGround_zip hf) he.2
  exact ⟨_, unify?_eq_some_iff.mpr ⟨⟨he.1, ha⟩, bs, hbs, rfl⟩,
    (restricts_solution (rightGround_zip hf) hbs he.2).congr (mem_vars_zip hf ha) fun _ _ => rfl⟩

/-- A clause that unifies with a ground fact has it as an instance. -/
theorem restricts_of_unify? (hf : f.isGround = true) (h : c.unify? f = some σ) :
    ∃ θ, c.subst θ = f ∧ σ.Restricts θ c.vars := by
  obtain ⟨⟨hp, ha⟩, bs, hbs, rfl⟩ := unify?_eq_some_iff.mp h
  obtain ⟨θ, hθ⟩ := exists_equalizes (rightGround_zip hf) hbs
  refine ⟨θ, ?_, (restricts_solution (rightGround_zip hf) hbs hθ).congr (mem_vars_zip hf ha) fun _ _ => rfl⟩
  rw [← subst_of_isGround (g := θ) hf, subst_eq_iff]
  exact ⟨hp, (equalizes_zip ha).mp hθ⟩

end Fact

/-! ## All clauses and a list of ground facts -/

section Join

variable {facts : List Fact} {σ σ' ρ : Substitution} {θ : String → Term} {xs : List String} {c f : Fact}

theorem matchClause?_eq_some_iff :
    matchClause? σ c f = some σ' ↔ ∃ ρ, c.unify? f = some ρ ∧ σ.merge? ρ = some σ' := Option.bind_eq_some_iff

theorem mem_nestedMatches_cons {cs : List Fact} : ρ ∈ nestedMatches facts σ (c :: cs) ↔
    ∃ f ∈ facts, ∃ σ', matchClause? σ c f = some σ' ∧ ρ ∈ nestedMatches facts σ' cs := by
  rw [nestedMatches, List.mem_flatMap]
  refine exists_congr fun f => and_congr_right fun _ => ?_
  cases matchClause? σ c f <;> simp

/-- A clause that matches a ground fact extends an assignment to its variables. -/
theorem restricts_of_matchClause? (hf : f.isGround = true) (hσ : σ.Restricts θ xs) (h : matchClause? σ c f = some σ') :
    ∃ η, σ'.Restricts η (xs ++ c.vars) ∧ (∀ x ∈ xs, η x = θ x) ∧ c.subst η = f := by
  obtain ⟨ρ', hu, hmerge⟩ := matchClause?_eq_some_iff.mp h
  obtain ⟨θ', hθ', hρ'⟩ := Fact.restricts_of_unify? hf hu
  obtain ⟨η, hη, hxs, hc⟩ := Substitution.restricts_of_merge? hσ hρ' hmerge
  exact ⟨η, hη, hxs, (Fact.subst_congr hc).trans hθ'⟩

/-- A match extends the assignment it starts from by one under which every clause is a fact. -/
theorem restricts_of_mem_nestedMatches (hg : ∀ f ∈ facts, f.isGround = true) : ∀ {cs : List Fact}
    {σ : Substitution} {θ : String → Term} {xs : List String}, σ.Restricts θ xs → ρ ∈ nestedMatches facts σ cs →
      ∃ η, ρ.Restricts η (xs ++ cs.flatMap Fact.vars) ∧ (∀ x ∈ xs, η x = θ x) ∧ ∀ c ∈ cs, c.subst η ∈ facts
  | [], σ, θ, xs, hσ, h => by
    cases List.mem_singleton.mp h
    exact ⟨θ, by simpa using hσ, fun _ _ => rfl, by simp⟩
  | c :: cs, σ, θ, xs, hσ, h => by
    obtain ⟨f, hf, σ', hm, h⟩ := mem_nestedMatches_cons.mp h
    obtain ⟨η, hη, hxs, hc⟩ := restricts_of_matchClause? (hg f hf) hσ hm
    obtain ⟨η', hη', hext, hcs⟩ := restricts_of_mem_nestedMatches hg hη h
    refine ⟨η', by simpa using hη', fun x hx => (hext x (List.mem_append_left _ hx)).trans (hxs x hx), ?_⟩
    refine List.forall_mem_cons.mpr ⟨?_, hcs⟩
    rw [Fact.subst_congr fun x hx => hext x (List.mem_append_right _ hx), hc]
    exact hf

/-- An assignment under which every clause is a fact is found. -/
theorem exists_mem_nestedMatches (hg : ∀ f ∈ facts, f.isGround = true) : ∀ {cs : List Fact} {σ : Substitution}
    {xs : List String}, σ.Restricts θ xs → (∀ c ∈ cs, c.subst θ ∈ facts) →
      ∃ ρ ∈ nestedMatches facts σ cs, ρ.Restricts θ (xs ++ cs.flatMap Fact.vars)
  | [], σ, xs, hσ, _ => ⟨σ, List.mem_singleton.mpr rfl, by simpa using hσ⟩
  | c :: cs, σ, xs, hσ, h => by
    obtain ⟨hc, hcs⟩ := List.forall_mem_cons.mp h
    obtain ⟨ρ', hu, hρ'⟩ := Fact.exists_unify? (hg _ hc) rfl
    obtain ⟨σ', hmerge, hσ'⟩ := Substitution.exists_merge? hσ hρ'
    obtain ⟨ρ, hρ, hr⟩ := exists_mem_nestedMatches hg hσ' hcs
    exact ⟨ρ, mem_nestedMatches_cons.mpr ⟨_, hc, σ', matchClause?_eq_some_iff.mpr ⟨ρ', hu, hmerge⟩, hρ⟩,
      by simpa using hr⟩

end Join

/-! ## One rule -/

/-- The variables of the list have ground values, and every other variable stands for itself. -/
structure Grounds (θ : String → Term) (xs : List String) : Prop where
  ground : ∀ x ∈ xs, (θ x).isGround = true
  free : ∀ x ∉ xs, θ x = .var x

namespace Grounds

variable {θ : String → Term} {xs : List String} {f : Fact}

theorem apply_eq {σ : Substitution} (h : Grounds θ xs) (hσ : σ.Restricts θ xs) (f : Fact) : f.apply σ = f.subst θ := by
  rw [Fact.apply_eq_subst]
  refine Fact.subst_congr fun x _ => ?_
  rw [Substitution.resolve_of_restricts hσ h.ground]
  split
  · rfl
  · next hx => exact (h.free x hx).symm

/-- An instance is ground when the variables of the fact are in the list. -/
theorem isGround_subst_iff (h : Grounds θ xs) : (f.subst θ).isGround = true ↔ f.vars ⊆ xs := by
  rw [Fact.isGround_iff, Fact.vars_subst, List.flatMap_eq_nil_iff]
  refine forall₂_congr fun x _ => ⟨fun hx => ?_, fun hx => Term.isGround_iff.mp (h.ground x hx)⟩
  by_contra hnot
  simp [h.free x hnot] at hx

end Grounds

namespace Rule

/-- The variables of the antecedents, with repetitions. -/
def boundVars (r : Rule) : List String := r.antecedents.flatMap Fact.vars

/-- Some assignment to the variables of the antecedents puts all antecedents in the set and makes the consequent the
ground fact `g`. -/
def Yields (r : Rule) (S : Set Fact) (g : Fact) : Prop :=
  ∃ θ, Grounds θ r.boundVars ∧ (∀ a ∈ r.antecedents, a.subst θ ∈ S) ∧ r.consequent.subst θ = g ∧ g.isGround = true

theorem Yields.mono {r : Rule} {S T : Set Fact} {g : Fact} (h : r.Yields S g) (hST : S ⊆ T) : r.Yields T g := by
  obtain ⟨θ, hθ, hS, hg⟩ := h
  exact ⟨θ, hθ, fun a ha => hST (hS a ha), hg⟩

/-- Under ground instances of the antecedents their variables have ground values. -/
theorem isGround_of_instances {r : Rule} {facts : List Fact} {θ : String → Term}
    (hg : ∀ f ∈ facts, f.isGround = true) (h : ∀ a ∈ r.antecedents, a.subst θ ∈ facts) {x : String}
    (hx : x ∈ r.boundVars) : (θ x).isGround = true := by
  obtain ⟨a, ha, hx⟩ := List.mem_flatMap.mp hx
  have hvars : (a.vars.flatMap fun x => (θ x).vars) = [] :=
    Fact.vars_subst.symm.trans (Fact.isGround_iff.mp (hg _ (h a ha)))
  exact Term.isGround_iff.mpr (List.flatMap_eq_nil_iff.mp hvars x hx)

/-- A match over ground facts is an assignment that puts all antecedents among them. -/
theorem exists_grounds_of_mem_matchesIn {r : Rule} {facts : List Fact} {σ : Substitution}
    (hg : ∀ f ∈ facts, f.isGround = true) (h : σ ∈ r.matchesIn facts) :
    ∃ θ, Grounds θ r.boundVars ∧ σ.Restricts θ r.boundVars ∧ ∀ a ∈ r.antecedents, a.subst θ ∈ facts := by
  rw [matchesIn_eq] at h
  obtain ⟨θ, hr, -, hin⟩ := restricts_of_mem_nestedMatches hg (Substitution.restricts_empty .var) h
  have hsame : ∀ x ∈ r.boundVars, θ x = if x ∈ r.boundVars then θ x else .var x := fun x hx => (if_pos hx).symm
  refine ⟨fun x => if x ∈ r.boundVars then θ x else .var x, ⟨fun x hx => ?_, fun x hx => if_neg hx⟩,
    hr.congr (fun _ => Iff.rfl) hsame, fun a ha => ?_⟩
  · rw [if_pos hx]
    exact isGround_of_instances hg hin hx
  · rw [← Fact.subst_congr fun x hx => hsame x (List.mem_flatMap.mpr ⟨a, ha, hx⟩)]
    exact hin a ha

/-- And every such assignment is a match. -/
theorem exists_mem_matchesIn {r : Rule} {facts : List Fact} {θ : String → Term} (hg : ∀ f ∈ facts, f.isGround = true)
    (h : ∀ a ∈ r.antecedents, a.subst θ ∈ facts) : ∃ σ ∈ r.matchesIn facts, σ.Restricts θ r.boundVars := by
  rw [matchesIn_eq]
  exact exists_mem_nestedMatches hg (Substitution.restricts_empty θ) h

/-- **A rule joins ground facts**: it yields what its assignments yield, and nothing else. -/
theorem mem_apply_iff {r : Rule} {facts : List Fact} (hg : ∀ f ∈ facts, f.isGround = true) {g : Fact} :
    g ∈ r.apply facts ↔ r.Yields {f | f ∈ facts} g := by
  simp only [apply, List.mem_filter, List.mem_map]
  constructor
  · rintro ⟨⟨σ, hσ, rfl⟩, hgr⟩
    obtain ⟨θ, hθ, hr, hin⟩ := exists_grounds_of_mem_matchesIn hg hσ
    exact ⟨θ, hθ, hin, (hθ.apply_eq hr _).symm, hgr⟩
  · rintro ⟨θ, hθ, hin, rfl, hgr⟩
    obtain ⟨σ, hσ, hr⟩ := exists_mem_matchesIn hg hin
    exact ⟨⟨σ, hσ, hθ.apply_eq hr _⟩, hgr⟩

end Rule

end LogicGrid
