import LogicGrid.Proofs.Matches
import Mathlib.Data.List.Nodup

/-!
# Every assignment once

A match over ground facts binds the variables of each clause to the values under which the clause is the fact it was
matched with, so it tells which fact that was (`eq_subst_of_mem_nestedMatches`). Different facts lead to different
matches, and over facts without repetition no match comes twice (`nodup_nestedMatches`).

* `Rule.exact_join` – what a rule yields from ground facts, and how often each assignment is found.
-/

namespace LogicGrid

/-- No other substitution stands for the same assignment. -/
theorem Substitution.Restricts.iff_eq {σ ρ : Substitution} {θ : String → Term} {xs : List String}
    (h : σ.Restricts θ xs) : ρ.Restricts θ xs ↔ ρ = σ :=
  ⟨fun h' => ext_get? fun x => (h' x).trans (h x).symm, fun e => e ▸ h⟩

section Join

variable {facts cs : List Fact} {σ σ' ρ : Substitution} {θ : String → Term} {xs : List String} {c f : Fact}

/-- A match tells which fact its first clause was matched with. -/
theorem eq_subst_of_mem_nestedMatches (hg : ∀ f ∈ facts, f.isGround = true) (hσ : σ.Restricts θ xs) (hf : f ∈ facts)
    (hm : matchClause? σ c f = some σ') (h : ρ ∈ nestedMatches facts σ' cs) :
    f = c.subst fun x => (ρ.get? x).getD (.var x) := by
  obtain ⟨η, hη, -, rfl⟩ := restricts_of_matchClause? (hg f hf) hσ hm
  obtain ⟨η', hη', hext, -⟩ := restricts_of_mem_nestedMatches hg hη h
  refine Fact.subst_congr fun x hx => ?_
  have hget : ρ.get? x = some (η' x) := hη'.get? (List.mem_append_left _ (List.mem_append_right _ hx))
  rw [hget, hext x (List.mem_append_right _ hx), Option.getD_some]

/-- Over facts without repetition no match comes twice. -/
theorem nodup_nestedMatches (hg : ∀ f ∈ facts, f.isGround = true) (hn : facts.Nodup) : ∀ {cs : List Fact}
    {σ : Substitution} {θ : String → Term} {xs : List String}, σ.Restricts θ xs → (nestedMatches facts σ cs).Nodup
  | [], σ, θ, xs, _ => List.nodup_singleton σ
  | c :: cs, σ, θ, xs, hσ => by
    rw [nestedMatches, List.nodup_flatMap]
    refine ⟨fun f hf => ?_, hn.imp_of_mem fun {f f'} hf hf' hne => ?_⟩
    · cases hm : matchClause? σ c f with
      | none => exact .nil
      | some σ' =>
        obtain ⟨η, hη, -⟩ := restricts_of_matchClause? (hg f hf) hσ hm
        exact nodup_nestedMatches hg hn hη
    · -- a match that two facts lead to would be matched with both
      intro ρ hρ hρ'
      cases hm : matchClause? σ c f with
      | none => simp [hm] at hρ
      | some τ =>
        cases hm' : matchClause? σ c f' with
        | none => simp [hm'] at hρ'
        | some τ' =>
          have h := eq_subst_of_mem_nestedMatches hg hσ hf hm (by simpa [hm] using hρ)
          have h' := eq_subst_of_mem_nestedMatches hg hσ hf' hm' (by simpa [hm'] using hρ')
          exact hne (h.trans h'.symm)

end Join

/-- **A rule joins ground facts exactly.** It yields the ground instances of its consequent under the assignments to the
variables of its antecedents that make every antecedent a fact; each of its matches is such an assignment; and over
facts without repetition each such assignment is matched exactly once. -/
theorem Rule.exact_join {r : Rule} {facts : List Fact} (hg : ∀ f ∈ facts, f.isGround = true) :
    (∀ g, g ∈ r.apply facts ↔ ∃ θ, Grounds θ r.boundVars ∧ (∀ a ∈ r.antecedents, a.subst θ ∈ facts) ∧
      r.consequent.vars ⊆ r.boundVars ∧ g = r.consequent.subst θ) ∧
    (∀ σ ∈ r.matchesIn facts, ∃ θ, Grounds θ r.boundVars ∧ (∀ a ∈ r.antecedents, a.subst θ ∈ facts) ∧
      σ.Restricts θ r.boundVars) ∧
    (facts.Nodup → ∀ θ, Grounds θ r.boundVars → (∀ a ∈ r.antecedents, a.subst θ ∈ facts) →
      ∃ σ : Substitution, (∀ ρ : Substitution, ρ.Restricts θ r.boundVars ↔ ρ = σ) ∧
        (r.matchesIn facts).count σ = 1) := by
  refine ⟨?_, ?_, ?_⟩
  · intro g
    rw [mem_apply_iff hg]
    refine exists_congr fun θ => and_congr_right fun hθ => and_congr_right fun _ => ?_
    constructor
    · rintro ⟨rfl, hgr⟩
      exact ⟨hθ.isGround_subst_iff.mp hgr, rfl⟩
    · rintro ⟨hvars, rfl⟩
      exact ⟨rfl, hθ.isGround_subst_iff.mpr hvars⟩
  · intro σ hσ
    obtain ⟨θ, hθ, hr, hin⟩ := exists_grounds_of_mem_matchesIn hg hσ
    exact ⟨θ, hθ, hin, hr⟩
  · intro hn θ _ hin
    obtain ⟨σ, hσ, hr⟩ := exists_mem_matchesIn hg hin
    have hnodup : (r.matchesIn facts).Nodup := matchesIn_eq r facts ▸
      nodup_nestedMatches hg hn (Substitution.restricts_empty .var)
    exact ⟨σ, fun ρ => hr.iff_eq, List.count_eq_one_of_mem hnodup hσ⟩

/-- The rule `p(X, Y) AND p(Y, Z) -> q(X, Z)`. -/
def twoSteps : Rule :=
  ⟨[⟨"p", [.var "X", .var "Y"]⟩, ⟨"p", [.var "Y", .var "Z"]⟩], ⟨"q", [.var "X", .var "Z"]⟩⟩

/-- The facts `p(a, b)` and `p(b, c)`. -/
def twoEdges : List Fact := [⟨"p", [.const "a", .const "b"]⟩, ⟨"p", [.const "b", .const "c"]⟩]

/-- The two facts are joined at `Y`, in one way. -/
theorem exact_join_twoEdges :
    (∀ f ∈ twoEdges, f.isGround = true) ∧ twoEdges.Nodup ∧
    ⟨"q", [.const "a", .const "c"]⟩ ∈ twoSteps.apply twoEdges ∧
    ∃ θ, Grounds θ twoSteps.boundVars ∧ (∀ a ∈ twoSteps.antecedents, a.subst θ ∈ twoEdges) ∧
      ∃ σ : Substitution, (∀ ρ : Substitution, ρ.Restricts θ twoSteps.boundVars ↔ ρ = σ) ∧
        (twoSteps.matchesIn twoEdges).count σ = 1 := by
  let θ : String → Term := fun x =>
    if x = "X" then .const "a" else if x = "Y" then .const "b" else if x = "Z" then .const "c" else .var x
  have hg : ∀ f ∈ twoEdges, f.isGround = true := by decide
  have hn : twoEdges.Nodup := by decide
  have hθ : Grounds θ twoSteps.boundVars := by
    have hvars : twoSteps.boundVars = ["X", "Y", "Y", "Z"] := by decide
    refine ⟨by decide, fun x hx => ?_⟩
    rw [hvars] at hx
    simp_all [θ]
  have hin : ∀ a ∈ twoSteps.antecedents, a.subst θ ∈ twoEdges := by decide
  obtain ⟨happly, -, honce⟩ := Rule.exact_join (r := twoSteps) hg
  exact ⟨hg, hn, (happly _).mpr ⟨θ, hθ, hin, by decide, by decide⟩, θ, hθ, hin, honce hn θ hθ hin⟩

end LogicGrid
