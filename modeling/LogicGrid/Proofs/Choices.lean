import LogicGrid.Proofs.Unifiers

/-!
# Choices of facts

A match chooses a fact for each antecedent and has the bindings of the unifiers of these pairs. So it is satisfied by
exactly the assignments that make each antecedent one with its fact (`Rule.exists_choice`), and the values of acyclic
bindings are such an assignment.

In which order the pairs come up makes no difference. To merge bindings is to take their union, as long as this binds no
variable twice (`merge?_eq_some_iff`), so two clauses may be matched in either order (`matchClause?_right_comm`): a
branch that one order cuts off at the first clause the other one cuts off at the second (`nestedMatches_swap_perm`).

* `unifies_of_mem_matchesIn` – an acyclic match makes each antecedent one with its fact, and binds no more than that;
* `perm_matchesIn` – clauses and facts in other orders give the same matches, each as often.
-/

namespace LogicGrid

open Unification

/-! ## What a match chooses -/

section Picks

variable {facts cs : List Fact} {picks : List (Fact × Substitution)} {τ : String → Term}

theorem Picks.mem_facts (h : Picks facts cs picks) : ∀ p ∈ picks, p.1 ∈ facts := by
  induction h with
  | nil => exact List.forall_mem_nil _
  | cons hp _ ih => exact List.forall_mem_cons.mpr ⟨hp.1, ih⟩

/-- The unifiers are satisfied by the assignments under which each clause is its fact. -/
theorem Picks.forall_satisfies_iff (h : Picks facts cs picks) :
    (∀ p ∈ picks, Satisfies τ p.2.bindings) ↔ cs.map (Fact.subst · τ) = picks.map (Fact.subst ·.1 τ) := by
  induction h with
  | nil => simp
  | cons hp _ ih =>
    rw [List.forall_mem_cons, Fact.satisfies_unify? hp.2, ih, List.map_cons, List.map_cons, List.cons.injEq]

end Picks

namespace Rule

variable {r : Rule} {facts : List Fact} {σ : Substitution}

/-- A match chooses a fact for each antecedent, and the assignments that make the two one are those that satisfy it. -/
theorem exists_choice (h : σ ∈ r.matchesIn facts) : ∃ fs : List Fact, (∀ f ∈ fs, f ∈ facts) ∧
    ∀ τ, Satisfies τ σ.bindings ↔ r.antecedents.map (Fact.subst · τ) = fs.map (Fact.subst · τ) := by
  rw [matchesIn_eq] at h
  obtain ⟨picks, hp, hb⟩ := exists_picks h
  refine ⟨picks.map Prod.fst, List.forall_mem_map.mpr hp.mem_facts, fun τ => ?_⟩
  have hall : Satisfies τ σ.bindings ↔ ∀ p ∈ picks, Satisfies τ p.2.bindings := by
    constructor
    · exact fun hs p hm b hbp => hs b ((hb b).mpr (Or.inr ⟨p, hm, hbp⟩))
    · intro hs b hbσ
      obtain ⟨p, hm, hbp⟩ := ((hb b).mp hbσ).resolve_left List.not_mem_nil
      exact hs p hm b hbp
  rw [hall, hp.forall_satisfies_iff, List.map_map]
  rfl

end Rule

theorem map_eq_map_iff_forall₂ {α β γ : Type} {f : α → γ} {g : β → γ} {as : List α} {bs : List β} :
    as.map f = bs.map g ↔ List.Forall₂ (fun a b => f a = g b) as bs := by
  rw [← List.forall₂_eq_eq_eq, List.forall₂_map_left_iff, List.forall₂_map_right_iff]

/-- **A match unifies every antecedent with a fact, all at once.** Of an acyclic match there is a choice of one fact for
each antecedent such that the values of the two are equal, antecedent by antecedent. The match is most general: the
assignments that satisfy it are those that make each antecedent one with its fact. -/
theorem unifies_of_mem_matchesIn {r : Rule} {facts : List Fact} {σ : Substitution} (h : σ ∈ r.matchesIn facts)
    (ha : σ.Acyclic) : ∃ fs : List Fact, (∀ f ∈ fs, f ∈ facts) ∧
      List.Forall₂ (fun a f => a.apply σ = f.apply σ) r.antecedents fs ∧
      ∀ τ, Satisfies τ σ.bindings ↔ List.Forall₂ (fun a f => a.subst τ = f.subst τ) r.antecedents fs := by
  obtain ⟨fs, hfs, hsat⟩ := Rule.exists_choice h
  refine ⟨fs, hfs, ?_, fun τ => (hsat τ).trans map_eq_map_iff_forall₂⟩
  -- the values are an assignment that satisfies the match
  exact map_eq_map_iff_forall₂.mp ((hsat _).mp ha.satisfies_resolve)

/-- The match of `p(X) AND q(Y) -> r(X)` with `p(f(Y))` and `q(a)`. -/
def crossed : Substitution := chained.insert "Y" (.const "a")

theorem matchesIn_entwined :
    entwined.matchesIn [⟨"p", [.app "f" [.var "Y"]]⟩, ⟨"q", [.const "a"]⟩] = [crossed] := by
  rw [Rule.matchesIn_eq]
  cbv

/-- The first clause binds `X` to `f(Y)`, the second one binds `Y`; under both, `p(X)` and `p(f(Y))` become `p(f(a))`. -/
theorem unifies_crossed :
    crossed ∈ entwined.matchesIn [⟨"p", [.app "f" [.var "Y"]]⟩, ⟨"q", [.const "a"]⟩] ∧ crossed.Acyclic ∧
    ∃ fs : List Fact, (∀ f ∈ fs, f ∈ [⟨"p", [.app "f" [.var "Y"]]⟩, ⟨"q", [.const "a"]⟩]) ∧
      List.Forall₂ (fun a f => a.apply crossed = f.apply crossed) entwined.antecedents fs ∧
      ∀ τ, Satisfies τ crossed.bindings ↔ List.Forall₂ (fun a f => a.subst τ = f.subst τ) entwined.antecedents fs := by
  have hmem : crossed ∈ entwined.matchesIn [⟨"p", [.app "f" [.var "Y"]]⟩, ⟨"q", [.const "a"]⟩] :=
    matchesIn_entwined ▸ List.mem_singleton.mpr rfl
  have hac : crossed.Acyclic := acyclic_chained.insert rfl (by simp [Substitution.Unbound]) (by simp)
  exact ⟨hmem, hac, unifies_of_mem_matchesIn hmem hac⟩

/-! ## Merging in any order -/

namespace Substitution

variable {σ ρ ρ' π : Substitution}

theorem agrees_of_subset (hσ : σ.bindings ⊆ π.bindings) (hρ : ρ.bindings ⊆ π.bindings) : σ.agrees ρ = true := by
  refine agrees_iff.mpr fun x t u ht hu => ?_
  have ht' : π.get? x = some t := get?_of_subset hσ ht
  have hu' : π.get? x = some u := get?_of_subset hρ hu
  exact Option.some.inj (ht'.symm.trans hu')

theorem exists_merge?_of_subset (hσ : σ.bindings ⊆ π.bindings) (hρ : ρ.bindings ⊆ π.bindings) :
    ∃ π', σ.merge? ρ = some π' := ⟨_, by rw [merge?, if_pos (agrees_of_subset hσ hρ)]⟩

theorem ext_mem (h : ∀ b, b ∈ σ.bindings ↔ b ∈ ρ.bindings) : σ = ρ :=
  ext_get? fun x => Option.ext fun t => by rw [get?_eq_some_iff, get?_eq_some_iff, h]

/-- **A merge is a union.** -/
theorem merge?_eq_some_iff : σ.merge? ρ = some π ↔ ∀ b, b ∈ π.bindings ↔ b ∈ σ.bindings ∨ b ∈ ρ.bindings := by
  refine ⟨fun h _ => mem_merge? h, fun h => ?_⟩
  obtain ⟨π', hπ⟩ := exists_merge?_of_subset (fun b hb => (h b).mpr (Or.inl hb)) fun b hb => (h b).mpr (Or.inr hb)
  rw [hπ, ext_mem fun b => (mem_merge? hπ).trans (h b).symm]

theorem bind_merge?_eq_some_iff : (σ.merge? ρ).bind (·.merge? ρ') = some π ↔
    ∀ b, b ∈ π.bindings ↔ b ∈ σ.bindings ∨ b ∈ ρ.bindings ∨ b ∈ ρ'.bindings := by
  rw [Option.bind_eq_some_iff]
  constructor
  · rintro ⟨σ', h, h'⟩ b
    rw [mem_merge? h', mem_merge? h, or_assoc]
  · intro h
    obtain ⟨σ', hσ'⟩ := exists_merge?_of_subset (fun b hb => (h b).mpr (Or.inl hb)) fun b hb =>
      (h b).mpr (Or.inr (Or.inl hb))
    refine ⟨σ', hσ', merge?_eq_some_iff.mpr fun b => ?_⟩
    rw [h, mem_merge? hσ', or_assoc]

/-- Two merges may be made in either order. -/
theorem merge?_right_comm (σ ρ ρ' : Substitution) :
    (σ.merge? ρ).bind (·.merge? ρ') = (σ.merge? ρ').bind (·.merge? ρ) := by
  refine Option.ext fun π => ?_
  rw [bind_merge?_eq_some_iff, bind_merge?_eq_some_iff]
  exact forall_congr' fun b => by rw [or_comm (a := b ∈ ρ.bindings)]

end Substitution

/-! ## Clauses and facts in any order -/

/-- Two nested loops may be exchanged. -/
theorem flatMap_flatMap_perm {α β γ : Type} (as : List α) (bs : List β) (h : α → β → List γ) :
    (as.flatMap fun a => bs.flatMap (h a)).Perm (bs.flatMap fun b => as.flatMap (h · b)) := by
  simp only [← Multiset.coe_eq_coe, ← Multiset.coe_bind]
  exact Multiset.bind_bind (as : Multiset α) (bs : Multiset β)

section Orders

variable {facts facts' cs cs' : List Fact}

/-- Two clauses may be matched in either order. -/
theorem matchClause?_right_comm (σ : Substitution) (c d f g : Fact) :
    (matchClause? σ c f).bind (matchClause? · d g) = (matchClause? σ d g).bind (matchClause? · c f) := by
  cases hc : c.unify? f with
  | none => simp [matchClause?, hc]
  | some ρ =>
    cases hd : d.unify? g with
    | none => simp [matchClause?, hd]
    | some ρ' => simpa [matchClause?, hc, hd] using Substitution.merge?_right_comm σ ρ ρ'

theorem nestedMatches_cons (σ : Substitution) (c : Fact) (cs : List Fact) : nestedMatches facts σ (c :: cs) =
    facts.flatMap fun f => (matchClause? σ c f).toList.flatMap (nestedMatches facts · cs) := by
  rw [nestedMatches]
  refine congrArg (facts.flatMap ·) (funext fun f => ?_)
  cases matchClause? σ c f <;> simp

theorem nestedMatches_cons_cons (σ : Substitution) (c d : Fact) (cs : List Fact) :
    nestedMatches facts σ (c :: d :: cs) = facts.flatMap fun f => facts.flatMap fun g =>
      ((matchClause? σ c f).bind (matchClause? · d g)).toList.flatMap (nestedMatches facts · cs) := by
  rw [nestedMatches_cons]
  refine congrArg (facts.flatMap ·) (funext fun f => ?_)
  cases matchClause? σ c f with
  | none => simp
  | some σ' => simp [nestedMatches_cons]

theorem nestedMatches_swap_perm (σ : Substitution) (c d : Fact) (cs : List Fact) :
    (nestedMatches facts σ (c :: d :: cs)).Perm (nestedMatches facts σ (d :: c :: cs)) := by
  rw [nestedMatches_cons_cons, nestedMatches_cons_cons]
  refine (flatMap_flatMap_perm facts facts _).trans (List.Perm.of_eq ?_)
  refine congrArg (facts.flatMap ·) (funext fun g => congrArg (facts.flatMap ·) (funext fun f => ?_))
  rw [matchClause?_right_comm]

theorem nestedMatches_perm_clauses (h : cs.Perm cs') (σ : Substitution) :
    (nestedMatches facts σ cs).Perm (nestedMatches facts σ cs') := by
  induction h generalizing σ with
  | nil => exact .refl _
  | cons c _ ih =>
    rw [nestedMatches_cons, nestedMatches_cons]
    exact .flatMap_left _ fun f _ => .flatMap_left _ fun σ' _ => ih σ'
  | swap c d cs => exact nestedMatches_swap_perm σ d c cs
  | trans _ _ ih₁ ih₂ => exact (ih₁ σ).trans (ih₂ σ)

theorem nestedMatches_perm_facts (h : facts.Perm facts') : ∀ (cs : List Fact) (σ : Substitution),
    (nestedMatches facts σ cs).Perm (nestedMatches facts' σ cs)
  | [], _ => .refl _
  | c :: cs, σ => by
    rw [nestedMatches_cons, nestedMatches_cons]
    exact h.flatMap fun f _ => .flatMap_left _ fun σ' _ => nestedMatches_perm_facts h cs σ'

end Orders

/-- **The order of clauses and of facts does not matter to matching.** A rule with its antecedents in another order, and
facts in another order, give the same matches, each as often, and the same facts follow, each as often. Two
substitutions are the same as soon as they bind the same variables to the same terms. -/
theorem perm_matchesIn (r : Rule) {as facts facts' : List Fact} (ha : as.Perm r.antecedents)
    (hf : facts.Perm facts') :
    (({ r with antecedents := as } : Rule).matchesIn facts).Perm (r.matchesIn facts') ∧
    (({ r with antecedents := as } : Rule).apply facts).Perm (r.apply facts') := by
  have hmatches : (({ r with antecedents := as } : Rule).matchesIn facts).Perm (r.matchesIn facts') := by
    rw [Rule.matchesIn_eq, Rule.matchesIn_eq]
    exact (nestedMatches_perm_clauses ha _).trans (nestedMatches_perm_facts hf _ _)
  exact ⟨hmatches, (hmatches.map _).filter _⟩

/-- With `q(Y)` in front, and `q(a)` in front of `p(f(Y))`, the rule has the same match and yields `r(f(a))` once. -/
theorem perm_matchesIn_entwined :
    ({ entwined with antecedents := [⟨"q", [.var "Y"]⟩, ⟨"p", [.var "X"]⟩] } : Rule).matchesIn
      [⟨"q", [.const "a"]⟩, ⟨"p", [.app "f" [.var "Y"]]⟩] = [crossed] ∧
    ({ entwined with antecedents := [⟨"q", [.var "Y"]⟩, ⟨"p", [.var "X"]⟩] } : Rule).apply
      [⟨"q", [.const "a"]⟩, ⟨"p", [.app "f" [.var "Y"]]⟩] = [⟨"r", [.app "f" [.const "a"]]⟩] := by
  have happly : entwined.apply [⟨"p", [.app "f" [.var "Y"]]⟩, ⟨"q", [.const "a"]⟩] =
      [⟨"r", [.app "f" [.const "a"]]⟩] := by
    rw [Rule.apply, matchesIn_entwined]
    decide
  have ha : [⟨"q", [.var "Y"]⟩, ⟨"p", [.var "X"]⟩].Perm entwined.antecedents := .swap _ _ _
  have hf : [(⟨"q", [.const "a"]⟩ : Fact), ⟨"p", [.app "f" [.var "Y"]]⟩].Perm
      [⟨"p", [.app "f" [.var "Y"]]⟩, ⟨"q", [.const "a"]⟩] := .swap _ _ _
  obtain ⟨hmatches, hfacts⟩ := perm_matchesIn entwined ha hf
  rw [matchesIn_entwined] at hmatches
  rw [happly] at hfacts
  exact ⟨List.perm_singleton.mp hmatches, List.perm_singleton.mp hfacts⟩

end LogicGrid
