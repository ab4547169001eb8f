import LogicGrid.Proofs.Acyclic
import LogicGrid.Proofs.Matches
import Mathlib

/-!
# Cycles between unifiers

A unifier binds its variables in the order in which they are determined, and no later binding mentions an earlier
variable (`triangular_solve`), so its bindings form no cycle (`Fact.acyclic_of_unify?`). A match has the bindings of
one unifier for each clause (`exists_picks`). Nothing keeps these from forming a cycle together:

* `cyclic_entwined` – `p(X)` with `p(f(Y))` and `q(Y)` with `q(g(X))` give a match in which `X` leads back to `X`;
* `acyclic_of_mem_matchesIn` – a cycle takes two unifiers that have variables in their values, and the chains of a
  match come to an end exactly when it has no cycle.
-/

namespace LogicGrid

open Unification

/-! ## Solutions -/

namespace Unification

variable {bs : List (String × Term)} {es : List Equation} {x y : String}

/-- No binding mentions its own variable or an earlier one. -/
def Triangular (bs : List (String × Term)) : Prop :=
  (∀ b ∈ bs, b.1 ∉ b.2.vars) ∧ bs.Pairwise fun a b => a.1 ∉ b.2.vars

theorem triangular_solve (h : solve es = some bs) : Triangular bs := by
  fun_induction solve es generalizing bs with
  | case1 =>
    cases h
    exact ⟨List.forall_mem_nil _, .nil⟩
  | case2 => cases h
  | case3 e es new hr ih => exact ih h
  | case4 e es x t hr ih =>
    obtain ⟨bs', hbs, rfl⟩ := Option.map_eq_some_iff.mp h
    have hnot := (Equation.reduce_eq_determine hr).2
    obtain ⟨hself, hpair⟩ := ih hbs
    refine ⟨List.forall_mem_cons.mpr ⟨hnot, hself⟩, List.pairwise_cons.mpr ⟨fun b hb hx => ?_, hpair⟩⟩
    -- the variable is replaced in the equations that are left
    exact (mem_vars_eliminate hnot ((mem_vars_of_mem_solve hbs hb).2 hx)).1 rfl

/-- The variable `y` stands in the term that a binding of the list gives `x`. -/
def LeadsIn (bs : List (String × Term)) (x y : String) : Prop := ∃ t, (x, t) ∈ bs ∧ y ∈ t.vars

/-- Nothing leads to the first variable, so a chain from another one does not use its binding. -/
theorem transGen_of_triangular_cons {b : String × Term} (h : Triangular (b :: bs)) (hx : x ≠ b.1)
    (hxy : Relation.TransGen (LeadsIn (b :: bs)) x y) : Relation.TransGen (LeadsIn bs) x y := by
  obtain ⟨hself, hpair⟩ := h
  have hin : ∀ {u v : String}, u ≠ b.1 → LeadsIn (b :: bs) u v → LeadsIn bs u v ∧ v ≠ b.1 := by
    rintro u v hu ⟨t, ht, hv⟩
    have ht' : (u, t) ∈ bs := (List.mem_cons.mp ht).resolve_left fun e => hu (congrArg Prod.fst e)
    refine ⟨⟨t, ht', hv⟩, fun e => ?_⟩
    exact (List.pairwise_cons.mp hpair).1 (u, t) ht' (e ▸ hv)
  have hend : Relation.TransGen (LeadsIn bs) x y ∧ y ≠ b.1 := by
    induction hxy with
    | single hstep => exact ⟨.single (hin hx hstep).1, (hin hx hstep).2⟩
    | tail _ hstep ih => exact ⟨ih.1.tail (hin ih.2 hstep).1, (hin ih.2 hstep).2⟩
  exact hend.1

theorem acyclic_of_triangular : ∀ {bs : List (String × Term)}, Triangular bs →
    ∀ x, ¬Relation.TransGen (LeadsIn bs) x x
  | [], _, x, hx => by
    obtain ⟨_, ⟨_, hm, _⟩, _⟩ := Relation.TransGen.head'_iff.mp hx
    cases hm
  | b :: bs, h, x, hx => by
    have hfirst : x ≠ b.1 := by
      -- a chain ends in the term of some binding, and none mentions the first variable
      rintro rfl
      obtain ⟨u, _, t, ht, hu⟩ := Relation.TransGen.tail'_iff.mp hx
      rcases List.mem_cons.mp ht with e | ht
      · exact h.1 b List.mem_cons_self (e ▸ hu)
      · exact (List.pairwise_cons.mp h.2).1 (u, t) ht hu
    have htail : Triangular bs := ⟨fun a ha => h.1 a (List.mem_cons_of_mem _ ha), (List.pairwise_cons.mp h.2).2⟩
    exact acyclic_of_triangular htail x (transGen_of_triangular_cons h hfirst hx)

end Unification

/-- A unifier has no cycle. -/
theorem Fact.acyclic_of_unify? {c f : Fact} {σ : Substitution} (h : c.unify? f = some σ) : σ.Acyclic := by
  obtain ⟨-, bs, hbs, rfl⟩ := unify?_eq_some_iff.mp h
  intro x hx
  have hle : ∀ u v, (Substitution.empty.extend bs).Leads u v → LeadsIn bs u v := fun _ _ ⟨t, ht, hv⟩ =>
    ⟨t, (get?_extend_solution hbs).mp ht, hv⟩
  exact acyclic_of_triangular (triangular_solve hbs) x (Relation.TransGen.mono hle x x hx)

/-! ## Chains that come to an end -/

namespace Substitution

variable {σ : Substitution} {x : String} {n : Nat}

theorem Settles.not_transGen (h : σ.Settles n x) : ¬Relation.TransGen σ.Leads x x := by
  induction h with
  | free hx =>
    intro hc
    obtain ⟨y, ⟨t, ht, _⟩, _⟩ := Relation.TransGen.head'_iff.mp hc
    exact nomatch ht.symm.trans hx
  | @bound n x t hx _ ih =>
    intro hc
    obtain ⟨y, ⟨t', ht', hy⟩, hback⟩ := Relation.TransGen.head'_iff.mp hc
    cases hx.symm.trans ht'
    -- the cycle through `x` is one through `y` as well
    exact ih y hy (Relation.TransGen.tail' hback ⟨t, hx, hy⟩)

/-- Without a cycle, and only then, following the bindings from any variable comes to an end. -/
theorem acyclic_iff_settles : σ.Acyclic ↔ ∀ x, ∃ n, σ.Settles n x :=
  ⟨fun h x => ⟨σ.size, h.settles x⟩, fun h x => (h x).elim fun _ hs => hs.not_transGen⟩

/-- No value holds a variable. -/
def hasGroundValues (σ : Substitution) : Bool := σ.bindings.all (·.2.isGround)

theorem not_leads_of_hasGroundValues (h : σ.hasGroundValues = true) (x y : String) : ¬σ.Leads x y := by
  rintro ⟨t, ht, hy⟩
  have hg : t.isGround = true := List.all_eq_true.mp h (x, t) ((get?_eq_some_iff σ).mp ht)
  rw [Term.isGround_iff.mp hg] at hy
  exact absurd hy List.not_mem_nil

theorem acyclic_of_hasGroundValues (h : σ.hasGroundValues = true) : σ.Acyclic := by
  intro x hx
  obtain ⟨y, hstep, _⟩ := Relation.TransGen.head'_iff.mp hx
  exact not_leads_of_hasGroundValues h x y hstep

end Substitution

theorem Fact.hasGroundValues_of_unify? {c f : Fact} {σ : Substitution} (hf : f.isGround = true)
    (h : c.unify? f = some σ) : σ.hasGroundValues = true := by
  obtain ⟨-, bs, hbs, rfl⟩ := unify?_eq_some_iff.mp h
  refine List.all_eq_true.mpr fun b hb => ?_
  rw [← Substitution.get?_eq_some_iff, get?_extend_solution hbs] at hb
  exact isGround_of_mem_solve (rightGround_zip hf) hbs hb

/-! ## Matches -/

/-- A fact of the list for each clause, and the unifier of the two. -/
def Picks (facts clauses : List Fact) (picks : List (Fact × Substitution)) : Prop :=
  List.Forall₂ (fun c p => p.1 ∈ facts ∧ c.unify? p.1 = some p.2) clauses picks

section Picks

variable {facts cs : List Fact} {ρ : Substitution} {picks : List (Fact × Substitution)}

/-- A match adds the bindings of the unifiers of some picks. -/
theorem exists_picks : ∀ {cs : List Fact} {σ : Substitution}, ρ ∈ nestedMatches facts σ cs →
    ∃ picks, Picks facts cs picks ∧ ∀ b, b ∈ ρ.bindings ↔ b ∈ σ.bindings ∨ ∃ p ∈ picks, b ∈ p.2.bindings
  | [], σ, h => by
    cases List.mem_singleton.mp h
    exact ⟨[], .nil, fun b => by simp⟩
  | c :: cs, σ, h => by
    obtain ⟨f, hf, σ', hm, h⟩ := mem_nestedMatches_cons.mp h
    obtain ⟨ρ', hu, hmerge⟩ := matchClause?_eq_some_iff.mp hm
    obtain ⟨picks, hp, hb⟩ := exists_picks h
    refine ⟨(f, ρ') :: picks, .cons ⟨hf, hu⟩ hp, fun b => ?_⟩
    rw [hb, Substitution.mem_merge? hmerge, List.exists_mem_cons_iff, or_assoc]

theorem Picks.exists_clause (h : Picks facts cs picks) {p : Fact × Substitution} (hp : p ∈ picks) :
    ∃ c : Fact, c.unify? p.1 = some p.2 := by
  induction h with
  | nil => cases hp
  | @cons c q cs picks hq _ ih =>
    rcases List.mem_cons.mp hp with rfl | hp
    · exact ⟨c, hq.2⟩
    · exact ih hp

/-- A cycle takes two unifiers with variables in their values. -/
theorem Picks.acyclic_of_countP_le (h : Picks facts cs picks) (hb : ∀ b, b ∈ ρ.bindings ↔ ∃ p ∈ picks, b ∈ p.2.bindings)
    (hone : picks.countP (!·.2.hasGroundValues) ≤ 1) : ρ.Acyclic := by
  have hleads : ∀ x y, ρ.Leads x y → ∃ p ∈ picks.filter (!·.2.hasGroundValues), p.2.Leads x y := by
    rintro x y ⟨t, ht, hy⟩
    obtain ⟨p, hp, hm⟩ := (hb (x, t)).mp ((Substitution.get?_eq_some_iff ρ).mp ht)
    have hl : p.2.Leads x y := ⟨t, (Substitution.get?_eq_some_iff p.2).mpr hm, hy⟩
    have hv : p.2.hasGroundValues ≠ true := fun hg => Substitution.not_leads_of_hasGroundValues hg x y hl
    exact ⟨p, List.mem_filter.mpr ⟨hp, by simpa using hv⟩, hl⟩
  rw [List.countP_eq_length_filter] at hone
  intro x hx
  match hf : picks.filter (!·.2.hasGroundValues) with
  | [] =>
    obtain ⟨y, hstep, _⟩ := Relation.TransGen.head'_iff.mp hx
    obtain ⟨p, hp, _⟩ := hleads x y hstep
    rw [hf] at hp
    cases hp
  | [p] =>
    -- all steps are those of one unifier
    have hp : p ∈ picks.filter (!·.2.hasGroundValues) := hf ▸ List.mem_singleton.mpr rfl
    obtain ⟨c, hc⟩ := h.exists_clause (List.mem_filter.mp hp).1
    have hle : ∀ u v, ρ.Leads u v → p.2.Leads u v := fun u v huv => by
      obtain ⟨q, hq, hl⟩ := hleads u v huv
      rw [hf, List.mem_singleton] at hq
      exact hq ▸ hl
    exact Fact.acyclic_of_unify? hc x (Relation.TransGen.mono hle x x hx)
  | _ :: _ :: _ => simp [hf] at hone

end Picks

/-- The rule `p(X) AND q(Y) -> r(X)`. -/
def entwined : Rule := ⟨[⟨"p", [.var "X"]⟩, ⟨"q", [.var "Y"]⟩], ⟨"r", [.var "X"]⟩⟩

/-- Its one match with `p(f(Y))` and `q(g(X))`. -/
theorem map_bindings_entwined :
    (entwined.matchesIn [⟨"p", [.app "f" [.var "Y"]]⟩, ⟨"q", [.app "g" [.var "X"]]⟩]).map Substitution.bindings =
      [[("X", .app "f" [.var "Y"]), ("Y", .app "g" [.var "X"])]] := by
  rw [Rule.matchesIn_eq]
  cbv

/-- The unifiers of two clauses form a cycle, and the chains from `X` never come to an end. -/
theorem cyclic_entwined :
    ∃ σ ∈ entwined.matchesIn [⟨"p", [.app "f" [.var "Y"]]⟩, ⟨"q", [.app "g" [.var "X"]]⟩],
      ¬σ.Acyclic ∧ ∀ n, ¬σ.Settles n "X" := by
  obtain ⟨σ, hσ, hb⟩ := List.mem_map.mp (map_bindings_entwined ▸ List.mem_singleton.mpr rfl)
  have hX : σ.Leads "X" "Y" := ⟨.app "f" [.var "Y"], (Substitution.get?_eq_some_iff σ).mpr (by simp [hb]), by simp⟩
  have hY : σ.Leads "Y" "X" := ⟨.app "g" [.var "X"], (Substitution.get?_eq_some_iff σ).mpr (by simp [hb]), by simp⟩
  have hcycle : Relation.TransGen σ.Leads "X" "X" := .tail (.single hX) hY
  exact ⟨σ, hσ, fun h => h "X" hcycle, fun n hs => hs.not_transGen hcycle⟩

/-- **What keeps a match from a cycle.** A match has the bindings of the unifiers of one fact for each antecedent. None
of these has a cycle, and those with ground facts have ground values. The match has no cycle if at most one of them
has variables in its values. Following its bindings comes to an end, from every variable, exactly when it has no cycle. -/
theorem acyclic_of_mem_matchesIn {r : Rule} {facts : List Fact} {σ : Substitution} (h : σ ∈ r.matchesIn facts) :
    ∃ picks, Picks facts r.antecedents picks ∧ (∀ b, b ∈ σ.bindings ↔ ∃ p ∈ picks, b ∈ p.2.bindings) ∧
      (∀ p ∈ picks, p.2.Acyclic ∧ (p.1.isGround = true → p.2.hasGroundValues = true)) ∧
      (picks.countP (!·.2.hasGroundValues) ≤ 1 → σ.Acyclic) ∧
      (σ.Acyclic ↔ ∀ x, ∃ n, σ.Settles n x) := by
  rw [Rule.matchesIn_eq] at h
  obtain ⟨picks, hp, hb⟩ := exists_picks h
  have hb' : ∀ b, b ∈ σ.bindings ↔ ∃ p ∈ picks, b ∈ p.2.bindings := fun b => by
    rw [hb]
    exact or_iff_right List.not_mem_nil
  refine ⟨picks, hp, hb', fun p hm => ?_, hp.acyclic_of_countP_le hb', Substitution.acyclic_iff_settles⟩
  obtain ⟨c, hc⟩ := hp.exists_clause hm
  exact ⟨Fact.acyclic_of_unify? hc, fun hf => Fact.hasGroundValues_of_unify? hf hc⟩

/-- With `q(a)` in place of `q(g(X))` the chain from `X` leads to `Y` and ends there. -/
theorem acyclic_entwined : ∃ σ ∈ entwined.matchesIn [⟨"p", [.app "f" [.var "Y"]]⟩, ⟨"q", [.const "a"]⟩],
    σ.Leads "X" "Y" ∧ σ.Acyclic ∧ ∀ x, ∃ n, σ.Settles n x := by
  have hmap : (entwined.matchesIn [⟨"p", [.app "f" [.var "Y"]]⟩, ⟨"q", [.const "a"]⟩]).map Substitution.bindings =
      [[("X", .app "f" [.var "Y"]), ("Y", .const "a")]] := by
    rw [Rule.matchesIn_eq]
    cbv
  obtain ⟨σ, hσ, hb⟩ := List.mem_map.mp (hmap ▸ List.mem_singleton.mpr rfl)
  obtain ⟨picks, hp, -, hpicks, hone, hsettles⟩ := acyclic_of_mem_matchesIn hσ
  have hcount : picks.countP (!·.2.hasGroundValues) ≤ 1 := by
    obtain _ | ⟨⟨-, -⟩, _ | ⟨⟨hq, hu⟩, _ | _⟩⟩ := hp
    -- the second clause can only pick `q(a)`
    rename_i p₁ p₂
    have hground : p₂.1.isGround = true := by
      rcases List.mem_pair.mp hq with e | e
      · rw [e] at hu
        exact absurd (Fact.unify?_eq_some_iff.mp hu).1.1 (by decide)
      · rw [e]
        decide
    have hvalues : p₂.2.hasGroundValues = true := (hpicks p₂ (by simp)).2 hground
    have hfirst : [p₁, p₂].countP (!·.2.hasGroundValues) = [p₁].countP (!·.2.hasGroundValues) := by
      simp [List.countP_cons, hvalues]
    exact hfirst ▸ List.countP_le_length
  have hac := hone hcount
  have hlead : σ.Leads "X" "Y" := ⟨.app "f" [.var "Y"], (Substitution.get?_eq_some_iff σ).mpr (by simp [hb]), by simp⟩
  exact ⟨σ, hσ, hlead, hac, hsettles.mp hac⟩

end LogicGrid
