import LogicGrid.Proofs.Limits
import LogicGrid.Proofs.Matches
import Mathlib

/-!
# Candidates before and after deduction

The candidates for a variable are looked up after the first deduction. Deduction mentions no new constant: whatever
terms are made of, over some set of constants, stays over it when equations are solved (`over_of_mem_solve`), clauses
are matched (`over_of_mem_nestedMatches`) and rules are applied (`Rule.over_of_mem_apply`), so the constants after a run
are those of its start (`Run.mem_constants`).

Their order may change, as derived facts stand in front of the rules. The candidates of one category are the same in any
order, and only a list for a variable without a category that is cut depends on it (`mem_candidates_iff`).

* `SearchSpace.Admits.after_run` – where no list is cut, candidates in the puzzle are candidates after deduction.
-/

namespace LogicGrid

open KnowledgeBase Unification

/-! ## Terms over a set of constants -/

section Over

variable {C : Set String} {facts : List Fact} {f : Fact}

/-- All constants of a term are in the set. -/
def Term.Over (C : Set String) (t : Term) : Prop := ∀ a ∈ t.consts, a ∈ C

/-- All constants of a fact are in the set. -/
def Fact.Over (C : Set String) (f : Fact) : Prop := ∀ t ∈ f.args, t.Over C

/-- All constants of bound terms are in the set. -/
def Substitution.Over (C : Set String) (σ : Substitution) : Prop := ∀ x t, σ.get? x = some t → t.Over C

theorem Substitution.over_empty : empty.Over C := fun x t h => by simp at h

@[simp] theorem Term.over_var (x : String) : (var x).Over C := by simp [Over]

@[simp] theorem Term.over_app {g : String} {args : List Term} : (app g args).Over C ↔ ∀ t ∈ args, t.Over C := by
  simp only [Over, consts_app, List.mem_flatMap]
  exact ⟨fun h t ht a ha => h a ⟨t, ht, ha⟩, fun h a ⟨t, ht, ha⟩ => h t ht a ha⟩

theorem Fact.over_iff : f.Over C ↔ ∀ a ∈ f.consts, a ∈ C := by
  simp only [Over, Term.Over, consts, List.mem_flatMap]
  exact ⟨fun h a ⟨t, ht, ha⟩ => h t ht a ha, fun h t ht a ha => h a ⟨t, ht, ha⟩⟩

theorem Term.Over.subst {t : Term} {g : String → Term} (h : t.Over C) (hg : ∀ x, (g x).Over C) :
    (t.subst g).Over C := by
  induction t using Term.induction with
  | const c => rwa [subst_const]
  | var x => exact (subst_var x).symm ▸ hg x
  | app k args ih =>
    rw [over_app] at h
    simp only [subst_app, over_app, List.forall_mem_map]
    exact fun t ht => ih t ht (h t ht)

theorem Term.Over.replace {t u : Term} (h : t.Over C) (hu : u.Over C) (x : String) : (t.replace x u).Over C :=
  h.subst fun y => by split <;> simp [hu]

namespace Unification

variable {es new : List Equation} {e : Equation} {bs : List (String × Term)} {x : String} {t : Term}

theorem over_split (h : e.reduce = .split new) (he : e.1.Over C ∧ e.2.Over C) :
    ∀ e' ∈ new, e'.1.Over C ∧ e'.2.Over C := by
  rcases Equation.reduce_eq_split h with ⟨a, rfl, rfl⟩ | ⟨f, as, bs, -, rfl, rfl⟩
  · exact List.forall_mem_nil _
  · rw [Term.over_app, Term.over_app] at he
    exact fun e' he' => ⟨he.1 _ (List.of_mem_zip he').1, he.2 _ (List.of_mem_zip he').2⟩

/-- A solution is over the constants of the equations. -/
theorem over_of_mem_solve (hC : ∀ e ∈ es, e.1.Over C ∧ e.2.Over C) (h : solve es = some bs) :
    ∀ b ∈ bs, b.2.Over C := by
  fun_induction solve es generalizing bs with
  | case1 =>
    cases h
    exact List.forall_mem_nil _
  | case2 => cases h
  | case3 e es new hr ih =>
    obtain ⟨he, hes⟩ := List.forall_mem_cons.mp hC
    exact ih (List.forall_mem_append.mpr ⟨over_split hr he, hes⟩) h
  | case4 e es x t hr ih =>
    obtain ⟨bs', hbs, rfl⟩ := Option.map_eq_some_iff.mp h
    obtain ⟨he, hes⟩ := List.forall_mem_cons.mp hC
    have ht : t.Over C := by
      rcases (Equation.reduce_eq_determine hr).1 with rfl | rfl
      · exact he.2
      · exact he.1
    refine List.forall_mem_cons.mpr ⟨ht, ih (fun e' he' => ?_) hbs⟩
    obtain ⟨e'', he'', rfl⟩ := List.mem_map.mp he'
    exact ⟨(hes e'' he'').1.replace ht x, (hes e'' he'').2.replace ht x⟩

end Unification

theorem Fact.over_of_unify? {c : Fact} {σ : Substitution} (hc : c.Over C) (hf : f.Over C) (h : c.unify? f = some σ) :
    σ.Over C := by
  obtain ⟨-, bs, hbs, rfl⟩ := unify?_eq_some_iff.mp h
  intro x t ht
  refine over_of_mem_solve (fun e he => ?_) hbs (x, t) ((get?_extend_solution hbs).mp ht)
  exact ⟨hc _ (List.of_mem_zip he).1, hf _ (List.of_mem_zip he).2⟩

theorem Substitution.Over.merge? {σ τ ρ : Substitution} (hσ : σ.Over C) (hτ : τ.Over C) (h : σ.merge? τ = some ρ) :
    ρ.Over C := by
  intro x t ht
  rw [get?_merge? h, Option.or_eq_some_iff] at ht
  exact ht.elim (hτ x t) fun ht => hσ x t ht.2

/-- Matches are over the constants of the clauses and facts. -/
theorem over_of_mem_nestedMatches (hfacts : ∀ f ∈ facts, f.Over C) {ρ : Substitution} : ∀ {cs : List Fact}
    {σ : Substitution}, (∀ c ∈ cs, c.Over C) → σ.Over C → ρ ∈ nestedMatches facts σ cs → ρ.Over C
  | [], _, _, hσ, h => List.mem_singleton.mp h ▸ hσ
  | c :: cs, σ, hcs, hσ, h => by
    obtain ⟨hc, hcs⟩ := List.forall_mem_cons.mp hcs
    obtain ⟨f, hf, σ', hm, h⟩ := mem_nestedMatches_cons.mp h
    obtain ⟨τ, hu, hmerge⟩ := matchClause?_eq_some_iff.mp hm
    exact over_of_mem_nestedMatches hfacts hcs (hσ.merge? (Fact.over_of_unify? hc (hfacts f hf) hu) hmerge) h

theorem Substitution.Over.resolve {σ : Substitution} (h : σ.Over C) : ∀ (n : Nat) (x : String), (σ.resolve n x).Over C
  | 0, x => Term.over_var x
  | n + 1, x => by
    rw [Substitution.resolve]
    split
    · next t ht => exact (h x t ht).subst (h.resolve n)
    · exact Term.over_var x

/-- What a rule yields is over the constants of the rule and the facts. -/
theorem Rule.over_of_mem_apply {r : Rule} (hr : ∀ c ∈ r.clauses, c.Over C) (hfacts : ∀ f ∈ facts, f.Over C)
    (h : f ∈ r.apply facts) : f.Over C := by
  obtain ⟨h, -⟩ := List.mem_filter.mp h
  obtain ⟨σ, hσ, rfl⟩ := List.mem_map.mp h
  obtain ⟨hante, hcons⟩ := List.forall_mem_append.mp hr
  rw [matchesIn_eq] at hσ
  have hover : σ.Over C := over_of_mem_nestedMatches hfacts hante Substitution.over_empty hσ
  refine List.forall_mem_map.mpr fun t ht => ?_
  exact (hcons _ (List.mem_singleton.mpr rfl) t ht).subst (hover.resolve σ.size)

end Over

/-! ## Deduction mentions no new constant -/

namespace KnowledgeBase

variable {kb kb' : KnowledgeBase} {n : Nat} {s : Saturation} {C : Set String}

/-- All constants of facts and rules are in the set. -/
structure Over (C : Set String) (kb : KnowledgeBase) : Prop where
  facts : ∀ f ∈ kb.facts, f.Over C
  rules : ∀ r ∈ kb.rules, ∀ c ∈ r.clauses, c.Over C

theorem mem_constants_iff {a : String} : a ∈ kb.constants ↔
    (∃ f ∈ kb.facts, a ∈ f.consts) ∨ ∃ r ∈ kb.rules, ∃ c ∈ r.clauses, a ∈ c.consts := by
  simp only [constants, statements, List.mem_eraseDups, List.flatMap_append, List.mem_append, List.mem_flatMap,
    FactSet.mem_def]
  refine or_congr_right ⟨?_, ?_⟩
  · rintro ⟨c, ⟨r, hr, hc⟩, ha⟩
    exact ⟨r, hr, c, hc, ha⟩
  · rintro ⟨r, hr, c, hc, ha⟩
    exact ⟨c, ⟨r, hr, hc⟩, ha⟩

theorem over_iff : kb.Over C ↔ ∀ a ∈ kb.constants, a ∈ C := by
  simp only [mem_constants_iff]
  constructor
  · rintro ⟨hf, hr⟩ a (⟨f, hm, ha⟩ | ⟨r, hm, c, hc, ha⟩)
    · exact Fact.over_iff.mp (hf f hm) a ha
    · exact Fact.over_iff.mp (hr r hm c hc) a ha
  · intro h
    exact ⟨fun f hf => Fact.over_iff.mpr fun a ha => h a (Or.inl ⟨f, hf, ha⟩),
      fun r hr c hc => Fact.over_iff.mpr fun a ha => h a (Or.inr ⟨r, hr, c, hc, ha⟩)⟩

theorem Over.next (h : kb.Over C) : kb.next.Over C := by
  refine ⟨fun f hf => ?_, h.rules⟩
  rcases mem_next_iff.mp hf with hf | ⟨r, hr, hf⟩
  · exact h.facts f hf
  · exact Rule.over_of_mem_apply (h.rules r hr) h.facts hf

theorem Run.over (h : Run n kb kb' s) (hC : kb.Over C) : kb'.Over C := by
  induction h with
  | stop => exact hC
  | exceed => exact hC.next
  | fixed => exact hC
  | more _ _ _ ih => exact ih hC.next

/-- A run keeps the constants, up to their order. -/
theorem Run.mem_constants (h : Run n kb kb' s) {a : String} : a ∈ kb'.constants ↔ a ∈ kb.constants := by
  constructor
  · intro ha
    have hover : kb.Over {a | a ∈ kb.constants} := over_iff.mpr fun _ hb => hb
    exact over_iff.mp (h.over hover) a ha
  · simp only [mem_constants_iff, h.rules_eq]
    exact Or.imp_left fun ⟨f, hf, ha⟩ => ⟨f, h.prefix_facts.subset hf, ha⟩

end KnowledgeBase

/-! ## Candidates in any order of the constants -/

section Candidates

variable {v : Vocabulary} {c : SolverConfig} {cs cs' : List String} {k : Category} {a x : String}

theorem Vocabulary.mem_ofCategory : a ∈ v.ofCategory cs k ↔ a ∈ cs ∧ v.categorize a = k := by simp [ofCategory]

theorem Vocabulary.mem_categories : k ∈ v.categories cs ↔ ∃ a ∈ cs, v.categorize a = k := by
  simp [categories, List.mem_eraseDups]

theorem Vocabulary.categoryFor_congr (h : ∀ a, a ∈ cs ↔ a ∈ cs') : v.categoryFor cs x = v.categoryFor cs' x := by
  have hk : ∀ k, k ∈ v.categories cs ↔ k ∈ v.categories cs' := fun k => by simp only [mem_categories, h]
  simp only [categoryFor, hk]

theorem Vocabulary.exists_categoryFor (h : ∃ a ∈ cs, v.categorize a = .general) (x : String) :
    ∃ a ∈ cs, v.categorize a = v.categoryFor cs x := by
  rw [categoryFor]
  cases hw : Option.filter (fun k => decide (k ∈ v.categories cs)) _ with
  | none => exact h
  | some k =>
    obtain ⟨-, hk⟩ := Option.filter_eq_some_iff.mp hw
    exact mem_categories.mp (of_decide_eq_true hk)

/-- The constants of all categories, category by category. -/
theorem Vocabulary.mem_flatMap_ofCategory : a ∈ (v.categories cs).flatMap (v.ofCategory cs) ↔ a ∈ cs := by
  simp only [List.mem_flatMap, mem_ofCategory, mem_categories]
  exact ⟨fun ⟨_, _, ha, _⟩ => ha, fun ha => ⟨_, ⟨a, ha, rfl⟩, ha, rfl⟩⟩

theorem Vocabulary.nodup_flatMap_ofCategory (hn : cs.Nodup) :
    ((v.categories cs).flatMap (v.ofCategory cs)).Nodup := by
  refine List.nodup_flatMap.mpr ⟨fun k _ => hn.filter _, ?_⟩
  refine (nodup_eraseDups (cs.map v.categorize)).imp fun {k k'} hne a ha ha' => hne ?_
  exact (mem_ofCategory.mp ha).2.symm.trans (mem_ofCategory.mp ha').2

theorem Vocabulary.length_flatMap_ofCategory_le (hn : cs.Nodup) :
    ((v.categories cs).flatMap (v.ofCategory cs)).length ≤ cs.length :=
  (nodup_flatMap_ofCategory hn).length_le_of_subset fun _ => mem_flatMap_ofCategory.mp

/-- Candidates are constants. -/
theorem SolverConfig.candidates_subset (c : SolverConfig) (cs : List String) (x : String) : c.candidates cs x ⊆ cs := by
  intro a ha
  rw [candidates] at ha
  split at ha
  · exact Vocabulary.mem_flatMap_ofCategory.mp (List.mem_of_mem_take ha)
  · exact (Vocabulary.mem_ofCategory.mp ha).1

theorem SolverConfig.nodup_candidates (hn : cs.Nodup) : (c.candidates cs x).Nodup := by
  rw [candidates]
  split
  · exact (Vocabulary.nodup_flatMap_ofCategory hn).sublist (List.take_sublist _ _)
  · exact hn.filter _

/-- Whatever category is chosen, a variable has candidates as soon as there are constants: a category without constants
falls back on the constants of all categories. -/
theorem SolverConfig.candidates_ne_nil (hcs : cs ≠ []) (hf : 1 ≤ c.search.fallbackDomainSize) :
    c.candidates cs x ≠ [] := by
  rw [candidates]
  split
  · obtain ⟨a, ha⟩ := List.exists_mem_of_ne_nil cs hcs
    have hall : (c.domains.categories cs).flatMap (c.domains.ofCategory cs) ≠ [] :=
      List.ne_nil_of_mem (Vocabulary.mem_flatMap_ofCategory.mpr ha)
    rw [Ne, List.take_eq_nil_iff, not_or]
    exact ⟨Nat.one_le_iff_ne_zero.mp hf, hall⟩
  · next hown => exact fun hnil => hown (List.isEmpty_iff.mpr hnil)

/-- No list of candidates is cut: there is a constant that is in no other category, or few enough constants to try all
of them. -/
def SolverConfig.Covers (c : SolverConfig) (cs : List String) : Prop :=
  (∃ a ∈ cs, c.domains.categorize a = .general) ∨ cs.length ≤ c.search.fallbackDomainSize

theorem SolverConfig.Covers.congr (h : c.Covers cs) (hn' : cs'.Nodup) (hm : ∀ a, a ∈ cs ↔ a ∈ cs') : c.Covers cs' := by
  refine h.imp (fun ⟨a, ha, hk⟩ => ⟨a, (hm a).mp ha, hk⟩) fun hle => ?_
  exact (hn'.length_le_of_subset fun a ha => (hm a).mpr ha).trans hle

/-- Where no list is cut, the candidates are the constants of the category, or all constants if it has none. -/
theorem SolverConfig.mem_candidates_iff (hc : c.Covers cs) (hn : cs.Nodup) : a ∈ c.candidates cs x ↔ a ∈ cs ∧
    ((∃ b ∈ cs, c.domains.categorize b = c.domains.categoryFor cs x) →
      c.domains.categorize a = c.domains.categoryFor cs x) := by
  by_cases hown : ∃ b ∈ cs, c.domains.categorize b = c.domains.categoryFor cs x
  · obtain ⟨b, hb, hk⟩ := hown
    have hmem : b ∈ c.domains.ofCategory cs (c.domains.categoryFor cs x) := Vocabulary.mem_ofCategory.mpr ⟨hb, hk⟩
    have hne : (c.domains.ofCategory cs (c.domains.categoryFor cs x)).isEmpty = false :=
      List.isEmpty_eq_false_iff.mpr (List.ne_nil_of_mem hmem)
    rw [candidates, if_neg (by simp [hne]), Vocabulary.mem_ofCategory]
    exact and_congr_right fun _ => ⟨fun h _ => h, fun h => h ⟨b, hb, hk⟩⟩
  · have hnil : (c.domains.ofCategory cs (c.domains.categoryFor cs x)).isEmpty = true :=
      List.isEmpty_iff.mpr (List.eq_nil_iff_forall_not_mem.mpr fun b hb => hown ⟨b, Vocabulary.mem_ofCategory.mp hb⟩)
    have hlen : cs.length ≤ c.search.fallbackDomainSize := hc.resolve_left fun hg =>
      hown (Vocabulary.exists_categoryFor hg x)
    rw [candidates, if_pos hnil,
      List.take_of_length_le ((Vocabulary.length_flatMap_ofCategory_le hn).trans hlen),
      Vocabulary.mem_flatMap_ofCategory]
    exact ⟨fun ha => ⟨ha, fun h => absurd h hown⟩, And.left⟩

/-- Then their order does not matter. -/
theorem SolverConfig.Covers.mem_candidates_congr (hc : c.Covers cs) (hn : cs.Nodup) (hn' : cs'.Nodup)
    (hm : ∀ a, a ∈ cs ↔ a ∈ cs') : a ∈ c.candidates cs x ↔ a ∈ c.candidates cs' x := by
  rw [mem_candidates_iff hc hn, mem_candidates_iff (hc.congr hn' hm) hn', Vocabulary.categoryFor_congr hm]
  simp only [hm]

end Candidates

/-! ## The space after a run -/

namespace SearchSpace

variable {kb kb' : KnowledgeBase} {c : SolverConfig} {v : FreeVariable} {θ : String → Term}

theorem mem_unbounded_iff : v ∈ unbounded kb c ↔ v.name ∈ kb.variableNames ∧
    v.domain = (c.candidates kb.constants v.name).map .const ∧ v.domain ≠ [] := by
  simp only [unbounded, List.mem_filter, List.mem_map, Bool.not_eq_true', List.isEmpty_eq_false_iff]
  constructor
  · rintro ⟨⟨x, hx, rfl⟩, hne⟩
    exact ⟨hx, rfl, hne⟩
  · rintro ⟨hx, hd, hne⟩
    exact ⟨⟨v.name, hx, by rw [← hd]⟩, hne⟩

/-- Every variable of the facts gets one of its candidates. -/
def Admits (space : SearchSpace) (facts : FactSet) (θ : String → Term) : Prop :=
  ∀ f ∈ facts, ∀ x ∈ f.vars, ∃ v ∈ space.freeVariables, v.name = x ∧ θ x ∈ v.domain

instance (space : SearchSpace) (facts : FactSet) (θ : String → Term) : Decidable (space.Admits facts θ) :=
  inferInstanceAs (Decidable (∀ f ∈ facts.toList, ∀ x ∈ f.vars, ∃ v ∈ space.freeVariables, v.name = x ∧ θ x ∈ v.domain))

/-- **Deduction keeps the candidates**, where no list of them is cut. -/
theorem Admits.after_run {n : Nat} {s : Saturation} (h : (discover kb c).Admits kb.facts θ) (hrun : Run n kb kb' s)
    (hcov : c.Covers kb.constants) (ht : (discover kb' c).truncated = false) :
    (discover kb' c).Admits kb.facts θ := by
  have hmem : ∀ a, a ∈ kb.constants ↔ a ∈ kb'.constants := fun a => hrun.mem_constants.symm
  intro f hf x hx
  obtain ⟨v, hv, rfl, hθ⟩ := h f hf x hx
  obtain ⟨w, hw, hname, hsub⟩ := exists_mem_of_mem_bounded hv
  obtain ⟨-, hdom, -⟩ := mem_unbounded_iff.mp hw
  obtain ⟨a, ha, hθ⟩ := List.mem_map.mp (hdom ▸ hsub hθ)
  rw [hname, hcov.mem_candidates_congr (nodup_eraseDups _) (nodup_eraseDups _) hmem] at ha
  have hdom' : θ v.name ∈ (c.candidates kb'.constants v.name).map Term.const := List.mem_map.mpr ⟨a, ha, hθ⟩
  have hvar : v.name ∈ kb'.variableNames := by
    have hin : f ∈ kb'.statements := List.mem_append_left _ (hrun.prefix_facts.subset hf)
    exact List.mem_eraseDups.mpr (List.mem_flatMap.mpr ⟨f, hin, hx⟩)
  refine ⟨⟨v.name, (c.candidates kb'.constants v.name).map .const⟩, ?_, rfl, hdom'⟩
  rw [discover_of_not_truncated ht]
  exact mem_unbounded_iff.mpr ⟨hvar, rfl, List.ne_nil_of_mem hdom'⟩

end SearchSpace

end LogicGrid
