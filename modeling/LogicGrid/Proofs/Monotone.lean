import LogicGrid.Proofs.LeastModel

/-!
# More facts and more rules

`kb.Within kb'` says that every fact and every rule of `kb` is in `kb'`. A pass keeps it (`Within.next`), so two runs of
as many passes keep it as well, whichever of them stops first: one that has reached its fixpoint is closed and holds
whatever the smaller one still derives (`Within.run_of_closed`), and a limit that the larger one stays within is not
exceeded by the smaller one (`Within.run`). Where each is within the other, passes add equally many facts
(`Within.added_eq`), and the records of the runs are equal (`Within.record_eq`).

* `solve_monotone` – without variables, a puzzle with a part of the facts and rules of another one is solved when that
  one is, by a part of its solution; and neither the order of facts and rules nor the repetition of rules matters.
-/

namespace LogicGrid

open KnowledgeBase

/-! ## Rules -/

theorem nestedMatches_subset {facts facts' : List Fact} (h : facts ⊆ facts') : ∀ (cs : List Fact) (σ : Substitution),
    nestedMatches facts σ cs ⊆ nestedMatches facts' σ cs
  | [], _ => List.Subset.refl _
  | c :: cs, σ => fun ρ hρ => by
    obtain ⟨f, hf, σ', hm, hρ⟩ := mem_nestedMatches_cons.mp hρ
    exact mem_nestedMatches_cons.mpr ⟨f, h hf, σ', hm, nestedMatches_subset h cs σ' hρ⟩

/-- More facts yield more. -/
theorem Rule.apply_subset {facts facts' : List Fact} (r : Rule) (h : facts ⊆ facts') :
    r.apply facts ⊆ r.apply facts' := by
  unfold Rule.apply
  rw [matchesIn_eq, matchesIn_eq]
  exact List.filter_subset _ (List.map_subset _ (nestedMatches_subset h _ _))

/-! ## The size of a pass -/

/-- The number of new facts tells whether anything changed. -/
theorem Pass.changed_congr {p p' : Pass} (h : p.added = p'.added) : p.changed = p'.changed := by
  rw [Bool.eq_iff_iff, changed, changed, Bool.not_eq_true', Bool.not_eq_true', List.isEmpty_eq_false_iff,
    List.isEmpty_eq_false_iff, ← List.length_pos_iff, ← List.length_pos_iff]
  exact iff_of_eq (congrArg (0 < ·) h)

theorem Saturation.after_congr {p p' : Pass} (h : p.added = p'.added) (s : Saturation) :
    Saturation.after p s = .after p' s := by
  unfold after
  rw [Pass.changed_congr h, h]

namespace KnowledgeBase

/-! ## Parts of knowledge bases -/

/-- Every fact and every rule of `kb` is in `kb'`, and the limit is the same. -/
structure Within (kb kb' : KnowledgeBase) : Prop where
  facts : ∀ f ∈ kb.facts, f ∈ kb'.facts
  rules : kb.rules ⊆ kb'.rules
  maxFacts : kb.maxFacts = kb'.maxFacts

variable {kb kb' kb₁ kb₂ : KnowledgeBase} {n m : Nat} {s s' : Saturation} {t : ConstraintTable}

namespace Within

theorem size_le (h : kb.Within kb') : kb.facts.size ≤ kb'.facts.size := FactSet.size_le_of_subset h.facts

/-- A pass keeps a part within the whole. -/
theorem next (h : kb.Within kb') : kb.next.Within kb'.next where
  facts f hf := by
    rw [mem_next_iff] at hf ⊢
    refine hf.imp (h.facts f) ?_
    rintro ⟨r, hr, hf⟩
    exact ⟨r, h.rules hr, r.apply_subset h.facts hf⟩
  rules := h.rules
  maxFacts := h.maxFacts

/-- A run of the whole keeps the part within it. -/
theorem trans_run (h : kb.Within kb') (hrun : Run n kb' kb₂ s') : kb.Within kb₂ where
  facts f hf := hrun.prefix_facts.subset (h.facts f hf)
  rules := hrun.rules_eq.symm ▸ h.rules
  maxFacts := h.maxFacts.trans hrun.maxFacts_eq.symm

/-- What is closed under its rules holds all runs of its parts. -/
theorem run_of_closed (h : kb.Within kb') (hclosed : kb'.next = kb') (hle : kb'.facts.size ≤ kb'.maxFacts)
    (hrun : Run m kb kb₁ s) : s.limitExceeded = false ∧ kb₁.Within kb' := by
  induction hrun with
  | stop => exact ⟨rfl, h⟩
  | exceed hlt =>
    have hnext := hclosed ▸ h.next
    exact absurd hlt (Nat.not_lt.mpr (hnext.size_le.trans (h.maxFacts ▸ hle)))
  | fixed => exact ⟨rfl, h⟩
  | more _ _ _ ih =>
    have hnext := hclosed ▸ h.next
    exact ih hnext

/-- **Runs are monotone.** Where the run of the whole does not exceed the limit, that of the part does not either, and
it ends within the whole. -/
theorem run (h : kb.Within kb') (hrun' : Run n kb' kb₂ s') (hrun : Run n kb kb₁ s) (hs' : s'.limitExceeded = false) :
    s.limitExceeded = false ∧ kb₁.Within kb₂ := by
  induction hrun' generalizing kb s with
  | stop =>
    cases hrun
    exact ⟨rfl, h⟩
  | exceed => cases hs'
  | fixed hle e =>
    rw [e] at hle
    exact h.run_of_closed e hle hrun
  | more hle hne hrest ih =>
    -- the part stops for a reason of its own, or goes on as well
    cases hrun with
    | exceed hlt => exact absurd hlt (Nat.not_lt.mpr (h.next.size_le.trans (h.maxFacts ▸ hle)))
    | fixed => exact ⟨rfl, h.trans_run (.more hle hne hrest)⟩
    | more _ _ hrest' =>
      obtain ⟨hs, hw⟩ := ih h.next hrest' hs'
      exact ⟨hs, hw⟩

theorem conflict_eq_none (h : kb.Within kb') (hc : kb'.conflict t = none) : kb.conflict t = none :=
  conflict_eq_none_iff.mpr fun f hf g hg => conflict_eq_none_iff.mp hc f (h.facts f hf) g (h.facts g hg)

/-! ## The same contents -/

theorem size_eq (h : kb.Within kb') (h' : kb'.Within kb) : kb.facts.size = kb'.facts.size :=
  Nat.le_antisymm h.size_le h'.size_le

theorem added_eq (h : kb.Within kb') (h' : kb'.Within kb) : kb.pass.added = kb'.pass.added := by
  have hnext := h.next.size_eq h'.next
  rw [size_next, size_next, h.size_eq h'] at hnext
  exact Nat.add_left_cancel hnext

theorem limitExceeded_eq (h : kb.Within kb') (h' : kb'.Within kb) : kb.pass.limitExceeded = kb'.pass.limitExceeded := by
  rw [Bool.eq_iff_iff, limitExceeded_pass_iff, limitExceeded_pass_iff, h.next.size_eq h'.next, h.maxFacts]

theorem isSome_conflict_eq (h : kb.Within kb') (h' : kb'.Within kb) :
    (kb.conflict t).isSome = (kb'.conflict t).isSome := by
  rw [Bool.eq_iff_iff, Option.isSome_iff_ne_none, Option.isSome_iff_ne_none]
  exact not_congr ⟨h'.conflict_eq_none, h.conflict_eq_none⟩

/-- A run of the same facts and rules keeps the same record. -/
theorem record_eq (h : kb.Within kb') (h' : kb'.Within kb) (n : Nat) : (kb.saturate n).2 = (kb'.saturate n).2 := by
  induction n generalizing kb kb' with
  | zero => rfl
  | succ n ih =>
    have hadded := h.added_eq h'
    rw [saturate_succ, saturate_succ, h.limitExceeded_eq h', Pass.changed_congr hadded]
    simp only [Saturation.after_congr hadded, ih h.next h'.next]
    split
    · rfl
    · split <;> rfl

end Within

end KnowledgeBase

/-! ## Solving -/

namespace Solver

variable {s : Solver} {sol : Solution}

theorem start_within {kb kb' : KnowledgeBase} (hf : ∀ f ∈ kb.facts, f ∈ kb'.facts) (hr : ∀ r ∈ kb.rules, r ∈ kb'.rules)
    (c : SolverConfig) (t : ConstraintTable) : (mk kb c t).start.Within (mk kb' c t).start := ⟨hf, hr, rfl⟩

/-- Without variables a puzzle is solved by deduction alone. -/
theorem solve_eq_of_isGround (hg : ∀ f ∈ s.kb.facts, f.isGround = true) : s.solve =
    if s.deduced.2.limitExceeded then ⟨none, .ofTally (.ofSaturation s.deduced.2)⟩
    else if (s.deduced.1.conflict s.table).isSome then
      ⟨none, .ofTally (.ofSaturation s.deduced.2 + { contradictions := 1 })⟩
    else ⟨some ⟨s.deduced.1.facts, s.deduced.2.productivePasses⟩, .ofTally (.ofSaturation s.deduced.2)⟩ := by
  have hstart : ∀ f ∈ s.start.facts, f.isGround = true := hg
  have hi : s.deduced.1.isComplete = true := isComplete_iff.mpr (forall_isGround_saturate hstart _)
  rw [solve_eq, if_pos hi]

theorem solution_eq_some_iff (hg : ∀ f ∈ s.kb.facts, f.isGround = true) : s.solve.solution = some sol ↔
    s.deduced.2.limitExceeded = false ∧ s.deduced.1.conflict s.table = none ∧
      sol = ⟨s.deduced.1.facts, s.deduced.2.productivePasses⟩ := by
  rw [solve_eq_of_isGround hg]
  cases s.deduced.2.limitExceeded with
  | true => simp
  | false => cases s.deduced.1.conflict s.table <;> simp [eq_comm]

end Solver

/-- The same facts, in any order, after the same number of steps. -/
def Solution.Alike (a b : Solution) : Prop := (∀ f, f ∈ a.facts ↔ f ∈ b.facts) ∧ a.inferenceSteps = b.inferenceSteps

/-- **Solving is monotone and does not depend on order.** Let no fact of `kb'` have variables. A knowledge base whose
facts and rules are among those of `kb'` is solved when `kb'` is, and its solution is a part of that of `kb'`. One that
has the same facts and the same rules, in any order and with any repetition, has the same statistics, and both have the
same solution or none. -/
theorem solve_monotone {kb kb' : KnowledgeBase} (hg : ∀ f ∈ kb'.facts, f.isGround = true) (c : SolverConfig)
    (t : ConstraintTable) :
    ((∀ f ∈ kb.facts, f ∈ kb'.facts) → (∀ r ∈ kb.rules, r ∈ kb'.rules) →
      ∀ sol', (Solver.mk kb' c t).solve.solution = some sol' →
        ∃ sol, (Solver.mk kb c t).solve.solution = some sol ∧ ∀ f ∈ sol.facts, f ∈ sol'.facts) ∧
    ((∀ f, f ∈ kb.facts ↔ f ∈ kb'.facts) → (∀ r, r ∈ kb.rules ↔ r ∈ kb'.rules) →
      (Solver.mk kb c t).solve.stats = (Solver.mk kb' c t).solve.stats ∧
      Option.Rel Solution.Alike (Solver.mk kb c t).solve.solution (Solver.mk kb' c t).solve.solution) := by
  have hrun := (Solver.mk kb c t).run_deduced
  have hrun' := (Solver.mk kb' c t).run_deduced
  constructor
  · intro hf hr sol' hsol'
    have hg₁ : ∀ f ∈ kb.facts, f.isGround = true := fun f h => hg f (hf f h)
    have hw := Solver.start_within hf hr c t
    obtain ⟨hl', hc', rfl⟩ := (Solver.solution_eq_some_iff hg).mp hsol'
    obtain ⟨hl, hd⟩ := hw.run hrun' hrun hl'
    exact ⟨_, (Solver.solution_eq_some_iff hg₁).mpr ⟨hl, hd.conflict_eq_none hc', rfl⟩, hd.facts⟩
  · intro hf hr
    have hg₁ : ∀ f ∈ kb.facts, f.isGround = true := fun f h => hg f ((hf f).mp h)
    have hw := Solver.start_within (fun f => (hf f).mp) (fun r => (hr r).mp) c t
    have hw' := Solver.start_within (fun f => (hf f).mpr) (fun r => (hr r).mpr) c t
    have hrec : (Solver.mk kb c t).deduced.2 = (Solver.mk kb' c t).deduced.2 := hw.record_eq hw' _
    rw [Solver.solve_eq_of_isGround hg₁, Solver.solve_eq_of_isGround hg, hrec]
    cases hl' : (Solver.mk kb' c t).deduced.2.limitExceeded with
    | true => exact ⟨rfl, .none⟩
    | false =>
      obtain ⟨-, hd⟩ := hw.run hrun' hrun hl'
      obtain ⟨-, hd'⟩ := hw'.run hrun hrun' (hrec ▸ hl')
      rw [hd.isSome_conflict_eq hd']
      cases ((Solver.mk kb' c t).deduced.1.conflict t).isSome with
      | true => exact ⟨rfl, .none⟩
      | false => exact ⟨rfl, .some ⟨fun f => ⟨hd.facts f, hd'.facts f⟩, rfl⟩⟩

/-- The model of the red house in the other order, with the rule twice. -/
def redHouseShuffled : KnowledgeBase :=
  .ofContents redHouseModel.facts.toList.reverse (redHouseModel.rules ++ redHouseModel.rules)

/-- The red house is solved by a part of what solves its model, and the shuffled model by the same facts. -/
theorem solve_monotone_redHouse :
    (∀ f ∈ redHouseModel.facts, f.isGround = true) ∧
    (∃ sol, redHouse.solve.solution = some sol ∧ ∀ f ∈ sol.facts, f ∈ redHouseModel.facts) ∧
    ∃ sol, (Solver.mk redHouseShuffled .standard .puzzle).solve.solution = some sol ∧
      ∀ f, f ∈ sol.facts ↔ f ∈ redHouseModel.facts := by
  have hg : ∀ f ∈ redHouseModel.facts, f.isGround = true := by decide
  have hclosed : ∀ d ∈ redHouseModel.consequences, d.fact ∈ redHouseModel.facts := by
    rw [consequences_redHouseModel]
    decide
  have hded : (Solver.mk redHouseModel .standard .puzzle).deduced = (redHouseModel, ⟨1, 0, 0, true, false⟩) :=
    saturate_of_closed (by decide) hclosed
  have hsol : (Solver.mk redHouseModel .standard .puzzle).solve.solution = some ⟨redHouseModel.facts, 0⟩ := by
    rw [Solver.solve_eq, hded]
    rfl
  have hpart : ∃ sol, redHouse.solve.solution = some sol ∧ ∀ f ∈ sol.facts, f ∈ redHouseModel.facts :=
    (solve_monotone hg .standard .puzzle).1 (by decide) (by decide) _ hsol
  have hsame : Option.Rel Solution.Alike (Solver.mk redHouseShuffled .standard .puzzle).solve.solution
      (some ⟨redHouseModel.facts, 0⟩) := by
    rw [← hsol]
    have hfacts : ∀ f, f ∈ redHouseShuffled.facts ↔ f ∈ redHouseModel.facts := fun _ =>
      FactSet.mem_ofList.trans List.mem_reverse
    have hrules : ∀ r, r ∈ redHouseShuffled.rules ↔ r ∈ redHouseModel.rules := fun _ =>
      List.mem_append.trans or_self_iff
    exact ((solve_monotone hg .standard .puzzle).2 hfacts hrules).2
  generalize (Solver.mk redHouseShuffled .standard .puzzle).solve.solution = o at hsame
  cases hsame with
  | some h => exact ⟨hg, hpart, _, rfl, h.1⟩

end LogicGrid
