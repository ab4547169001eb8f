import LogicGrid.Proofs.Exits
import LogicGrid.Proofs.Matches
import Mathlib

/-!
# Deduction computes the least model

The least model of a knowledge base is the least set that contains its facts and is closed under its rules; `round`
adds everything the rules yield at once. From ground facts one pass is one round (`toSet_next`), so a run goes through
the rounds (`toSet_iterate`), stays below the least model (`toSet_subset_leastModel`) and, at a fixpoint, is the least
model (`toSet_eq_leastModel`).

* `solve_of_forall_isGround` – a puzzle without variables is solved by its least model, if that is within the limit and
  free of conflicts, and not at all otherwise.
-/

namespace LogicGrid

open KnowledgeBase

/-! ## Closures -/

/-- The least set that contains `A` and is closed under `F`. -/
def closureUnder (F : Set Fact → Set Fact) (A : Set Fact) : Set Fact := ⋂₀ {S | A ⊆ S ∧ F S ⊆ S}

section Closure

variable {F : Set Fact → Set Fact} {A B S : Set Fact}

theorem subset_closureUnder (F : Set Fact → Set Fact) (A : Set Fact) : A ⊆ closureUnder F A :=
  Set.subset_sInter fun _ h => h.1

theorem closureUnder_subset (hA : A ⊆ S) (hF : F S ⊆ S) : closureUnder F A ⊆ S := Set.sInter_subset_of_mem ⟨hA, hF⟩

theorem map_closureUnder_subset (hF : Monotone F) : F (closureUnder F A) ⊆ closureUnder F A :=
  Set.subset_sInter fun _ h => (hF (closureUnder_subset h.1 h.2)).trans h.2

theorem closureUnder_eq_of_between (hF : Monotone F) (hAB : A ⊆ B)
    (hB : B ⊆ closureUnder F A) : closureUnder F B = closureUnder F A :=
  (closureUnder_subset hB (map_closureUnder_subset hF)).antisymm
    (closureUnder_subset (hAB.trans (subset_closureUnder F B)) (map_closureUnder_subset hF))

end Closure

/-! ## Rounds -/

/-- What the rules yield from a set of facts. -/
def yieldOf (rules : List Rule) (S : Set Fact) : Set Fact := {g | ∃ r ∈ rules, r.Yields S g}

/-- One round of simultaneous rule application. -/
def round (rules : List Rule) (S : Set Fact) : Set Fact := S ∪ yieldOf rules S

theorem monotone_yieldOf (rules : List Rule) : Monotone (yieldOf rules) := fun _ _ hST _ h =>
  h.imp fun _ e => ⟨e.1, e.2.mono hST⟩

theorem monotone_round (rules : List Rule) : Monotone (round rules) := fun _ _ hST =>
  Set.union_subset_union hST (monotone_yieldOf rules hST)

/-- The members of a fact set. -/
def FactSet.toSet (s : FactSet) : Set Fact := {f | f ∈ s}

theorem FactSet.encard_toSet (s : FactSet) : s.toSet.encard = s.size := by
  have h : s.toSet = ↑s.toList.toFinset := by
    ext f
    simp [toSet, mem_def]
  rw [h, Set.encard_coe_eq_coe_finsetCard, List.toFinset_card_of_nodup s.nodup, size]

theorem FactSet.size_le_of_subset {s s' : FactSet} (h : s.toSet ⊆ s'.toSet) : s.size ≤ s'.size :=
  s.nodup.length_le_of_subset fun _ hf => h hf

namespace KnowledgeBase

variable {kb kb' : KnowledgeBase} {n : Nat} {s : Saturation}

/-- The least set that contains the facts and is closed under the rules. -/
def leastModel (kb : KnowledgeBase) : Set Fact := closureUnder (yieldOf kb.rules) kb.facts.toSet

theorem forall_isGround_next (hg : ∀ f ∈ kb.facts, f.isGround = true) : ∀ f ∈ kb.next.facts, f.isGround = true :=
  fun f hf => (isGround_or_mem_of_mem_next hf).elim id (hg f)

theorem forall_isGround_iterate (hg : ∀ f ∈ kb.facts, f.isGround = true) :
    ∀ k, ∀ f ∈ (next^[k] kb).facts, f.isGround = true
  | 0 => hg
  | k + 1 => by
    rw [Function.iterate_succ_apply']
    exact forall_isGround_next (forall_isGround_iterate hg k)

theorem forall_isGround_saturate (hg : ∀ f ∈ kb.facts, f.isGround = true) (n : Nat) :
    ∀ f ∈ (kb.saturate n).1.facts, f.isGround = true := fun f hf =>
  ((run_saturate n kb).isGround_or_mem hf).elim id (hg f)

theorem rules_iterate (kb : KnowledgeBase) : ∀ k, (next^[k] kb).rules = kb.rules
  | 0 => rfl
  | k + 1 => by rw [Function.iterate_succ_apply', rules_next, rules_iterate kb k]

/-- From ground facts a pass is a round. -/
theorem toSet_next (hg : ∀ f ∈ kb.facts, f.isGround = true) :
    kb.next.facts.toSet = round kb.rules kb.facts.toSet := by
  ext f
  simp only [FactSet.toSet, round, yieldOf, Set.mem_ofPred_eq, Set.mem_union, mem_next_iff]
  exact or_congr_right (exists_congr fun r => and_congr_right fun _ => Rule.mem_apply_iff hg)

theorem toSet_iterate (hg : ∀ f ∈ kb.facts, f.isGround = true) :
    ∀ k, (next^[k] kb).facts.toSet = (round kb.rules)^[k] kb.facts.toSet
  | 0 => rfl
  | k + 1 => by
    rw [Function.iterate_succ_apply', Function.iterate_succ_apply', toSet_next (forall_isGround_iterate hg k),
      rules_iterate, toSet_iterate hg k]

theorem iterate_round_subset_leastModel (kb : KnowledgeBase) :
    ∀ k, (round kb.rules)^[k] kb.facts.toSet ⊆ kb.leastModel
  | 0 => subset_closureUnder _ _
  | k + 1 => by
    rw [Function.iterate_succ_apply']
    have ih : (round kb.rules)^[k] kb.facts.toSet ⊆ kb.leastModel := iterate_round_subset_leastModel kb k
    exact Set.union_subset ih ((monotone_yieldOf _ ih).trans (map_closureUnder_subset (monotone_yieldOf _)))

/-- A run derives members of the least model only. -/
theorem toSet_subset_leastModel (h : Run n kb kb' s) (hg : ∀ f ∈ kb.facts, f.isGround = true) :
    kb'.facts.toSet ⊆ kb.leastModel := by
  rw [h.productive.1, toSet_iterate hg]
  exact iterate_round_subset_leastModel kb _

/-- Facts that a pass leaves as they are hold the least model. -/
theorem leastModel_subset_of_next_eq (hg : ∀ f ∈ kb'.facts, f.isGround = true) (hsub : kb.facts.toSet ⊆ kb'.facts.toSet)
    (hr : kb'.rules = kb.rules) (h : kb'.next = kb') : kb.leastModel ⊆ kb'.facts.toSet := by
  refine closureUnder_subset hsub ?_
  have e : kb'.facts.toSet = round kb.rules kb'.facts.toSet := by rw [← hr, ← toSet_next hg, h]
  exact Set.subset_union_right.trans e.symm.subset

/-- A run that reaches a fixpoint derives the least model. -/
theorem toSet_eq_leastModel (h : Run n kb kb' s) (hg : ∀ f ∈ kb.facts, f.isGround = true) (hs : s.fixpoint = true) :
    kb'.facts.toSet = kb.leastModel :=
  have hg' : ∀ f ∈ kb'.facts, f.isGround = true := fun f hf => (h.isGround_or_mem hf).elim id (hg f)
  (toSet_subset_leastModel h hg).antisymm
    (leastModel_subset_of_next_eq hg' (fun _ hf => h.prefix_facts.subset hf) h.rules_eq (h.next_eq hs))

/-- The productive passes count the rounds to the least model. -/
theorem isLeast_productivePasses (h : Run n kb kb' s) (hg : ∀ f ∈ kb.facts, f.isGround = true)
    (hs : s.fixpoint = true) :
    IsLeast {k | (round kb.rules)^[k] kb.facts.toSet = kb.leastModel} s.productivePasses := by
  obtain ⟨hend, hprod⟩ := h.productive
  refine ⟨?_, fun k hk => Nat.not_lt.mp fun hlt => hprod k hlt ?_⟩
  · rw [Set.mem_ofPred_eq, ← toSet_iterate hg, ← hend]
    exact toSet_eq_leastModel h hg hs
  · -- a round that reaches the least model leaves nothing to a productive pass
    rw [Set.mem_ofPred_eq, ← toSet_iterate hg] at hk
    rw [Function.iterate_succ_apply', next_eq_iff]
    intro r hr f hf
    rw [Rule.mem_apply_iff (forall_isGround_iterate hg k)] at hf
    rw [rules_iterate] at hr
    have hclosed : yieldOf kb.rules (next^[k] kb).facts.toSet ⊆ (next^[k] kb).facts.toSet :=
      hk ▸ map_closureUnder_subset (monotone_yieldOf _)
    exact hclosed ⟨r, hr, hf⟩

end KnowledgeBase

/-! ## Puzzles without variables -/

/-- **A puzzle without variables is solved by its least model**, without a search. Where the passes did not run out,
there is a solution exactly when the least model is within the limit and no two of its facts are forbidden together;
its facts are the least model, and its steps are the rounds that lead there. -/
theorem solve_of_forall_isGround (s : Solver) (hg : ∀ f ∈ s.kb.facts, f.isGround = true) :
    s.solve.stats.searched = false ∧
    (s.solve.stats.stepLimitHit = false →
      (s.solve.solution.isSome = true ↔ s.kb.leastModel.encard ≤ s.config.maxFacts ∧
        ∀ f ∈ s.kb.leastModel, ∀ g ∈ s.kb.leastModel, ¬s.table.Forbids f g) ∧
      ∀ sol, s.solve.solution = some sol → sol.facts.toSet = s.kb.leastModel ∧
        IsLeast {k | (round s.kb.rules)^[k] s.kb.facts.toSet = s.kb.leastModel} sol.inferenceSteps) := by
  have hrun := s.run_deduced
  have hgd : ∀ f ∈ s.deduced.1.facts, f.isGround = true := fun f hf => (hrun.isGround_or_mem hf).elim id (hg f)
  have hmodel : s.deduced.2.fixpoint = true → s.deduced.1.facts.toSet = s.kb.leastModel := by
    intro hfix
    show _ = s.start.leastModel
    exact toSet_eq_leastModel hrun hg hfix
  rcases s.solve_cases with ⟨hl, e⟩ | ⟨hl, hc, e⟩ | ⟨hl, hc, hi, e⟩ | ⟨hl, hc, hi, e⟩ <;> rw [e]
  · -- too many facts were derived, and all of them are in the least model
    refine ⟨rfl, fun _ => ⟨⟨nofun, fun h => ?_⟩, nofun⟩⟩
    have hle := (Set.encard_le_encard (toSet_subset_leastModel hrun hg)).trans h.1
    rw [FactSet.encard_toSet] at hle
    exact absurd (hrun.lt_size hl) (Nat.not_lt.mpr (Nat.cast_le.mp hle))
  · refine ⟨rfl, fun hsteps => ⟨⟨nofun, fun h => absurd ?_ hc⟩, nofun⟩⟩
    have hm := hmodel (Saturation.fixpoint_of_outOfSteps (by simpa using hsteps) hl)
    exact conflict_eq_none_iff.mpr fun f hf g hg _ _ => h.2 f (hm ▸ hf) g (hm ▸ hg)
  · refine ⟨rfl, fun hsteps => ?_⟩
    have hfix : s.deduced.2.fixpoint = true := Saturation.fixpoint_of_outOfSteps hsteps hl
    have hm := hmodel hfix
    refine ⟨⟨fun _ => ⟨?_, fun f hf g hg => ?_⟩, fun _ => rfl⟩, fun sol hsol => ?_⟩
    · rw [← hm, FactSet.encard_toSet]
      exact Nat.cast_le.mpr (hrun.size_le_of_fixpoint hfix)
    · rw [← hm] at hf hg
      exact conflict_eq_none_iff.mp hc f hf g hg (hgd f hf) (hgd g hg)
    · cases hsol
      have hleast := isLeast_productivePasses hrun hg hfix
      exact ⟨hm, hleast⟩
  · exact absurd (isComplete_iff.mpr hgd) (by simp [hi])

/-- One fact, `vive_en(juan, casa_roja)`, and one rule, `vive_en(X, casa_roja) -> es(X, ingles)`. -/
def redHouse : Solver where
  kb := .ofContents [⟨"vive_en", [.const "juan", .const "casa_roja"]⟩]
    [⟨[⟨"vive_en", [.var "X", .const "casa_roja"]⟩], ⟨"es", [.var "X", .const "ingles"]⟩⟩]
  config := .standard

def redHouseModel : KnowledgeBase :=
  .ofContents [⟨"vive_en", [.const "juan", .const "casa_roja"]⟩, ⟨"es", [.const "juan", .const "ingles"]⟩]
    redHouse.kb.rules

/-- What the rule yields from the model is known. -/
theorem consequences_redHouseModel :
    redHouseModel.consequences = [⟨0, ⟨"es", [.const "juan", .const "ingles"]⟩⟩] := by
  rw [consequences_eq]
  cbv

theorem deduced_redHouse : redHouse.deduced = (redHouseModel, ⟨2, 1, 1, true, false⟩) := by
  have h₀ : redHouse.start.consequences = [⟨0, ⟨"es", [.const "juan", .const "ingles"]⟩⟩] := by
    rw [consequences_eq]
    cbv
  have e₀ : redHouse.start.forwardChain =
      (redHouseModel, ⟨[⟨0, ⟨"es", [.const "juan", .const "ingles"]⟩⟩], false⟩) := by
    rw [forwardChain, h₀]
    rfl
  exact saturate_of_forwardChain e₀ rfl rfl (by decide) (by rw [consequences_redHouseModel]; decide)

theorem leastModel_redHouse : (∀ f ∈ redHouse.kb.facts, f.isGround = true) ∧ redHouse.solve.stats.stepLimitHit = false ∧
    redHouse.kb.leastModel = redHouseModel.facts.toSet := by
  have hg : ∀ f ∈ redHouse.kb.facts, f.isGround = true := by decide
  have hsolve : redHouse.solve.solution = some ⟨redHouseModel.facts, 1⟩ ∧
      redHouse.solve.stats.stepLimitHit = false := by
    rw [Solver.solve_eq, deduced_redHouse]
    exact ⟨rfl, rfl⟩
  obtain ⟨hsol, hsteps⟩ := hsolve
  exact ⟨hg, hsteps, (((solve_of_forall_isGround redHouse hg).2 hsteps).2 _ hsol).1.symm⟩

end LogicGrid
