import LogicGrid.Proofs.Exits
import LogicGrid.Proofs.Pruning
import LogicGrid.Proofs.Solved

/-!
# Limits that were not hit

Two runs are compared, one under some limits and one under wider ones. Where no limit is met in the first run, the
second does the same, step by step: a run of deduction that reaches a fixpoint (`Run.saturate_withLimit`), the space
that is searched (`discover_of_widensTo`), and the search, alternative by alternative (`search_withLimit`). The tally of
a search covers every leaf it evaluates, those that it rejects as well, so a limit that is met anywhere is remembered.

* `solve_of_widensTo` – the outcome under the wider limits is the same.
-/

namespace LogicGrid

open KnowledgeBase

/-! ## Another limit on facts -/

namespace KnowledgeBase

variable {kb kb' : KnowledgeBase} {n n' m : Nat} {s : Saturation}

/-- The same facts and rules under another limit. -/
def withLimit (kb : KnowledgeBase) (m : Nat) : KnowledgeBase := { kb with maxFacts := m }

@[simp] theorem conflict_withLimit (kb : KnowledgeBase) (m : Nat) (t : ConstraintTable) :
    (kb.withLimit m).conflict t = kb.conflict t := rfl
@[simp] theorem isComplete_withLimit (kb : KnowledgeBase) (m : Nat) : (kb.withLimit m).isComplete = kb.isComplete := rfl

theorem next_withLimit (kb : KnowledgeBase) (m : Nat) : (kb.withLimit m).next = kb.next.withLimit m := rfl

theorem assign_withLimit (kb : KnowledgeBase) (m : Nat) (x : String) (v : Term) :
    (kb.withLimit m).assign x v = (kb.assign x v).withLimit m := by
  unfold assign
  split <;> rfl

/-- A pass that is within both limits is recorded alike. -/
theorem pass_withLimit (h : kb.next.facts.size ≤ kb.maxFacts) (hm : kb.maxFacts ≤ m) :
    (kb.withLimit m).pass = kb.pass := by
  have h₁ : kb.pass.limitExceeded = false := limitExceeded_pass_of_le h
  have h₂ : (kb.withLimit m).pass.limitExceeded = false := limitExceeded_pass_of_le (Nat.le_trans h hm)
  have hd : (kb.withLimit m).pass.derived = kb.pass.derived := rfl
  calc (kb.withLimit m).pass = ⟨(kb.withLimit m).pass.derived, (kb.withLimit m).pass.limitExceeded⟩ := rfl
    _ = ⟨kb.pass.derived, kb.pass.limitExceeded⟩ := by rw [hd, h₁, h₂]

/-- A fixpoint that is reached within some limits is reached in the same way within wider ones. -/
theorem Run.saturate_withLimit (h : Run n kb kb' s) (hs : s.fixpoint = true) (hn : n ≤ n') (hm : kb.maxFacts ≤ m) :
    (kb.withLimit m).saturate n' = (kb'.withLimit m, s) := by
  induction h generalizing n' with
  | stop => cases hs
  | exceed => cases hs
  | @fixed n kb hle e =>
    obtain ⟨k, rfl⟩ := Nat.exists_eq_succ_of_ne_zero (Nat.ne_of_gt (Nat.lt_of_lt_of_le n.succ_pos hn))
    simp [saturate_succ, pass_withLimit hle hm, next_withLimit, changed_pass_of_eq e, limitExceeded_pass_of_le hle, e]
  | @more n kb kb' s hle hne _ ih =>
    obtain ⟨k, rfl⟩ := Nat.exists_eq_succ_of_ne_zero (Nat.ne_of_gt (Nat.lt_of_lt_of_le n.succ_pos hn))
    have hrest : (kb.next.withLimit m).saturate k = (kb'.withLimit m, s) := ih hs (Nat.le_of_succ_le_succ hn) hm
    simp [saturate_succ, pass_withLimit hle hm, next_withLimit, changed_pass_iff.mpr hne,
      limitExceeded_pass_of_le hle, hrest]

end KnowledgeBase

/-! ## Wider limits -/

/-- All limits of `c'` are those of `c` or wider. What a truncated search keeps, the number of fallback candidates and
the vocabulary are the same. -/
structure SolverConfig.WidensTo (c c' : SolverConfig) : Prop where
  maxFacts : c.maxFacts ≤ c'.maxFacts
  maxSteps : c.maxSteps ≤ c'.maxSteps
  maxFreeVariables : c.search.maxFreeVariables ≤ c'.search.maxFreeVariables
  maxDomainSize : c.search.maxDomainSize ≤ c'.search.maxDomainSize
  truncatedVariables : c'.search.truncatedVariables = c.search.truncatedVariables
  truncatedDomainSize : c'.search.truncatedDomainSize = c.search.truncatedDomainSize
  fallbackDomainSize : c'.search.fallbackDomainSize = c.search.fallbackDomainSize
  domains : c'.domains = c.domains

namespace SearchSpace

variable {c c' : SolverConfig} {kb : KnowledgeBase}

theorem unbounded_of_widensTo (hw : c.WidensTo c') (kb : KnowledgeBase) : unbounded kb c' = unbounded kb c := by
  simp only [unbounded, SolverConfig.candidates, hw.domains, hw.fallbackDomainSize]

theorem oversized_eq_false_iff {limits : SearchLimits} {vs : List FreeVariable} : oversized limits vs = false ↔
    vs.length ≤ limits.maxFreeVariables ∧ ∀ v ∈ vs, v.domain.length ≤ limits.maxDomainSize := by
  simp [oversized]

theorem truncated_bounded (limits : SearchLimits) (vs : List FreeVariable) :
    (bounded limits vs).truncated = oversized limits vs := by
  unfold bounded
  split
  · next h => exact h.symm
  · next h => exact (Bool.eq_false_iff.mpr h).symm

theorem bounded_of_not_oversized {limits : SearchLimits} {vs : List FreeVariable} (h : oversized limits vs = false) :
    bounded limits vs = ⟨vs, false⟩ := by
  rw [bounded, if_neg (Bool.eq_false_iff.mp h)]

theorem discover_of_not_truncated (h : (discover kb c).truncated = false) : discover kb c = ⟨unbounded kb c, false⟩ := by
  rw [discover, truncated_bounded] at h
  rw [discover, bounded_of_not_oversized h]

/-- A space that is not cut down is not cut down under wider limits. -/
theorem discover_of_widensTo (hw : c.WidensTo c') (h : (discover kb c).truncated = false) :
    discover kb c' = discover kb c := by
  rw [discover, truncated_bounded] at h
  obtain ⟨hvars, hdom⟩ := oversized_eq_false_iff.mp h
  have h' : oversized c'.search (unbounded kb c) = false :=
    oversized_eq_false_iff.mpr ⟨Nat.le_trans hvars hw.maxFreeVariables, fun v hv =>
      Nat.le_trans (hdom v hv) hw.maxDomainSize⟩
  rw [discover, discover, unbounded_of_widensTo hw, bounded_of_not_oversized h, bounded_of_not_oversized h']

end SearchSpace

/-! ## The search -/

/-- No limit was met. -/
structure Tally.Unlimited (a : Tally) : Prop where
  steps : a.stepLimitHit = false
  facts : a.factLimitHit = false

theorem Tally.unlimited_add_iff {a b : Tally} : (a + b).Unlimited ↔ a.Unlimited ∧ b.Unlimited := by
  have hs : (a + b).stepLimitHit = (a.stepLimitHit || b.stepLimitHit) := rfl
  have hf : (a + b).factLimitHit = (a.factLimitHit || b.factLimitHit) := rfl
  constructor
  · rintro ⟨h₁, h₂⟩
    rw [hs, Bool.or_eq_false_iff] at h₁
    rw [hf, Bool.or_eq_false_iff] at h₂
    exact ⟨⟨h₁.1, h₂.1⟩, ⟨h₁.2, h₂.2⟩⟩
  · rintro ⟨h₁, h₂⟩
    exact ⟨by rw [hs, h₁.steps, h₂.steps, Bool.or_false], by rw [hf, h₁.facts, h₂.facts, Bool.or_false]⟩

/-- A run of deduction that meets no limit reaches a fixpoint. -/
theorem Tally.unlimited_ofSaturation_iff {n : Nat} {kb kb' : KnowledgeBase} {s : Saturation} (h : Run n kb kb' s) :
    (ofSaturation s).Unlimited ↔ s.fixpoint = true := by
  constructor
  · rintro ⟨hs, hf⟩
    exact Saturation.fixpoint_of_outOfSteps hs hf
  · intro hfix
    have hl : s.limitExceeded = false := Bool.eq_false_iff.mpr fun hl => by simp [h.fixpoint_eq_false hl] at hfix
    exact ⟨by simp [Saturation.outOfSteps, hfix], hl⟩

/-- The same result, with its leaf under another limit on facts. -/
def SearchResult.withLimit (r : SearchResult) (m : Nat) : SearchResult :=
  { r with leaf := r.leaf.map fun l => { l with kb := l.kb.withLimit m } }

section Search

variable {t : ConstraintTable} {n n' m : Nat} {kb : KnowledgeBase}

theorem fixpoint_of_unlimited (h : (evaluateLeaf t n kb).tally.Unlimited) : (kb.saturate n).2.fixpoint = true := by
  rw [← Tally.unlimited_ofSaturation_iff (run_saturate n kb)]
  rw [evaluateLeaf_eq] at h
  split at h
  · exact (Tally.unlimited_add_iff.mp h).2
  · split at h
    · exact (Tally.unlimited_add_iff.mp (Tally.unlimited_add_iff.mp h).1).2
    · exact (Tally.unlimited_add_iff.mp h).2

theorem evaluateLeaf_withLimit (hn : n ≤ n') (hm : kb.maxFacts ≤ m) (h : (evaluateLeaf t n kb).tally.Unlimited) :
    evaluateLeaf t n' (kb.withLimit m) = (evaluateLeaf t n kb).withLimit m := by
  have hsat := (run_saturate n kb).saturate_withLimit (fixpoint_of_unlimited h) hn hm
  rw [evaluateLeaf_eq, evaluateLeaf_eq, leaf, hsat, conflict_withLimit, isComplete_withLimit]
  split
  · rfl
  · split <;> rfl

/-- Alternatives that give the same where no limit is met give the same together. -/
theorem firstLeaf_withLimit {α : Type _} {f g : α → SearchResult} : ∀ {as : List α},
    (∀ a ∈ as, (f a).tally.Unlimited → g a = (f a).withLimit m) → (firstLeaf f as).tally.Unlimited →
      firstLeaf g as = (firstLeaf f as).withLimit m
  | [], _, _ => rfl
  | a :: as, hfg, h => by
    obtain ⟨ha, has⟩ := List.forall_mem_cons.mp hfg
    rw [firstLeaf] at h ⊢
    cases hl : (f a).leaf with
    | some l =>
      rw [if_pos (by simp [hl])] at h
      have hg : g a = (f a).withLimit m := ha h
      simp [firstLeaf, hg, hl, SearchResult.withLimit]
    | none =>
      rw [if_neg (by simp [hl])] at h
      obtain ⟨h₁, h₂⟩ := Tally.unlimited_add_iff.mp h
      have hg : g a = (f a).withLimit m := ha h₁
      have hrest : firstLeaf g as = (firstLeaf f as).withLimit m := firstLeaf_withLimit has h₂
      simp [firstLeaf, hg, hrest, hl, SearchResult.withLimit, SearchResult.after]

/-- A search that meets no limit is the same search under wider ones. -/
theorem search_withLimit (hn : n ≤ n') {vs : List FreeVariable} (hm : kb.maxFacts ≤ m)
    (h : (search t n vs kb).tally.Unlimited) : search t n' vs (kb.withLimit m) = (search t n vs kb).withLimit m := by
  induction vs generalizing kb with
  | nil => exact evaluateLeaf_withLimit hn hm h
  | cons v vs ih =>
    rw [search] at h ⊢
    rw [search]
    refine firstLeaf_withLimit (fun value _ hvalue => ?_) h
    have hbranch := (Tally.unlimited_add_iff.mp hvalue).2
    simp only [assign_withLimit, conflict_withLimit]
    split
    · rfl
    · next hc =>
      rw [if_neg hc] at hbranch
      rw [ih (by rwa [maxFacts_assign]) hbranch]
      rfl

end Search

/-! ## The outcome -/

namespace Solver

variable {kb base : KnowledgeBase} {table : ConstraintTable} {c c' : SolverConfig} {steps : Nat} {met : Tally}

/-- No limit was met in a solve, and the search space was not cut down. -/
structure Unlimited (s : Solver) : Prop where
  facts : s.solve.stats.factLimitHit = false
  steps : s.solve.stats.stepLimitHit = false
  space : s.solve.stats.searchTruncated = false

/-- Then the first deduction met none. -/
theorem Unlimited.fixpoint_deduced {s : Solver} (h : s.Unlimited) : s.deduced.2.fixpoint = true := by
  rw [← Tally.unlimited_ofSaturation_iff s.run_deduced]
  obtain ⟨hf, hs, -⟩ := h
  rcases s.solve_cases with ⟨_, e⟩ | ⟨_, _, e⟩ | ⟨_, _, _, e⟩ | ⟨_, _, _, e⟩ <;> rw [e] at hf hs
  · exact ⟨hs, hf⟩
  · exact (Tally.unlimited_add_iff.mp ⟨hs, hf⟩).1
  · exact ⟨hs, hf⟩
  · exact (Tally.unlimited_add_iff.mp ⟨hs, hf⟩).1

theorem searchFrom_of_widensTo (hw : c.WidensTo c') (hm : base.maxFacts ≤ c'.maxFacts)
    (hf : ((mk kb c table).searchFrom base steps met).stats.factLimitHit = false)
    (hs : ((mk kb c table).searchFrom base steps met).stats.stepLimitHit = false)
    (ht : ((mk kb c table).searchFrom base steps met).stats.searchTruncated = false) :
    (mk kb c' table).searchFrom (base.withLimit c'.maxFacts) steps met = (mk kb c table).searchFrom base steps met := by
  have hspace : SearchSpace.discover (base.withLimit c'.maxFacts) c' = SearchSpace.discover base c :=
    SearchSpace.discover_of_widensTo hw ht
  have hsearch := search_withLimit hw.maxSteps hm (Tally.unlimited_add_iff.mp ⟨hs, hf⟩).2
  simp only [searchFrom, hspace, hsearch, SearchResult.withLimit, Option.map_map]
  rfl

/-- The first deduction ends with the same facts, by the same passes. -/
theorem deduced_of_widensTo (hw : c.WidensTo c') (h : (mk kb c table).Unlimited) : (mk kb c' table).deduced =
    ((mk kb c table).deduced.1.withLimit c'.maxFacts, (mk kb c table).deduced.2) :=
  (mk kb c table).run_deduced.saturate_withLimit h.fixpoint_deduced hw.maxSteps hw.maxFacts

end Solver

/-- **Limits that were not hit have no influence**: the solution and the statistics under wider limits are the same. -/
theorem solve_of_widensTo {kb : KnowledgeBase} {table : ConstraintTable} {c c' : SolverConfig} (hw : c.WidensTo c')
    (hf : (Solver.mk kb c table).solve.stats.factLimitHit = false)
    (hs : (Solver.mk kb c table).solve.stats.stepLimitHit = false)
    (ht : (Solver.mk kb c table).solve.stats.searchTruncated = false) :
    (Solver.mk kb c' table).solve = (Solver.mk kb c table).solve := by
  have hded := Solver.deduced_of_widensTo hw ⟨hf, hs, ht⟩
  have hrun : (Solver.mk kb c' table).deduced.2 = (Solver.mk kb c table).deduced.2 := by rw [hded]
  have hkb : (Solver.mk kb c' table).deduced.1 = (Solver.mk kb c table).deduced.1.withLimit c'.maxFacts := by
    rw [hded]
  rw [Solver.solve_eq ⟨kb, c', table⟩, hrun, hkb]
  rcases (Solver.mk kb c table).solve_cases with ⟨hl, e⟩ | ⟨hl, hc, e⟩ | ⟨hl, hc, hi, e⟩ | ⟨hl, hc, hi, e⟩
  · rw [e, if_pos hl]
  · have hc' : ((Solver.mk kb c table).deduced.1.conflict table).isSome = true := Option.isSome_iff_ne_none.mpr hc
    rw [e, if_neg (by simp [hl]), conflict_withLimit, if_pos hc']
  · rw [e, if_neg (by simp [hl]), conflict_withLimit, isComplete_withLimit, if_neg (by simp [hc]), if_pos hi]
    rfl
  · rw [e] at hf hs ht
    have hm : (Solver.mk kb c table).deduced.1.maxFacts = c.maxFacts := (Solver.mk kb c table).run_deduced.maxFacts_eq
    rw [e, if_neg (by simp [hl]), conflict_withLimit, isComplete_withLimit, if_neg (by simp [hc]), if_neg (by simp [hi])]
    exact Solver.searchFrom_of_widensTo hw (hm ▸ hw.maxFacts) hf hs ht

/-- The usual configuration with wider limits. -/
def widened : SolverConfig :=
  { SolverConfig.standard with maxFacts := 1000, maxSteps := 50, search := ⟨6, 10, 2, 3, 5⟩ }

theorem widensTo_widened : SolverConfig.standard.WidensTo widened :=
  ⟨by decide, by decide, by decide, by decide, rfl, rfl, rfl, rfl⟩

/-- The search for the variable of `undecided` meets no limit, so it finds the same leaf in the same way. -/
theorem solve_undecided_widened : undecided.config.WidensTo widened ∧
    undecided.solve.stats.factLimitHit = false ∧ undecided.solve.stats.stepLimitHit = false ∧
    undecided.solve.stats.searchTruncated = false ∧ (Solver.mk undecided.kb widened undecided.table).solve =
      ⟨some ⟨undecidedLeaf.facts, 1⟩, ⟨3, 1, true, 1, 1, 0, false, false, false⟩⟩ := by
  have hf : undecided.solve.stats.factLimitHit = false := by rw [outcome_undecided]
  have hs : undecided.solve.stats.stepLimitHit = false := by rw [outcome_undecided]
  have ht : undecided.solve.stats.searchTruncated = false := by rw [outcome_undecided]
  exact ⟨widensTo_widened, hf, hs, ht, (solve_of_widensTo widensTo_widened hf hs ht).trans outcome_undecided⟩

end LogicGrid
