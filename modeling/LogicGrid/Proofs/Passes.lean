import LogicGrid.KnowledgeBase
import Mathlib.Logic.Function.Iterate

/-!
# Runs of deduction passes

`kb.next` is the knowledge base after one pass. `Run n kb kb' s` says how `saturate` goes from `kb` to `kb'` within
`n` passes, with the record `s`: it has no passes left, or the pass exceeds the limit, or the pass adds nothing, or it
goes on from `kb.next`. All laws on whole runs are inductions over `Run`.

* **One pass** (`mem_next_iff`, `changed_pass_iff`): the facts of before and everything the rules yield from them;
  the pass is recorded as unchanged exactly when `kb.next = kb`.
* **A run** (`run_saturate`): `Run.prefix_facts`, `Run.isGround_or_mem`, `Run.size_le`, `Run.size_eq_add`, `Run.next_eq`,
  `Run.productive`.
-/

namespace LogicGrid

namespace KnowledgeBase

variable {kb kb' : KnowledgeBase} {f : Fact} {d : Derivation} {n : Nat} {s : Saturation} {p : Pass}

/-! ## One pass -/

/-- The knowledge base after one pass. -/
def next (kb : KnowledgeBase) : KnowledgeBase := kb.forwardChain.1

/-- The record of one pass. -/
def pass (kb : KnowledgeBase) : Pass := kb.forwardChain.2

@[simp] theorem rules_next (kb : KnowledgeBase) : kb.next.rules = kb.rules := rfl
@[simp] theorem maxFacts_next (kb : KnowledgeBase) : kb.next.maxFacts = kb.maxFacts := rfl

theorem limitExceeded_pass_iff : kb.pass.limitExceeded = true ↔ kb.maxFacts < kb.next.facts.size := decide_eq_true_iff

theorem limitExceeded_pass_of_le (h : kb.next.facts.size ≤ kb.maxFacts) : kb.pass.limitExceeded = false :=
  Bool.eq_false_iff.mpr (mt limitExceeded_pass_iff.mp (Nat.not_lt.mpr h))

/-! ### Consequences -/

/-- A consequence is what the rule at its place yields. -/
theorem mem_consequences_iff : d ∈ kb.consequences ↔
    ∃ r, kb.rules[d.rule]? = some r ∧ d.fact ∈ r.apply kb.facts.toList := by
  obtain ⟨i, f⟩ := d
  simp only [consequences, List.mem_flatMap, List.mem_map, Prod.exists, List.mk_mem_zipIdx_iff_getElem?,
    Derivation.mk.injEq]
  constructor
  · rintro ⟨r, i, hr, f, hf, rfl, rfl⟩
    exact ⟨r, hr, hf⟩
  · rintro ⟨r, hr, hf⟩
    exact ⟨r, i, hr, f, hf, rfl, rfl⟩

theorem map_fact_consequences (kb : KnowledgeBase) :
    kb.consequences.map Derivation.fact = kb.rules.flatMap (·.apply kb.facts.toList) := by
  simp only [consequences, List.map_flatMap, List.map_map, Function.comp_def, List.map_id']
  rw [← List.flatMap_map Prod.fst fun r : Rule => r.apply kb.facts.toList, List.zipIdx_map_fst]

theorem mem_consequences : f ∈ kb.consequences.map Derivation.fact ↔ ∃ r ∈ kb.rules, f ∈ r.apply kb.facts.toList := by
  rw [map_fact_consequences, List.mem_flatMap]

/-- The rules read the facts by nested loops. -/
theorem consequences_eq (kb : KnowledgeBase) : kb.consequences = kb.rules.zipIdx.flatMap fun (r, i) =>
    (((nestedMatches kb.facts.toList .empty r.antecedents).map r.consequent.apply).filter Fact.isGround).map
      fun f => ⟨i, f⟩ := by
  simp only [consequences, Rule.apply, Rule.matchesIn_eq]

/-! ### What is new -/

/-- First derivations are of the derived facts that are not known, each where it occurs first. -/
theorem map_fact_firstDerivations : ∀ (ds : List Derivation) (known : FactSet),
    (firstDerivations known ds).map Derivation.fact = ((ds.map Derivation.fact).filter (· ∉ known)).eraseDups
  | [], _ => rfl
  | d :: ds, known => by
    rw [firstDerivations, List.map_cons]
    split
    · next hd => rw [map_fact_firstDerivations ds known, List.filter_cons_of_neg (by simpa using hd)]
    · next hd =>
      have hboth : ∀ f ∈ ds.map Derivation.fact,
          decide (f ∉ known.insert d.fact) = (!(f == d.fact) && decide (f ∉ known)) := fun f _ => by
        rw [Bool.eq_iff_iff]
        simp [and_comm]
      rw [List.map_cons, map_fact_firstDerivations ds, List.filter_cons_of_pos (by simpa using hd),
        List.eraseDups_cons, List.filter_filter, List.filter_congr hboth]

theorem mem_firstDerivations {ds : List Derivation} {known : FactSet} :
    f ∈ (firstDerivations known ds).map Derivation.fact ↔ f ∈ ds.map Derivation.fact ∧ f ∉ known := by
  rw [map_fact_firstDerivations, List.mem_eraseDups, List.mem_filter, decide_eq_true_iff]

/-- A fact is new in a pass when a rule yields it and it was not there. -/
theorem mem_derived_iff : f ∈ kb.pass.derived.map Derivation.fact ↔
    (∃ r ∈ kb.rules, f ∈ r.apply kb.facts.toList) ∧ f ∉ kb.facts :=
  mem_firstDerivations.trans (and_congr_left fun _ => mem_consequences)

/-- **A pass adds what is new behind the facts of before.** -/
theorem toList_next (kb : KnowledgeBase) :
    kb.next.facts.toList = kb.facts.toList ++ kb.pass.derived.map Derivation.fact := by
  refine FactSet.toList_insertAll_of_nodup (List.nodup_append.mpr ⟨kb.facts.nodup, ?_, fun f hf g hg e => ?_⟩)
  · exact map_fact_firstDerivations _ _ ▸ nodup_eraseDups _
  · exact (mem_derived_iff.mp hg).2 (e ▸ hf)

theorem prefix_facts_next (kb : KnowledgeBase) : kb.facts.toList <+: kb.next.facts.toList :=
  kb.toList_next ▸ List.prefix_append _ _

/-- A pass counts the facts that it adds. -/
theorem size_next (kb : KnowledgeBase) : kb.next.facts.size = kb.facts.size + kb.pass.added := by
  rw [FactSet.size, toList_next, List.length_append, List.length_map, FactSet.size, Pass.added]

theorem mem_next_iff : f ∈ kb.next.facts ↔ f ∈ kb.facts ∨ ∃ r ∈ kb.rules, f ∈ r.apply kb.facts.toList := by
  rw [FactSet.mem_def, toList_next, List.mem_append, ← FactSet.mem_def, mem_derived_iff]
  by_cases hf : f ∈ kb.facts <;> simp [hf]

theorem isGround_or_mem_of_mem_next (h : f ∈ kb.next.facts) : f.isGround = true ∨ f ∈ kb.facts := by
  rcases mem_next_iff.mp h with h | ⟨r, _, h⟩
  · exact Or.inr h
  · exact Or.inl (Rule.isGround_of_mem_apply h)

/-- A pass adds nothing exactly when it leaves the knowledge base as it is. -/
theorem derived_pass_eq_nil_iff : kb.pass.derived = [] ↔ kb.next = kb := by
  constructor
  · intro h
    have e : kb.next = kb.addFacts (kb.pass.derived.map Derivation.fact) := rfl
    rw [e, h]
    rfl
  · intro h
    have e := kb.toList_next
    rw [h, List.self_eq_append_right] at e
    exact List.map_eq_nil_iff.mp e

theorem changed_pass_iff : kb.pass.changed = true ↔ kb.next ≠ kb := by
  rw [Ne, ← derived_pass_eq_nil_iff, Pass.changed, Bool.not_eq_true', List.isEmpty_eq_false_iff]

theorem changed_pass_of_eq (h : kb.next = kb) : kb.pass.changed = false :=
  Bool.eq_false_iff.mpr (mt changed_pass_iff.mp (not_not_intro h))

/-- A pass is counted as productive exactly when it changes the knowledge base. -/
theorem productivePasses_after_of_ne (h : kb.next ≠ kb) (s : Saturation) :
    (Saturation.after kb.pass s).productivePasses = s.productivePasses + 1 := by
  simp [Saturation.after, changed_pass_iff.mpr h]

theorem productivePasses_after_of_eq (h : kb.next = kb) (s : Saturation) :
    (Saturation.after kb.pass s).productivePasses = s.productivePasses := by
  simp [Saturation.after, changed_pass_of_eq h]

/-- A pass adds nothing exactly when the facts are closed under the rules. -/
theorem next_eq_iff : kb.next = kb ↔ ∀ r ∈ kb.rules, ∀ f ∈ r.apply kb.facts.toList, f ∈ kb.facts := by
  constructor
  · intro h r hr f hf
    rw [← h]
    exact mem_next_iff.mpr (Or.inr ⟨r, hr, hf⟩)
  · intro h
    rw [← derived_pass_eq_nil_iff]
    refine List.eq_nil_iff_forall_not_mem.mpr fun d hd => ?_
    obtain ⟨⟨r, hr, hf⟩, hnot⟩ := mem_derived_iff.mp (List.mem_map_of_mem (f := Derivation.fact) hd)
    exact hnot (h r hr _ hf)

/-! ## Runs -/

/-- How at most `n` passes lead from a knowledge base to another one. -/
inductive Run : Nat → KnowledgeBase → KnowledgeBase → Saturation → Prop
  /-- No passes are left. -/
  | stop (kb : KnowledgeBase) : Run 0 kb kb {}
  /-- The pass exceeds the limit. -/
  | exceed {n : Nat} {kb : KnowledgeBase} : kb.maxFacts < kb.next.facts.size →
      Run (n + 1) kb kb.next (.after kb.pass { limitExceeded := true })
  /-- The pass adds nothing. -/
  | fixed {n : Nat} {kb : KnowledgeBase} : kb.next.facts.size ≤ kb.maxFacts → kb.next = kb →
      Run (n + 1) kb kb (.after kb.pass { fixpoint := true })
  /-- The pass adds facts, and the run goes on. -/
  | more {n : Nat} {kb kb' : KnowledgeBase} {s : Saturation} : kb.next.facts.size ≤ kb.maxFacts → kb.next ≠ kb →
      Run n kb.next kb' s → Run (n + 1) kb kb' (.after kb.pass s)

theorem saturate_succ (n : Nat) (kb : KnowledgeBase) : saturate (n + 1) kb =
    if kb.pass.limitExceeded then (kb.next, .after kb.pass { limitExceeded := true })
    else if !kb.pass.changed then (kb.next, .after kb.pass { fixpoint := true })
    else ((saturate n kb.next).1, .after kb.pass (saturate n kb.next).2) := rfl

theorem run_saturate : ∀ (n : Nat) (kb : KnowledgeBase), Run n kb (saturate n kb).1 (saturate n kb).2
  | 0, kb => .stop kb
  | n + 1, kb => by
    rw [saturate_succ]
    split
    · next h => exact .exceed (limitExceeded_pass_iff.mp h)
    · next h =>
      have hle : kb.next.facts.size ≤ kb.maxFacts := Nat.not_lt.mp (mt limitExceeded_pass_iff.mpr h)
      split
      · next hc =>
        have e : kb.next = kb := Decidable.not_not.mp (mt changed_pass_iff.mpr (by simpa using hc))
        have hrun : Run (n + 1) kb kb (.after kb.pass { fixpoint := true }) := .fixed hle e
        simpa only [e] using hrun
      · next hc => exact .more hle (changed_pass_iff.mp (by simpa using hc)) (run_saturate n kb.next)

/-- Facts that are closed under the rules are a fixpoint after one pass. -/
theorem saturate_of_closed (hle : kb.facts.size ≤ kb.maxFacts) (h : ∀ d ∈ kb.consequences, d.fact ∈ kb.facts) :
    kb.saturate (n + 1) = (kb, ⟨1, 0, 0, true, false⟩) := by
  have e : kb.next = kb := next_eq_iff.mpr fun r hr f hf => by
    obtain ⟨d, hd, rfl⟩ := List.mem_map.mp (mem_consequences.mpr ⟨r, hr, hf⟩)
    exact h d hd
  have hd : kb.pass.added = 0 := by rw [Pass.added, derived_pass_eq_nil_iff.mpr e, List.length_nil]
  have hl : kb.pass.limitExceeded = false := limitExceeded_pass_of_le (e.symm ▸ hle)
  simp [saturate_succ, changed_pass_of_eq e, hl, e, Saturation.after, hd]

/-- A pass that closes the facts is followed by one that adds nothing. -/
theorem saturate_of_forwardChain (e : kb.forwardChain = (kb', p)) (hl : p.limitExceeded = false) (hc : p.changed = true)
    (hle : kb'.facts.size ≤ kb'.maxFacts) (h : ∀ d ∈ kb'.consequences, d.fact ∈ kb'.facts) :
    kb.saturate (n + 2) = (kb', .after p ⟨1, 0, 0, true, false⟩) := by
  have hrest : kb'.saturate (n + 1) = (kb', ⟨1, 0, 0, true, false⟩) := saturate_of_closed hle h
  rw [saturate, e]
  simp [hl, hc, hrest]

namespace Run

theorem rules_eq (h : Run n kb kb' s) : kb'.rules = kb.rules := by
  induction h with
  | stop => rfl
  | exceed => rfl
  | fixed => rfl
  | more _ _ _ ih => exact ih

theorem maxFacts_eq (h : Run n kb kb' s) : kb'.maxFacts = kb.maxFacts := by
  induction h with
  | stop => rfl
  | exceed => rfl
  | fixed => rfl
  | more _ _ _ ih => exact ih

/-- A run only adds facts, behind those of before. -/
theorem prefix_facts (h : Run n kb kb' s) : kb.facts.toList <+: kb'.facts.toList := by
  induction h with
  | stop => exact List.prefix_refl _
  | exceed => exact prefix_facts_next _
  | fixed => exact List.prefix_refl _
  | more _ _ _ ih => exact (prefix_facts_next _).trans ih

/-- What a run adds is ground. -/
theorem isGround_or_mem (h : Run n kb kb' s) (hf : f ∈ kb'.facts) : f.isGround = true ∨ f ∈ kb.facts := by
  induction h with
  | stop => exact Or.inr hf
  | exceed => exact isGround_or_mem_of_mem_next hf
  | fixed => exact Or.inr hf
  | more _ _ _ ih => exact (ih hf).elim Or.inl isGround_or_mem_of_mem_next

theorem lt_size (h : Run n kb kb' s) (hs : s.limitExceeded = true) : kb.maxFacts < kb'.facts.size := by
  induction h with
  | stop => cases hs
  | exceed hlt => exact hlt
  | fixed => cases hs
  | more _ _ _ ih => exact ih hs

/-- A run of at least one pass that does not exceed the limit ends within it. -/
theorem size_le (h : Run n kb kb' s) (hs : s.limitExceeded = false) (hn : 0 < n) : kb'.facts.size ≤ kb.maxFacts := by
  induction h with
  | stop => exact absurd hn (Nat.lt_irrefl 0)
  | exceed => cases hs
  | fixed hle e => rwa [e] at hle
  | @more n kb kb' s hle _ hrun ih =>
    cases n with
    | zero =>
      cases hrun
      exact hle
    | succ n => exact ih hs (Nat.succ_pos n)

/-- A run counts the facts that it adds. -/
theorem size_eq_add (h : Run n kb kb' s) : kb'.facts.size = kb.facts.size + s.derived := by
  induction h with
  | stop => rfl
  | @exceed _ kb _ =>
    rw [size_next]
    simp [Saturation.after]
  | @fixed _ kb _ e => simp [Saturation.after, Pass.added, derived_pass_eq_nil_iff.mpr e]
  | @more _ kb _ s _ _ _ ih =>
    rw [ih, size_next, Saturation.after, Nat.add_assoc, Nat.add_comm kb.pass.added]

/-- Only the last pass may add nothing. -/
theorem passes_eq (h : Run n kb kb' s) : s.passes = s.productivePasses ∨ s.passes = s.productivePasses + 1 := by
  induction h with
  | stop => exact Or.inl rfl
  | @exceed n kb _ =>
    by_cases e : kb.next = kb
    · exact Or.inr (by rw [productivePasses_after_of_eq e]; rfl)
    · exact Or.inl (by rw [productivePasses_after_of_ne e]; rfl)
  | fixed _ e => exact Or.inr (by rw [productivePasses_after_of_eq e]; rfl)
  | more _ hne _ ih =>
    rw [productivePasses_after_of_ne hne]
    exact ih.imp (congrArg (· + 1)) (congrArg (· + 1))

theorem productivePasses_le (h : Run n kb kb' s) : s.productivePasses ≤ s.passes := by
  rcases h.passes_eq with e | e <;> omega

/-- A fixpoint is within the limit. -/
theorem size_le_of_fixpoint (h : Run n kb kb' s) (hs : s.fixpoint = true) : kb'.facts.size ≤ kb.maxFacts := by
  induction h with
  | stop => cases hs
  | exceed => cases hs
  | fixed hle e => rwa [e] at hle
  | more _ _ _ ih => exact ih hs

/-- At a fixpoint a further pass adds nothing. -/
theorem next_eq (h : Run n kb kb' s) (hs : s.fixpoint = true) : kb'.next = kb' := by
  induction h with
  | stop => cases hs
  | exceed => cases hs
  | fixed _ e => exact e
  | more _ _ _ ih => exact ih hs

/-- A run never both exceeds the limit and reaches a fixpoint. -/
theorem fixpoint_eq_false (h : Run n kb kb' s) (hs : s.limitExceeded = true) : s.fixpoint = false := by
  induction h with
  | stop => rfl
  | exceed => rfl
  | fixed => cases hs
  | more _ _ _ ih => exact ih hs

/-- **The productive passes** are those from the start on, and they lead to the end. -/
theorem productive (h : Run n kb kb' s) : kb' = next^[s.productivePasses] kb ∧
    ∀ k < s.productivePasses, next^[k + 1] kb ≠ next^[k] kb := by
  induction h with
  | stop => exact ⟨rfl, fun k hk => absurd hk (Nat.not_lt_zero k)⟩
  | @exceed n kb _ =>
    by_cases e : kb.next = kb
    · rw [productivePasses_after_of_eq e]
      exact ⟨e, fun k hk => absurd hk (Nat.not_lt_zero k)⟩
    · rw [productivePasses_after_of_ne e]
      exact ⟨rfl, fun k hk => by rwa [Nat.lt_one_iff.mp hk]⟩
  | fixed _ e =>
    rw [productivePasses_after_of_eq e]
    exact ⟨rfl, fun k hk => absurd hk (Nat.not_lt_zero k)⟩
  | @more n kb kb' s _ hne _ ih =>
    rw [productivePasses_after_of_ne hne]
    refine ⟨ih.1, fun k hk => ?_⟩
    cases k with
    | zero => exact hne
    | succ k => exact ih.2 k (Nat.lt_of_succ_lt_succ hk)

end Run

end KnowledgeBase

end LogicGrid
