import LogicGrid.Proofs.Passes
import Mathlib

/-!
# What passes and runs record

The consequences of a pass come rule by rule (`pairwise_consequences`), so the first derivation of a fact names the first
rule that yields it (`rule_le_of_mem_firstDerivations`). A run counts one pass more than its productive passes exactly
when its last pass added nothing, which may be at a fixpoint or above the limit (`Run.passes_eq`).

* `forwardChain_exact` – what one pass adds, in which order and under which rule;
* `saturate_exact` – where a run ends, what its record says, and that a run which used up its passes can be continued.
-/

namespace LogicGrid

namespace KnowledgeBase

variable {kb kb' : KnowledgeBase} {n : Nat} {s : Saturation} {d e : Derivation}

/-! ## One pass -/

theorem pairwise_consequences (kb : KnowledgeBase) : kb.consequences.Pairwise (·.rule ≤ ·.rule) := by
  have hplaces : kb.rules.zipIdx.Pairwise (·.2 < ·.2) := by
    rw [← List.pairwise_map (f := Prod.snd), List.zipIdx_map_snd]
    exact List.pairwise_lt_range'
  refine List.pairwise_flatMap.mpr ⟨fun p _ => ?_, hplaces.imp fun {p q} hlt d hd e he => ?_⟩
  · exact List.pairwise_map.mpr (List.pairwise_of_forall fun _ _ => Nat.le_refl p.2)
  · obtain ⟨_, -, rfl⟩ := List.mem_map.mp hd
    obtain ⟨_, -, rfl⟩ := List.mem_map.mp he
    exact Nat.le_of_lt hlt

/-- A first derivation names the least rule among the derivations of its fact. -/
theorem rule_le_of_mem_firstDerivations : ∀ {ds : List Derivation} {known : FactSet},
    ds.Pairwise (·.rule ≤ ·.rule) → d ∈ firstDerivations known ds → e ∈ ds → e.fact = d.fact → d.rule ≤ e.rule
  | [], _, _, hd, _, _ => absurd hd List.not_mem_nil
  | a :: ds, known, hds, hd, he, hfact => by
    obtain ⟨ha, hds⟩ := List.pairwise_cons.mp hds
    have hnew : ∀ known', d ∈ firstDerivations known' ds → d.fact ∉ known' := fun known' h =>
      (mem_firstDerivations.mp (List.mem_map_of_mem h)).2
    rw [firstDerivations] at hd
    split at hd
    · next hknown =>
      rcases List.mem_cons.mp he with rfl | he
      · exact absurd (hfact ▸ hknown) (hnew _ hd)
      · exact rule_le_of_mem_firstDerivations hds hd he hfact
    · rcases List.mem_cons.mp hd with rfl | hd
      · exact (List.mem_cons.mp he).elim (fun h => h ▸ Nat.le_refl _) (ha e)
      · rcases List.mem_cons.mp he with rfl | he
        · -- the fact of `a` is known to the derivations behind it
          exact absurd (FactSet.mem_insert.mpr (Or.inr hfact.symm)) (hnew _ hd)
        · exact rule_le_of_mem_firstDerivations hds hd he hfact

theorem mem_of_mem_firstDerivations : ∀ {ds : List Derivation} {known : FactSet}, d ∈ firstDerivations known ds → d ∈ ds
  | [], _, hd => hd
  | a :: ds, known, hd => by
    rw [firstDerivations] at hd
    split at hd
    · exact List.mem_cons_of_mem _ (mem_of_mem_firstDerivations hd)
    · exact List.mem_cons.mpr ((List.mem_cons.mp hd).imp_right mem_of_mem_firstDerivations)

/-- What the rules yield and the facts do not hold: rule by rule, each fact where it occurs first. -/
def news (kb : KnowledgeBase) : List Fact :=
  ((kb.rules.flatMap (·.apply kb.facts.toList)).filter (· ∉ kb.facts)).eraseDups

theorem map_fact_derived_pass (kb : KnowledgeBase) : kb.pass.derived.map Derivation.fact = kb.news := by
  rw [news, ← map_fact_consequences, ← map_fact_firstDerivations]
  rfl

theorem isLeast_rule_of_mem_derived (hd : d ∈ kb.pass.derived) :
    IsLeast {i | ∃ r, kb.rules[i]? = some r ∧ d.fact ∈ r.apply kb.facts.toList} d.rule :=
  ⟨mem_consequences_iff.mp (mem_of_mem_firstDerivations hd), fun i hi =>
    rule_le_of_mem_firstDerivations (e := ⟨i, d.fact⟩) kb.pairwise_consequences hd (mem_consequences_iff.mpr hi) rfl⟩

/-- **One pass, exactly.** All rules read the facts of before. Behind these come the facts that the rules yield and that
were not there, each once, in the order in which they are yielded first, rule by rule. The record lists them in that
order, each under the first rule that yields it, and says whether they are too many now. Nothing else changes. -/
theorem forwardChain_exact (kb : KnowledgeBase) :
    kb.forwardChain.1.facts.toList = kb.facts.toList ++ kb.news ∧
    kb.forwardChain.2.derived.map Derivation.fact = kb.news ∧
    (∀ d ∈ kb.forwardChain.2.derived,
      IsLeast {i | ∃ r, kb.rules[i]? = some r ∧ d.fact ∈ r.apply kb.facts.toList} d.rule) ∧
    (kb.forwardChain.2.limitExceeded = true ↔ kb.maxFacts < kb.forwardChain.1.facts.size) ∧
    kb.forwardChain.1.rules = kb.rules ∧ kb.forwardChain.1.maxFacts = kb.maxFacts := by
  refine ⟨?_, kb.map_fact_derived_pass, fun d => isLeast_rule_of_mem_derived, limitExceeded_pass_iff, rfl, rfl⟩
  rw [← map_fact_derived_pass]
  exact kb.toList_next

/-- The fact `a(x)`, with rules from `a` to `b`, from `b` to `c`, and from `a` to `b` once more. -/
def stairs : KnowledgeBase := .ofContents [⟨"a", [.const "x"]⟩]
  [⟨[⟨"a", [.var "X"]⟩], ⟨"b", [.var "X"]⟩⟩, ⟨[⟨"b", [.var "X"]⟩], ⟨"c", [.var "X"]⟩⟩,
    ⟨[⟨"a", [.var "X"]⟩], ⟨"b", [.var "X"]⟩⟩]

theorem consequences_stairs :
    stairs.consequences = [⟨0, ⟨"b", [.const "x"]⟩⟩, ⟨2, ⟨"b", [.const "x"]⟩⟩] := by
  rw [consequences_eq]
  cbv

/-- The first pass adds `b(x)` alone, once, and under the first of its two rules. -/
theorem forwardChain_exact_stairs :
    stairs.forwardChain.1.facts.toList = [⟨"a", [.const "x"]⟩, ⟨"b", [.const "x"]⟩] ∧
    stairs.forwardChain.2.derived = [⟨0, ⟨"b", [.const "x"]⟩⟩] ∧
    IsLeast {i | ∃ r, stairs.rules[i]? = some r ∧ ⟨"b", [.const "x"]⟩ ∈ r.apply stairs.facts.toList} 0 := by
  have hnews : stairs.news = [⟨"b", [.const "x"]⟩] := by
    rw [news, ← map_fact_consequences, consequences_stairs]
    decide
  have hderived : stairs.forwardChain.2.derived = [⟨0, ⟨"b", [.const "x"]⟩⟩] := by
    rw [forwardChain, consequences_stairs]
    rfl
  obtain ⟨hfacts, -, hleast, -⟩ := forwardChain_exact stairs
  rw [hnews] at hfacts
  exact ⟨hfacts, hderived, hleast ⟨0, ⟨"b", [.const "x"]⟩⟩ (by rw [hderived]; exact List.mem_singleton.mpr rfl)⟩

/-! ## Runs -/

namespace Run

/-- The passes of a run lead to its end. -/
theorem eq_iterate (h : Run n kb kb' s) : kb' = next^[s.passes] kb := by
  induction h with
  | stop => rfl
  | exceed => rfl
  | fixed _ e => exact e.symm
  | more _ _ _ ih => exact ih

theorem passes_le (h : Run n kb kb' s) : s.passes ≤ n := by
  induction h with
  | stop => exact Nat.le_refl 0
  | exceed => exact Nat.succ_le_succ (Nat.zero_le _)
  | fixed => exact Nat.succ_le_succ (Nat.zero_le _)
  | more _ _ _ ih => exact Nat.succ_le_succ ih

/-- The last pass added nothing exactly when it is no productive pass. -/
theorem productivePasses_succ_eq_iff (h : Run n kb kb' s) :
    s.productivePasses + 1 = s.passes ↔ ∃ k, s.passes = k + 1 ∧ (next^[k] kb).pass.derived = [] := by
  have hend := h.eq_iterate
  obtain ⟨hproductive, hchanged⟩ := h.productive
  constructor
  · intro hp
    refine ⟨s.productivePasses, hp.symm, derived_pass_eq_nil_iff.mpr ?_⟩
    calc (next^[s.productivePasses] kb).next = next^[s.productivePasses + 1] kb :=
          (Function.iterate_succ_apply' next _ kb).symm
      _ = kb' := by rw [hp, hend]
      _ = next^[s.productivePasses] kb := hproductive
  · rintro ⟨k, hk, hnil⟩
    rcases h.passes_eq with hp | hp
    · -- the pass at `k` would be productive
      have hstep : next^[k + 1] kb ≠ next^[k] kb := hchanged k (by omega)
      rw [Function.iterate_succ_apply'] at hstep
      exact absurd (derived_pass_eq_nil_iff.mp hnil) hstep
    · exact hp.symm

/-- A run goes on only after a pass that added facts within the limit. -/
theorem goes_on (h : Run n kb kb' s) : ∀ k, k + 1 < s.passes →
    (next^[k] kb).next ≠ next^[k] kb ∧ (next^[k + 1] kb).facts.size ≤ kb.maxFacts := by
  induction h with
  | stop => exact fun k hk => absurd hk (Nat.not_lt_zero _)
  | exceed => exact fun k hk => absurd (Nat.lt_of_succ_lt_succ hk) (Nat.not_lt_zero k)
  | fixed => exact fun k hk => absurd (Nat.lt_of_succ_lt_succ hk) (Nat.not_lt_zero k)
  | more hle hne _ ih =>
    intro k hk
    cases k with
    | zero => exact ⟨hne, hle⟩
    | succ k => exact ih k (Nat.lt_of_succ_lt_succ hk)

theorem passes_pos (h : Run n kb kb' s) (hn : 0 < n) : 0 < s.passes := by
  cases h with
  | stop => exact absurd hn (Nat.lt_irrefl 0)
  | exceed => exact Nat.succ_pos _
  | fixed => exact Nat.succ_pos _
  | more => exact Nat.succ_pos _

/-- A run without a flag used up its passes, all of them productive. -/
theorem passes_eq_of_outOfSteps (h : Run n kb kb' s) (hf : s.fixpoint = false) (hl : s.limitExceeded = false) :
    s.passes = n ∧ s.productivePasses = n := by
  induction h with
  | stop => exact ⟨rfl, rfl⟩
  | exceed => cases hl
  | fixed => cases hf
  | more _ hne _ ih =>
    obtain ⟨hp, hq⟩ := ih hf hl
    exact ⟨congrArg (· + 1) hp, by rw [productivePasses_after_of_ne hne, hq]⟩

/-- A run without a flag can be continued. -/
theorem saturate_add (h : Run n kb kb' s) (hf : s.fixpoint = false) (hl : s.limitExceeded = false) (m : Nat) :
    (saturate (n + m) kb).1 = (saturate m kb').1 := by
  induction h with
  | stop => rw [Nat.zero_add]
  | exceed => cases hl
  | fixed => cases hf
  | more hle hne _ ih =>
    rw [Nat.add_right_comm, saturate_succ, limitExceeded_pass_of_le hle, changed_pass_iff.mpr hne]
    exact ih hf hl

end Run

/-- The end of a run of at most `n` passes, and what its record says. -/
structure Recorded (n : Nat) (kb kb' : KnowledgeBase) (s : Saturation) : Prop where
  end_eq : kb' = next^[s.passes] kb
  passes_le : s.passes ≤ n
  passes_pos : 0 < n → 0 < s.passes
  /-- Behind a pass another one comes only if the pass added facts and stayed within the limit. -/
  goes_on : ∀ k, k + 1 < s.passes → (next^[k] kb).pass.derived ≠ [] ∧ (next^[k + 1] kb).facts.size ≤ kb.maxFacts
  size_eq : kb'.facts.size = kb.facts.size + s.derived
  productive : s.productivePasses = s.passes ∨ s.productivePasses + 1 = s.passes
  /-- There is a last pass, and it added nothing. -/
  unproductive : s.productivePasses + 1 = s.passes ↔ ∃ k, s.passes = k + 1 ∧ (next^[k] kb).pass.derived = []
  exclusive : ¬(s.fixpoint = true ∧ s.limitExceeded = true)
  fixpoint : s.fixpoint = true → kb'.pass.derived = [] ∧ kb'.next = kb' ∧ kb'.facts.size ≤ kb.maxFacts
  exceeded : 0 < s.passes → (s.limitExceeded = true ↔ kb.maxFacts < kb'.facts.size)
  usedUp : s.fixpoint = false → s.limitExceeded = false → s.passes = n ∧ ∀ k < n, (next^[k] kb).pass.derived ≠ []

theorem Run.recorded (h : Run n kb kb' s) : Recorded n kb kb' s where
  end_eq := h.eq_iterate
  passes_le := h.passes_le
  passes_pos := h.passes_pos
  goes_on k hk := (h.goes_on k hk).imp_left (mt derived_pass_eq_nil_iff.mp)
  size_eq := h.size_eq_add
  productive := h.passes_eq.imp Eq.symm Eq.symm
  unproductive := h.productivePasses_succ_eq_iff
  exclusive hs := by simp [h.fixpoint_eq_false hs.2] at hs
  fixpoint hs := ⟨derived_pass_eq_nil_iff.mpr (h.next_eq hs), h.next_eq hs, h.size_le_of_fixpoint hs⟩
  exceeded hp := by
    refine ⟨h.lt_size, fun hlt => ?_⟩
    by_contra hl
    exact absurd (h.size_le (Bool.eq_false_iff.mpr hl) (Nat.lt_of_lt_of_le hp h.passes_le)) (Nat.not_le.mpr hlt)
  usedUp hf hl := by
    obtain ⟨hp, hq⟩ := h.passes_eq_of_outOfSteps hf hl
    refine ⟨hp, fun k hk hnil => h.productive.2 k (hq ▸ hk) ?_⟩
    rw [Function.iterate_succ_apply', derived_pass_eq_nil_iff.mp hnil]

/-- **A run, exactly.** Its end is reached by the passes that it counts, and its record is right. A run that set no flag
ends where a longer one comes by: going on from there leads to the same facts as more passes from the start. -/
theorem saturate_exact (n : Nat) (kb : KnowledgeBase) :
    Recorded n kb (saturate n kb).1 (saturate n kb).2 ∧
    ∀ m, (saturate n kb).2.fixpoint = false → (saturate n kb).2.limitExceeded = false →
      (saturate m (saturate n kb).1).1 = (saturate (n + m) kb).1 :=
  ⟨(run_saturate n kb).recorded, fun m hf hl => ((run_saturate n kb).saturate_add hf hl m).symm⟩

/-- One pass leaves both flags unset, and what comes next is the same with and without a stop. -/
theorem saturate_exact_stairs : (saturate 1 stairs).2 = ⟨1, 1, 1, false, false⟩ ∧
    Recorded 1 stairs (saturate 1 stairs).1 (saturate 1 stairs).2 ∧
    (saturate 2 (saturate 1 stairs).1).1 = (saturate 3 stairs).1 := by
  have hrecord : (saturate 1 stairs).2 = ⟨1, 1, 1, false, false⟩ := by
    rw [saturate, forwardChain, consequences_stairs]
    rfl
  obtain ⟨hrecorded, hmore⟩ := saturate_exact 1 stairs
  exact ⟨hrecord, hrecorded, hmore 2 (by rw [hrecord]) (by rw [hrecord])⟩

end KnowledgeBase

end LogicGrid
