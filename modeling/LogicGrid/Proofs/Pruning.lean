import LogicGrid.Proofs.Exits
import Mathlib.Data.List.Forall2

/-!
# Pruning takes nothing away

The *tuples* of a space give each variable a value of its domain, in lexicographic order. A knowledge base is *solved
by* deduction when a run stays within the limit, leaves no variable and no two facts that are forbidden together.
Plain search assigns one tuple after another, and takes the first one whose knowledge base deduction solves.

No assignment and no pass removes a ground fact (`subset_groundFacts_assign`, `Run.subset_groundFacts`), so a conflict
stays (`conflict_ne_none_of_subset`), and no tuple behind a conflict qualifies (`not_solved_of_conflict`).

* `leaf_search_eq_exhaustive` – a search that prunes finds what plain search finds.
-/

namespace LogicGrid

open KnowledgeBase

/-! ## Ground facts stay -/

theorem Fact.replace_of_isGround {f : Fact} (h : f.isGround = true) (x : String) (v : Term) : f.replace x v = f :=
  subst_of_isGround h

namespace KnowledgeBase

variable {kb kb' : KnowledgeBase} {t : ConstraintTable} {x : String} {v : Term} {f : Fact} {n : Nat} {s : Saturation}

@[simp] theorem rules_assign (kb : KnowledgeBase) (x : String) (v : Term) : (kb.assign x v).rules = kb.rules := by
  unfold assign
  split <;> rfl

@[simp] theorem maxFacts_assign (kb : KnowledgeBase) (x : String) (v : Term) :
    (kb.assign x v).maxFacts = kb.maxFacts := by
  unfold assign
  split <;> rfl

/-- An assignment replaces the variable in every fact. -/
theorem mem_assign_iff (hv : x ∉ v.vars) : f ∈ (kb.assign x v).facts ↔ ∃ g ∈ kb.facts, g.replace x v = f := by
  have hnot : ¬v.occurs x = true := mt Term.occurs_iff.mp hv
  rw [assign, if_neg hnot, FactSet.mem_insertAll, FactSet.mem_filter, List.mem_map]
  simp only [List.mem_filter, Bool.not_eq_true', ← Bool.not_eq_true, Fact.mentions_iff]
  constructor
  · rintro (⟨hf, hx⟩ | ⟨g, ⟨hg, _⟩, rfl⟩)
    · exact ⟨f, hf, Fact.replace_of_not_mem hx⟩
    · exact ⟨g, hg, rfl⟩
  · rintro ⟨g, hg, rfl⟩
    by_cases hx : x ∈ g.vars
    · exact Or.inr ⟨g, ⟨hg, hx⟩, rfl⟩
    · rw [Fact.replace_of_not_mem hx]
      exact Or.inl ⟨hg, hx⟩

theorem assign_of_mem (hv : x ∈ v.vars) : kb.assign x v = kb := if_pos (Term.occurs_iff.mpr hv)

theorem mem_groundFacts : f ∈ kb.groundFacts ↔ f ∈ kb.facts ∧ f.isGround = true := List.mem_filter

theorem subset_groundFacts_assign (kb : KnowledgeBase) (x : String) (v : Term) :
    kb.groundFacts ⊆ (kb.assign x v).groundFacts := by
  intro f hf
  by_cases hv : x ∈ v.vars
  · rwa [assign_of_mem hv]
  · obtain ⟨hf, hg⟩ := mem_groundFacts.mp hf
    exact mem_groundFacts.mpr ⟨(mem_assign_iff hv).mpr ⟨f, hf, Fact.replace_of_isGround hg x v⟩, hg⟩

theorem Run.subset_groundFacts (h : Run n kb kb' s) : kb.groundFacts ⊆ kb'.groundFacts := by
  intro f hf
  obtain ⟨hf, hg⟩ := mem_groundFacts.mp hf
  exact mem_groundFacts.mpr ⟨h.prefix_facts.subset hf, hg⟩

/-- A conflict stays as long as the ground facts do. -/
theorem conflict_ne_none_of_subset (h : kb.groundFacts ⊆ kb'.groundFacts) (hc : kb.conflict t ≠ none) :
    kb'.conflict t ≠ none := by
  intro hnone
  refine hc (conflict_eq_none_iff.mpr fun f hf g hg hfg hgg => ?_)
  obtain ⟨hf', _⟩ := mem_groundFacts.mp (h (mem_groundFacts.mpr ⟨hf, hfg⟩))
  obtain ⟨hg', _⟩ := mem_groundFacts.mp (h (mem_groundFacts.mpr ⟨hg, hgg⟩))
  exact conflict_eq_none_iff.mp hnone f hf' g hg' hfg hgg

end KnowledgeBase

/-! ## Plain search -/

/-- A value for each variable: the first variable takes its first value in all tuples before it takes its second one. -/
def tuples : List FreeVariable → List (List Term)
  | [] => [[]]
  | v :: vs => v.domain.flatMap fun value => (tuples vs).map (value :: ·)

/-- Assigns values to variables one after another. -/
def KnowledgeBase.assignAll : KnowledgeBase → List FreeVariable → List Term → KnowledgeBase
  | kb, v :: vs, value :: values => (kb.assign v.name value).assignAll vs values
  | kb, _, _ => kb

/-- Deduction ends within the limit, without variables, and with no two facts that are forbidden together. -/
structure KnowledgeBase.Solved (t : ConstraintTable) (n : Nat) (kb : KnowledgeBase) : Prop where
  within : (kb.saturate n).2.limitExceeded = false
  complete : ∀ f ∈ (kb.saturate n).1.facts, f.isGround = true
  consistent : ∀ f ∈ (kb.saturate n).1.facts, ∀ g ∈ (kb.saturate n).1.facts, ¬t.Forbids f g

theorem KnowledgeBase.solved_iff {t : ConstraintTable} {n : Nat} {kb : KnowledgeBase} : kb.Solved t n ↔
    ((kb.saturate n).2.limitExceeded = false ∧ (kb.saturate n).1.isComplete = true) ∧
      (kb.saturate n).1.conflict t = none := by
  rw [isComplete_iff, conflict_eq_none_iff]
  constructor
  · rintro ⟨hw, hc, hf⟩
    exact ⟨⟨hw, hc⟩, fun f hfm g hgm _ _ => hf f hfm g hgm⟩
  · rintro ⟨⟨hw, hc⟩, hf⟩
    exact ⟨hw, hc, fun f hfm g hgm => hf f hfm g hgm (hc f hfm) (hc g hgm)⟩

instance (t : ConstraintTable) (n : Nat) (kb : KnowledgeBase) : Decidable (kb.Solved t n) :=
  decidable_of_iff _ solved_iff.symm

/-- Where deduction ends, with its productive passes. -/
def KnowledgeBase.leaf (n : Nat) (kb : KnowledgeBase) : Leaf :=
  ⟨(kb.saturate n).1, (kb.saturate n).2.productivePasses⟩

/-- The first tuple that qualifies, without a look at what comes before the leaves. -/
def exhaustiveSearch (t : ConstraintTable) (n : Nat) (vs : List FreeVariable) (kb : KnowledgeBase) : Option Leaf :=
  (tuples vs).findSome? fun values =>
    if (kb.assignAll vs values).Solved t n then some ((kb.assignAll vs values).leaf n) else none

section Search

variable {t : ConstraintTable} {n : Nat} {kb : KnowledgeBase} {v : FreeVariable} {vs : List FreeVariable}

theorem mem_tuples_iff : ∀ {vs : List FreeVariable} {values : List Term},
    values ∈ tuples vs ↔ List.Forall₂ (fun v value => value ∈ v.domain) vs values
  | [], values => by simp [tuples]
  | v :: vs, [] => by simp [tuples]
  | v :: vs, value :: values => by
    rw [List.forall₂_cons, ← mem_tuples_iff]
    simp only [tuples, List.mem_flatMap, List.mem_map, List.cons.injEq]
    constructor
    · rintro ⟨a, ha, as, has, rfl, rfl⟩
      exact ⟨ha, has⟩
    · rintro ⟨ha, has⟩
      exact ⟨value, ha, values, has, rfl, rfl⟩

theorem subset_groundFacts_assignAll : ∀ (vs : List FreeVariable) (values : List Term) (kb : KnowledgeBase),
    kb.groundFacts ⊆ (kb.assignAll vs values).groundFacts
  | [], _, _ => List.Subset.refl _
  | _ :: _, [], _ => List.Subset.refl _
  | v :: vs, value :: values, kb =>
    List.Subset.trans (subset_groundFacts_assign kb v.name value) (subset_groundFacts_assignAll vs values _)

/-- Below a conflict nothing is solved. -/
theorem not_solved_of_conflict (hc : kb.conflict t ≠ none) (values : List Term) :
    ¬(kb.assignAll vs values).Solved t n := by
  intro h
  have hsub : kb.groundFacts ⊆ ((kb.assignAll vs values).saturate n).1.groundFacts :=
    List.Subset.trans (subset_groundFacts_assignAll vs values kb) (run_saturate n _).subset_groundFacts
  exact conflict_ne_none_of_subset hsub hc (solved_iff.mp h).2

/-! ## The leaf of a search -/

/-- A search in a row of lists goes through them one after another. -/
theorem findSome?_flatMap {α β γ : Type _} (f : α → List β) (g : β → Option γ) :
    ∀ as : List α, (as.flatMap f).findSome? g = as.findSome? fun a => (f a).findSome? g
  | [] => rfl
  | a :: as => by
    rw [List.flatMap_cons, List.findSome?_append, findSome?_flatMap f g as, List.findSome?_cons]
    cases (f a).findSome? g <;> rfl

theorem leaf_firstLeaf {α : Type _} (f : α → SearchResult) :
    ∀ as : List α, (firstLeaf f as).leaf = as.findSome? fun a => (f a).leaf
  | [] => rfl
  | a :: as => by
    rw [firstLeaf, List.findSome?_cons]
    cases h : (f a).leaf with
    | some l => simp [h]
    | none =>
      have ih : (firstLeaf f as).leaf = as.findSome? fun a => (f a).leaf := leaf_firstLeaf f as
      simpa [h, SearchResult.after] using ih

theorem evaluateLeaf_eq (t : ConstraintTable) (n : Nat) (kb : KnowledgeBase) : evaluateLeaf t n kb =
    if (kb.saturate n).2.limitExceeded || !(kb.saturate n).1.isComplete then
      .fail ({ leaves := 1 } + .ofSaturation (kb.saturate n).2)
    else if ((kb.saturate n).1.conflict t).isSome then
      .fail ({ leaves := 1 } + .ofSaturation (kb.saturate n).2 + { contradictions := 1 })
    else ⟨some (kb.leaf n), { leaves := 1 } + .ofSaturation (kb.saturate n).2⟩ := rfl

theorem leaf_evaluateLeaf (t : ConstraintTable) (n : Nat) (kb : KnowledgeBase) :
    (evaluateLeaf t n kb).leaf = if kb.Solved t n then some (kb.leaf n) else none := by
  rw [evaluateLeaf_eq]
  by_cases h : kb.Solved t n
  · obtain ⟨⟨hw, hc⟩, hf⟩ := solved_iff.mp h
    simp [h, hw, hc, hf, KnowledgeBase.leaf]
  · rw [if_neg h]
    split
    · rfl
    · next hlim =>
      split
      · rfl
      · next hcon => exact absurd (solved_iff.mpr ⟨by simpa using hlim, by simpa using hcon⟩) h

theorem leaf_search_cons : (search t n (v :: vs) kb).leaf = v.domain.findSome? fun value =>
    if ((kb.assign v.name value).conflict t).isSome then none
    else (search t n vs (kb.assign v.name value)).leaf := by
  rw [search, leaf_firstLeaf]
  congr 1
  funext value
  show (if ((kb.assign v.name value).conflict t).isSome then _ else _ : SearchResult).leaf = _
  split <;> rfl

theorem exhaustiveSearch_cons : exhaustiveSearch t n (v :: vs) kb =
    v.domain.findSome? fun value => exhaustiveSearch t n vs (kb.assign v.name value) := by
  unfold exhaustiveSearch
  rw [tuples, findSome?_flatMap]
  congr 1
  funext value
  rw [List.findSome?_map]
  rfl

theorem exhaustiveSearch_eq_none_iff : exhaustiveSearch t n vs kb = none ↔
    ∀ values ∈ tuples vs, ¬(kb.assignAll vs values).Solved t n := by
  simp [exhaustiveSearch, List.findSome?_eq_none_iff]

end Search

/-- **Pruning takes nothing away**: a search that ends a branch at its first conflict returns what plain search
returns, the leaf of the first tuple that qualifies. It returns nothing exactly when no tuple qualifies. -/
theorem leaf_search_eq_exhaustive (t : ConstraintTable) (n : Nat) (vs : List FreeVariable) (kb : KnowledgeBase) :
    (search t n vs kb).leaf = exhaustiveSearch t n vs kb ∧
    ((search t n vs kb).leaf = none ↔ ∀ values ∈ tuples vs, ¬(kb.assignAll vs values).Solved t n) := by
  have h : (search t n vs kb).leaf = exhaustiveSearch t n vs kb := by
    induction vs generalizing kb with
    | nil =>
      rw [search, leaf_evaluateLeaf]
      by_cases hs : kb.Solved t n <;> simp [exhaustiveSearch, tuples, assignAll, hs]
    | cons v vs ih =>
      rw [leaf_search_cons, exhaustiveSearch_cons]
      congr 1
      funext value
      cases hc : (kb.assign v.name value).conflict t with
      | none => simpa using ih (kb.assign v.name value)
      | some c =>
        have hne : (kb.assign v.name value).conflict t ≠ none := by simp [hc]
        have hnone : exhaustiveSearch t n vs (kb.assign v.name value) = none :=
          exhaustiveSearch_eq_none_iff.mpr fun values _ => not_solved_of_conflict hne values
        simp [hnone]
  exact ⟨h, h ▸ exhaustiveSearch_eq_none_iff⟩

end LogicGrid
