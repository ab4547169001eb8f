import LogicGrid.Proofs.Pruning
import Mathlib.Data.List.Flatten

/-!
# The leaves of a search

A search is a scan of its leaves: the knowledge bases below all branches that are not pruned (`leavesBelow`), in their
order and up to the first one that is solved (`evaluated`). It returns what deduction makes of that leaf
(`leaf_search_eq_findSome?`), and its tally counts the leaves up to it (`leaves_tally_search`). Each leaf comes from one
tuple of values, and no tuple gives two (`sublist_leavesBelow`).
-/

namespace LogicGrid

open KnowledgeBase

/-! ## Scans -/

section Scans

variable {α : Type _} {p : α → Bool} {as bs : List α}

/-- The elements of a list up to the first one that passes a test, this one included. -/
def upTo (p : α → Bool) : List α → List α
  | [] => []
  | a :: as => if p a then [a] else a :: upTo p as

theorem upTo_append_of_any (h : as.any p = true) (bs : List α) : upTo p (as ++ bs) = upTo p as := by
  induction as with
  | nil => cases h
  | cons a as ih =>
    rw [List.cons_append, upTo, upTo]
    split
    · rfl
    · next ha => rw [ih (by simpa [ha] using h)]

theorem upTo_append_of_not_any (h : as.any p = false) (bs : List α) : upTo p (as ++ bs) = as ++ upTo p bs := by
  induction as with
  | nil => rfl
  | cons a as ih =>
    rw [List.any_cons, Bool.or_eq_false_iff] at h
    rw [List.cons_append, upTo, if_neg (by simp [h.1]), ih h.2, List.cons_append]

theorem upTo_of_not_any (h : as.any p = false) : upTo p as = as := by
  simpa [upTo] using upTo_append_of_not_any h []

theorem prefix_upTo (p : α → Bool) : ∀ as : List α, upTo p as <+: as
  | [] => List.prefix_refl _
  | a :: as => by
    rw [upTo]
    split
    · exact ⟨as, rfl⟩
    · exact (List.prefix_cons_inj a).mpr (prefix_upTo p as)

/-- What does not pass may be left out before or after. -/
theorem upTo_filter {q : α → Bool} : ∀ {as : List α}, (∀ a ∈ as, q a = false → p a = false) →
    upTo p (as.filter q) = (upTo p as).filter q
  | [], _ => rfl
  | a :: as, h => by
    obtain ⟨ha, has⟩ := List.forall_mem_cons.mp h
    have ih := upTo_filter has
    cases hq : q a with
    | false =>
      rw [List.filter_cons_of_neg (Bool.eq_false_iff.mp hq), upTo, if_neg (Bool.eq_false_iff.mp (ha hq)),
        List.filter_cons_of_neg (Bool.eq_false_iff.mp hq), ih]
    | true =>
      rw [List.filter_cons_of_pos hq, upTo, upTo]
      split
      · rw [List.filter_cons_of_pos hq, List.filter_nil]
      · rw [List.filter_cons_of_pos hq, ih]

theorem upTo_eraseDups [BEq α] [LawfulBEq α] (p : α → Bool) (as : List α) :
    upTo p as.eraseDups = (upTo p as).eraseDups := by
  induction as using eraseDups_induction with
  | nil => rfl
  | cons a as ih =>
    rw [List.eraseDups_cons, upTo, upTo]
    split
    · rw [List.eraseDups_cons, List.filter_nil, List.eraseDups_nil]
    · next ha =>
      have hskip : ∀ b ∈ as, (!b == a) = false → p b = false := fun b _ hb => by
        rw [show b = a by simpa using hb]
        exact Bool.eq_false_iff.mpr ha
      rw [List.eraseDups_cons, ih, upTo_filter hskip]

end Scans

/-! ## Leaves -/

/-- The knowledge bases in which all variables are assigned, without those behind a conflict, in the order of the
search. -/
def leavesBelow (t : ConstraintTable) : List FreeVariable → KnowledgeBase → List KnowledgeBase
  | [], kb => [kb]
  | v :: vs, kb => v.domain.flatMap fun value =>
    if ((kb.assign v.name value).conflict t).isSome then [] else leavesBelow t vs (kb.assign v.name value)

/-- The leaves that a search evaluates: the first one that is solved ends it. -/
def evaluated (t : ConstraintTable) (n : Nat) (vs : List FreeVariable) (kb : KnowledgeBase) : List KnowledgeBase :=
  upTo (fun l => decide (l.Solved t n)) (leavesBelow t vs kb)

section Leaves

variable {t : ConstraintTable} {n : Nat} {kb l : KnowledgeBase} {v : FreeVariable} {vs : List FreeVariable}

/-- A leaf comes from the assignment of a tuple, and no two leaves from one tuple. -/
theorem sublist_leavesBelow (t : ConstraintTable) (vs : List FreeVariable) (kb : KnowledgeBase) :
    (leavesBelow t vs kb).Sublist ((tuples vs).map (kb.assignAll vs)) := by
  induction vs generalizing kb with
  | nil => exact List.Sublist.refl _
  | cons v vs ih =>
    have hmap : (tuples (v :: vs)).map (kb.assignAll (v :: vs)) =
        v.domain.flatMap fun value => (tuples vs).map ((kb.assign v.name value).assignAll vs) := by
      simp only [tuples, List.map_flatMap, List.map_map, Function.comp_def, assignAll]
    rw [hmap, leavesBelow]
    refine List.Sublist.flatMap_right _ fun value _ => ?_
    split
    · exact List.nil_sublist _
    · exact ih _

theorem exists_tuple_of_mem_leavesBelow (h : l ∈ leavesBelow t vs kb) :
    ∃ values ∈ tuples vs, l = kb.assignAll vs values := by
  obtain ⟨values, hv, rfl⟩ := List.mem_map.mp ((sublist_leavesBelow t vs kb).subset h)
  exact ⟨values, hv, rfl⟩

theorem mem_leavesBelow_of_mem_evaluated (h : l ∈ evaluated t n vs kb) : l ∈ leavesBelow t vs kb :=
  (prefix_upTo _ _).subset h

/-- A conflict stays in every branch, so all of them are pruned. -/
theorem leavesBelow_of_conflict (hc : kb.conflict t ≠ none) : leavesBelow t (v :: vs) kb = [] := by
  rw [leavesBelow, List.flatMap_eq_nil_iff]
  intro value _
  have hbranch := conflict_ne_none_of_subset (subset_groundFacts_assign kb v.name value) hc
  rw [if_pos (Option.isSome_iff_ne_none.mpr hbranch)]

/-- **A search takes the first leaf that is solved.** -/
theorem leaf_search_eq_findSome? (t : ConstraintTable) (n : Nat) (vs : List FreeVariable) (kb : KnowledgeBase) :
    (search t n vs kb).leaf = (leavesBelow t vs kb).findSome? fun l => (evaluateLeaf t n l).leaf := by
  induction vs generalizing kb with
  | nil => simp [search, leavesBelow]
  | cons v vs ih =>
    rw [leaf_search_cons, leavesBelow, findSome?_flatMap]
    congr 1
    funext value
    split
    · rfl
    · exact ih _

/-- Below a conflict a search finds nothing. -/
theorem leaf_search_of_conflict (hc : kb.conflict t ≠ none) : (search t n vs kb).leaf = none := by
  cases vs with
  | nil =>
    have hnot : ¬(kb.assignAll [] []).Solved t n := not_solved_of_conflict hc []
    rw [search, leaf_evaluateLeaf]
    exact if_neg hnot
  | cons v vs => rw [leaf_search_eq_findSome?, leavesBelow_of_conflict hc, List.findSome?_nil]

theorem isSome_leaf_search (t : ConstraintTable) (n : Nat) (vs : List FreeVariable) (kb : KnowledgeBase) :
    (search t n vs kb).leaf.isSome = (leavesBelow t vs kb).any fun l => decide (l.Solved t n) := by
  rw [leaf_search_eq_findSome?, List.isSome_findSome?]
  congr 1
  funext l
  rw [leaf_evaluateLeaf]
  by_cases hs : l.Solved t n <;> simp [hs]

theorem leaves_evaluateLeaf (t : ConstraintTable) (n : Nat) (kb : KnowledgeBase) :
    (evaluateLeaf t n kb).tally.leaves = 1 := by
  rw [evaluateLeaf_eq]
  split
  · rfl
  · split <;> rfl

/-- Alternatives that scan their leaves one after another scan them together, up to the first success. -/
theorem leaves_firstLeaf {α : Type _} {f : α → SearchResult} {g : α → List KnowledgeBase} {p : KnowledgeBase → Bool} :
    ∀ {as : List α}, (∀ a ∈ as, (f a).leaf.isSome = (g a).any p ∧ (f a).tally.leaves = (upTo p (g a)).length) →
      (firstLeaf f as).tally.leaves = (upTo p (as.flatMap g)).length
  | [], _ => rfl
  | a :: as, h => by
    obtain ⟨⟨hany, hlen⟩, has⟩ := List.forall_mem_cons.mp h
    rw [firstLeaf, List.flatMap_cons]
    cases hs : (g a).any p with
    | true => rw [if_pos (hany.trans hs), upTo_append_of_any hs, hlen]
    | false =>
      rw [if_neg (by simp [hany, hs]), upTo_append_of_not_any hs, List.length_append, ← leaves_firstLeaf has]
      show (f a).tally.leaves + (firstLeaf f as).tally.leaves = _
      rw [hlen, upTo_of_not_any hs]

/-- **The tally counts the leaves that are evaluated.** -/
theorem leaves_tally_search (t : ConstraintTable) (n : Nat) (vs : List FreeVariable) (kb : KnowledgeBase) :
    (search t n vs kb).tally.leaves = (evaluated t n vs kb).length := by
  induction vs generalizing kb with
  | nil =>
    rw [search, leaves_evaluateLeaf, evaluated, leavesBelow, upTo]
    split <;> rfl
  | cons v vs ih =>
    rw [search, evaluated, leavesBelow]
    refine leaves_firstLeaf fun value _ => ?_
    show (ite _ _ _ : SearchResult).leaf.isSome = _ ∧ 0 + (ite _ _ _ : SearchResult).tally.leaves = _
    rw [Nat.zero_add]
    split
    · exact ⟨rfl, rfl⟩
    · exact ⟨isSome_leaf_search t n vs _, ih _⟩

end Leaves

end LogicGrid
