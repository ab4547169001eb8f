import LogicGrid.Proofs.Grounding

/-!
# How large a search can be

A space is cut down to its first variables with their first candidates (`cut_bounded`). It is measured by one pair of
limits and cut by another one, which is no wider in a valid configuration, so cutting drops something whenever it
happens (`drops_bounded_iff`), and the limits hold either way (`length_bounded_le`, `length_domain_bounded_le`). The
leaves of a search are not more than its tuples (`leaves_search_le`), and these are as many as the sizes of the domains
multiplied.

* `bounds_of_validate` – what is kept, what is dropped, and how many leaves are evaluated at most.
-/

namespace LogicGrid

/-! ## Cutting down -/

/-- The variable with a first part of its candidates. -/
structure FreeVariable.CutTo (w v : FreeVariable) : Prop where
  name_eq : v.name = w.name
  domain : v.domain <+: w.domain

/-- The first variables of `ws`, each with a first part of its candidates. -/
def Cut (ws vs : List FreeVariable) : Prop := ∃ front, front <+: ws ∧ List.Forall₂ FreeVariable.CutTo front vs

/-- A variable of `ws` is not among `vs`, or one of its candidates is not left for it. -/
def Drops (ws vs : List FreeVariable) : Prop :=
  (∃ w ∈ ws, w.name ∉ vs.map FreeVariable.name) ∨ ∃ w ∈ ws, ∃ v ∈ vs, v.name = w.name ∧ ∃ a ∈ w.domain, a ∉ v.domain

theorem not_drops_self {vs : List FreeVariable} (hn : (vs.map FreeVariable.name).Nodup) : ¬Drops vs vs := by
  rintro (⟨w, hw, hnot⟩ | ⟨w, hw, v, hv, hname, a, ha, hnot⟩)
  · exact hnot (List.mem_map_of_mem hw)
  · exact hnot (List.inj_on_of_nodup_map hn hv hw hname ▸ ha)

/-- Some element of a longer list is not among its first ones. -/
theorem exists_mem_not_mem_take {α : Type _} {as : List α} {n : Nat} (hn : as.Nodup) (h : n < as.length) :
    ∃ a ∈ as, a ∉ as.take n := by
  have hrest : as.drop n ≠ [] := fun e => absurd (List.drop_eq_nil_iff.mp e) (Nat.not_le.mpr h)
  obtain ⟨a, ha⟩ := List.exists_mem_of_ne_nil _ hrest
  exact ⟨a, List.mem_of_mem_drop ha, fun hfirst => List.disjoint_take_drop hn (Nat.le_refl n) hfirst ha⟩

namespace SearchSpace

variable {limits : SearchLimits} {vs : List FreeVariable} {v : FreeVariable}

theorem bounded_of_oversized (h : oversized limits vs = true) : bounded limits vs =
    ⟨(vs.take limits.truncatedVariables).map fun v => { v with domain := v.domain.take limits.truncatedDomainSize },
      true⟩ := if_pos h

theorem map_name_of_oversized (h : oversized limits vs = true) :
    (bounded limits vs).freeVariables.map FreeVariable.name =
      (vs.take limits.truncatedVariables).map FreeVariable.name := by
  rw [bounded_of_oversized h, List.map_map]
  rfl

theorem cut_bounded (limits : SearchLimits) (vs : List FreeVariable) : Cut vs (bounded limits vs).freeVariables := by
  cases h : oversized limits vs with
  | false =>
    rw [bounded_of_not_oversized h]
    exact ⟨vs, List.prefix_refl vs, List.forall₂_same.mpr fun v _ => ⟨rfl, List.prefix_refl _⟩⟩
  | true =>
    rw [bounded_of_oversized h]
    refine ⟨_, List.take_prefix _ vs, List.forall₂_map_right_iff.mpr (List.forall₂_same.mpr fun v _ => ?_)⟩
    exact ⟨rfl, List.take_prefix _ _⟩

/-- What is too large loses something when it is cut. -/
theorem drops_of_oversized (hn : (vs.map FreeVariable.name).Nodup) (hd : ∀ v ∈ vs, v.domain.Nodup)
    (hvars : limits.truncatedVariables ≤ limits.maxFreeVariables)
    (hdom : limits.truncatedDomainSize ≤ limits.maxDomainSize) (h : oversized limits vs = true) :
    Drops vs (bounded limits vs).freeVariables := by
  have hnames := map_name_of_oversized h
  have hlarge := h
  rw [oversized, Bool.or_eq_true, decide_eq_true_iff, List.any_eq_true] at hlarge
  rcases hlarge with hlen | ⟨w, hw, hlen⟩
  · -- too many variables: one of them is not among the first ones, and no other one has its name
    have hlong : limits.truncatedVariables < (vs.map FreeVariable.name).length := by
      rw [List.length_map]
      exact hvars.trans_lt hlen
    obtain ⟨x, hx, hnot⟩ := exists_mem_not_mem_take hn hlong
    obtain ⟨w, hw, rfl⟩ := List.mem_map.mp hx
    refine Or.inl ⟨w, hw, ?_⟩
    rwa [hnames, List.map_take]
  · -- a domain is too large: if its variable is kept, one of the candidates is not
    have hlong : limits.truncatedDomainSize < w.domain.length := hdom.trans_lt (of_decide_eq_true hlen)
    obtain ⟨a, ha, hnot⟩ := exists_mem_not_mem_take (hd w hw) hlong
    by_cases hkept : w ∈ vs.take limits.truncatedVariables
    · rw [bounded_of_oversized h]
      exact Or.inr ⟨w, hw, _, List.mem_map_of_mem hkept, rfl, a, ha, hnot⟩
    · refine Or.inl ⟨w, hw, fun hname => hkept ?_⟩
      rw [hnames] at hname
      obtain ⟨v, hv, e⟩ := List.mem_map.mp hname
      exact List.inj_on_of_nodup_map hn (List.mem_of_mem_take hv) hw e ▸ hv

/-- **A space is marked as truncated exactly if it lost something**, a variable or a candidate. -/
theorem drops_bounded_iff (hn : (vs.map FreeVariable.name).Nodup) (hd : ∀ v ∈ vs, v.domain.Nodup)
    (hvars : limits.truncatedVariables ≤ limits.maxFreeVariables)
    (hdom : limits.truncatedDomainSize ≤ limits.maxDomainSize) :
    (bounded limits vs).truncated = true ↔ Drops vs (bounded limits vs).freeVariables := by
  rw [truncated_bounded]
  refine ⟨drops_of_oversized hn hd hvars hdom, fun hdrops => ?_⟩
  by_contra h
  rw [bounded_of_not_oversized (Bool.eq_false_iff.mpr h)] at hdrops
  exact not_drops_self hn hdrops

theorem length_bounded_le (hvars : limits.truncatedVariables ≤ limits.maxFreeVariables) :
    (bounded limits vs).freeVariables.length ≤ limits.maxFreeVariables := by
  cases h : oversized limits vs with
  | false =>
    rw [bounded_of_not_oversized h]
    exact (oversized_eq_false_iff.mp h).1
  | true =>
    rw [bounded_of_oversized h, List.length_map]
    exact (List.length_take_le _ _).trans hvars

theorem length_domain_bounded_le (hdom : limits.truncatedDomainSize ≤ limits.maxDomainSize)
    (hv : v ∈ (bounded limits vs).freeVariables) : v.domain.length ≤ limits.maxDomainSize := by
  cases h : oversized limits vs with
  | false =>
    rw [bounded_of_not_oversized h] at hv
    exact (oversized_eq_false_iff.mp h).2 v hv
  | true =>
    rw [bounded_of_oversized h] at hv
    obtain ⟨w, -, rfl⟩ := List.mem_map.mp hv
    exact (List.length_take_le _ _).trans hdom

end SearchSpace

/-! ## Counting leaves -/

section Count

variable {t : ConstraintTable} {n m d : Nat} {kb : KnowledgeBase} {vs : List FreeVariable}

theorem length_tuples : ∀ vs : List FreeVariable, (tuples vs).length = (vs.map (·.domain.length)).prod
  | [] => rfl
  | v :: vs => by
    simp only [tuples, List.length_flatMap, List.length_map, List.map_const', List.sum_replicate, smul_eq_mul,
      length_tuples vs, List.map_cons, List.prod_cons]

/-- No tuple is evaluated twice. -/
theorem length_evaluated_le (t : ConstraintTable) (n : Nat) (vs : List FreeVariable) (kb : KnowledgeBase) :
    (evaluated t n vs kb).length ≤ (tuples vs).length :=
  calc (evaluated t n vs kb).length ≤ (leavesBelow t vs kb).length := (prefix_upTo _ _).length_le
    _ ≤ ((tuples vs).map (kb.assignAll vs)).length := (sublist_leavesBelow t vs kb).length_le
    _ = (tuples vs).length := List.length_map _

theorem leaves_search_le (hvs : vs.length ≤ m) (hd : ∀ v ∈ vs, v.domain.length ≤ d) (hpos : 0 < d) :
    (search t n vs kb).tally.leaves ≤ d ^ m :=
  calc (search t n vs kb).tally.leaves = (evaluated t n vs kb).length := leaves_tally_search t n vs kb
    _ ≤ (tuples vs).length := length_evaluated_le t n vs kb
    _ = (vs.map (·.domain.length)).prod := length_tuples vs
    _ ≤ d ^ (vs.map (·.domain.length)).length := List.prod_le_pow_card _ d (List.forall_mem_map.mpr hd)
    _ ≤ d ^ m := Nat.pow_le_pow_right hpos (by rwa [List.length_map])

end Count

/-- **A search is as small as its limits say.** Under a valid configuration the space of a knowledge base has no more
variables and no larger domains than allowed. They are the first variables of the whole space with their first
candidates, and the space is marked as truncated exactly if one of either is missing. Whatever is searched over the
space, the leaves are not more than the largest domain to the power of the largest number of variables. -/
theorem bounds_of_validate {c : SolverConfig} (h : c.validate = .ok ()) (kb : KnowledgeBase) :
    ((SearchSpace.discover kb c).freeVariables.length ≤ c.search.maxFreeVariables ∧
      ∀ v ∈ (SearchSpace.discover kb c).freeVariables, v.domain.length ≤ c.search.maxDomainSize) ∧
    Cut (SearchSpace.unbounded kb c) (SearchSpace.discover kb c).freeVariables ∧
    ((SearchSpace.discover kb c).truncated = true ↔
      Drops (SearchSpace.unbounded kb c) (SearchSpace.discover kb c).freeVariables) ∧
    ∀ t n base, (search t n (SearchSpace.discover kb c).freeVariables base).tally.leaves ≤
      c.search.maxDomainSize ^ c.search.maxFreeVariables := by
  obtain ⟨-, ⟨-, hvars⟩, hpos, hdom⟩ := SolverConfig.validate_eq_ok_iff.mp h
  have hlen : (SearchSpace.discover kb c).freeVariables.length ≤ c.search.maxFreeVariables :=
    SearchSpace.length_bounded_le hvars
  have hdomains : ∀ v ∈ (SearchSpace.discover kb c).freeVariables, v.domain.length ≤ c.search.maxDomainSize :=
    fun _ hv => SearchSpace.length_domain_bounded_le hdom hv
  have hnodup : ∀ v ∈ SearchSpace.unbounded kb c, v.domain.Nodup := fun v hv =>
    (SearchSpace.rangesOver_of_mem_unbounded hv).nodup
  exact ⟨⟨hlen, hdomains⟩, SearchSpace.cut_bounded _ _,
    SearchSpace.drops_bounded_iff (SearchSpace.nodup_unbounded kb c) hnodup hvars hdom,
    fun t n base => leaves_search_le hlen hdomains (hpos.trans_le hdom)⟩

/-- The facts `p(a, b, c, d)` and `q(W, X, Y, Z)`: four variables over four constants. -/
def fourByFour : KnowledgeBase :=
  .ofContents [⟨"p", [.const "a", .const "b", .const "c", .const "d"]⟩,
    ⟨"q", [.var "W", .var "X", .var "Y", .var "Z"]⟩] []

/-- Two variables with three candidates each are kept. -/
theorem bounds_fourByFour : SolverConfig.standard.validate = .ok () ∧
    SearchSpace.discover fourByFour .standard =
      ⟨[⟨"W", [.const "a", .const "b", .const "c"]⟩, ⟨"X", [.const "a", .const "b", .const "c"]⟩], true⟩ ∧
    Drops (SearchSpace.unbounded fourByFour .standard) (SearchSpace.discover fourByFour .standard).freeVariables ∧
    ∀ t n base, (search t n (SearchSpace.discover fourByFour .standard).freeVariables base).tally.leaves ≤ 125 := by
  have hspace : SearchSpace.discover fourByFour .standard =
      ⟨[⟨"W", [.const "a", .const "b", .const "c"]⟩, ⟨"X", [.const "a", .const "b", .const "c"]⟩], true⟩ := by
    decide +kernel
  have hvalid : SolverConfig.standard.validate = .ok () := by decide
  obtain ⟨-, -, htruncated, hleaves⟩ := bounds_of_validate hvalid fourByFour
  exact ⟨hvalid, hspace, htruncated.mp (by rw [hspace]), hleaves⟩

end LogicGrid
