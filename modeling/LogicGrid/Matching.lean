import LogicGrid.Fact

/-!
# Matching a conjunction of clauses

All ways to match every clause of a list with some fact of a list, one after another on demand. A matching in progress
is a stack of partial matches; each has bindings for the clauses matched so far and remembers which facts have not been
tried yet for its next clause. Clauses are unified with facts one by one, and the unifiers are merged: a variable
that two clauses share has to be bound to the same term by both.

* `Matching.next?` – the next complete match and the matching that is left; what is left is smaller
  (`Matching.weight_next?`), so every matching comes to an end;
* `Matching.toList` – all that remain;
* `nestedMatches` – the same by one loop per clause, and `Matching.toList_start`, which says so.
-/

namespace LogicGrid

/-- Bindings under which the first clauses match, and the clauses still to be matched. -/
structure PartialMatch where
  bindings : Substitution
  clauses : List Fact
  /-- The facts not yet tried for the first of the clauses. -/
  untried : List Fact

/-- A matching of clauses with facts in progress. -/
structure Matching where
  facts : List Fact
  /-- The partial matches still to be continued, the one to go on with in front. -/
  pending : List PartialMatch

/-- Extends bindings so that a clause matches a fact. -/
def matchClause? (σ : Substitution) (clause fact : Fact) : Option Substitution :=
  (clause.unify? fact).bind σ.merge?

namespace Matching

/-- Nothing matched yet. -/
def start (clauses facts : List Fact) : Matching := ⟨facts, [⟨.empty, clauses, facts⟩]⟩

/-- What a number of clauses counts for: `base` times as much for each one more. -/
def clauseWeight (base : Nat) : Nat → Nat
  | 0 => 1
  | n + 1 => clauseWeight base n * base

theorem clauseWeight_pos {base : Nat} (hb : 0 < base) : ∀ n, 0 < clauseWeight base n
  | 0 => Nat.one_pos
  | n + 1 => Nat.mul_pos (clauseWeight_pos hb n) hb

/-- Bounds the steps to the end of the partial matches: a clause more counts for more than all facts tried for it. -/
def weightOf (base : Nat) : List PartialMatch → Nat
  | [] => 0
  | p :: ps => (p.untried.length + 1) * clauseWeight base p.clauses.length + weightOf base ps

/-- Bounds the steps to the end of the matching. -/
def weight (m : Matching) : Nat := weightOf (m.facts.length + 2) m.pending

theorem weightOf_yield_lt (base : Nat) (σ : Substitution) (untried : List Fact) (ps : List PartialMatch) :
    weightOf base ps < weightOf base (⟨σ, [], untried⟩ :: ps) := by
  simp [weightOf, clauseWeight]

theorem weightOf_exhausted_lt {base : Nat} (hb : 0 < base) (σ : Substitution) (clauses : List Fact)
    (ps : List PartialMatch) : weightOf base ps < weightOf base (⟨σ, clauses, []⟩ :: ps) := by
  have := clauseWeight_pos hb clauses.length
  simp only [weightOf, List.length_nil]
  omega

theorem weightOf_skip_lt {base : Nat} (hb : 0 < base) (σ : Substitution) (clauses : List Fact) (f : Fact)
    (fs : List Fact) (ps : List PartialMatch) :
    weightOf base (⟨σ, clauses, fs⟩ :: ps) < weightOf base (⟨σ, clauses, f :: fs⟩ :: ps) := by
  have := clauseWeight_pos hb clauses.length
  simp only [weightOf, List.length_cons, Nat.add_mul]
  omega

theorem weightOf_descend_lt (facts : List Fact) (σ τ : Substitution) (c f : Fact) (cs fs : List Fact)
    (ps : List PartialMatch) :
    weightOf (facts.length + 2) (⟨τ, cs, facts⟩ :: ⟨σ, c :: cs, fs⟩ :: ps) <
      weightOf (facts.length + 2) (⟨σ, c :: cs, f :: fs⟩ :: ps) := by
  have hp := clauseWeight_pos (Nat.zero_lt_succ (facts.length + 1)) cs.length
  simp only [weightOf, List.length_cons, clauseWeight]
  generalize clauseWeight (facts.length + 2) cs.length = p at hp ⊢
  rw [Nat.succ_mul (fs.length + 1), Nat.mul_comm p, Nat.add_mul facts.length 2 p, Nat.add_mul facts.length 1 p]
  omega

/-- Runs partial matches to the next complete one, and gives it with the partial matches that are left. -/
def nextOf (facts : List Fact) : List PartialMatch → Option (Substitution × List PartialMatch)
  | [] => none
  | ⟨σ, [], _⟩ :: ps => some (σ, ps)
  | ⟨_, _ :: _, []⟩ :: ps => nextOf facts ps
  | ⟨σ, c :: cs, f :: fs⟩ :: ps =>
    match matchClause? σ c f with
    | some τ => nextOf facts (⟨τ, cs, facts⟩ :: ⟨σ, c :: cs, fs⟩ :: ps)
    | none => nextOf facts (⟨σ, c :: cs, fs⟩ :: ps)
termination_by ps => weightOf (facts.length + 2) ps
decreasing_by
  · exact weightOf_exhausted_lt (Nat.zero_lt_succ _) ..
  · exact weightOf_descend_lt ..
  · exact weightOf_skip_lt (Nat.zero_lt_succ _) ..

/-- The next complete match, and the matching that is left. -/
def next? (m : Matching) : Option (Substitution × Matching) :=
  (nextOf m.facts m.pending).map fun r => (r.1, ⟨m.facts, r.2⟩)

theorem weightOf_nextOf {facts : List Fact} {ps : List PartialMatch} {r : Substitution × List PartialMatch}
    (h : nextOf facts ps = some r) :
    weightOf (facts.length + 2) r.2 < weightOf (facts.length + 2) ps := by
  fun_induction nextOf facts ps with
  | case1 => cases h
  | case2 =>
    cases h
    exact weightOf_yield_lt ..
  | case3 _ _ _ _ ih => exact Nat.lt_trans (ih h) (weightOf_exhausted_lt (Nat.zero_lt_succ _) ..)
  | case4 _ _ _ _ _ _ _ _ ih => exact Nat.lt_trans (ih h) (weightOf_descend_lt ..)
  | case5 _ _ _ _ _ _ _ ih => exact Nat.lt_trans (ih h) (weightOf_skip_lt (Nat.zero_lt_succ _) ..)

theorem weight_next? {m m' : Matching} {σ : Substitution} (h : m.next? = some (σ, m')) : m'.weight < m.weight := by
  obtain ⟨r, hr, e⟩ := Option.map_eq_some_iff.mp h
  cases e
  exact weightOf_nextOf hr

/-- All complete matches from here on, in the order in which they come. -/
def toList (m : Matching) : List Substitution :=
  match _h : m.next? with
  | none => []
  | some (σ, m') => σ :: m'.toList
termination_by m.weight
decreasing_by exact weight_next? _h

end Matching

/-! ## Nested loops -/

/-- All extensions of the bindings that match every clause, by one loop over the facts for each clause. -/
def nestedMatches (facts : List Fact) : Substitution → List Fact → List Substitution
  | σ, [] => [σ]
  | σ, c :: cs => facts.flatMap fun f => ((matchClause? σ c f).map (nestedMatches facts · cs)).getD []

namespace Matching

/-- What a partial match contributes: the loop for its next clause runs over the facts not yet tried. -/
def continuations (facts : List Fact) (p : PartialMatch) : List Substitution :=
  match p.clauses with
  | [] => [p.bindings]
  | c :: cs => p.untried.flatMap fun f => ((matchClause? p.bindings c f).map (nestedMatches facts · cs)).getD []

theorem continuations_untried_facts (facts : List Fact) (σ : Substitution) (cs : List Fact) :
    continuations facts ⟨σ, cs, facts⟩ = nestedMatches facts σ cs := by
  cases cs <;> rfl

theorem flatMap_continuations_nextOf (facts : List Fact) (ps : List PartialMatch) :
    ps.flatMap (continuations facts) =
      match nextOf facts ps with
      | none => []
      | some (σ, ps') => σ :: ps'.flatMap (continuations facts) := by
  fun_induction nextOf facts ps with
  | case1 => rfl
  | case2 => rfl
  | case3 _ _ _ _ ih =>
    rw [← ih]
    rfl
  | case4 σ c cs f fs ps τ h ih =>
    rw [← ih, List.flatMap_cons, List.flatMap_cons, List.flatMap_cons, continuations_untried_facts,
      ← List.append_assoc]
    simp [continuations, h]
  | case5 σ c cs f fs ps h ih =>
    rw [← ih, List.flatMap_cons, List.flatMap_cons]
    simp [continuations, h]

theorem toList_eq_flatMap (m : Matching) : m.toList = m.pending.flatMap (continuations m.facts) := by
  fun_induction toList m with
  | case1 m h =>
    rw [flatMap_continuations_nextOf]
    simp only [next?, Option.map_eq_none_iff] at h
    rw [h]
  | case2 m σ m' h ih =>
    rw [flatMap_continuations_nextOf]
    obtain ⟨r, hr, e⟩ := Option.map_eq_some_iff.mp h
    cases e
    rw [hr, ih]

/-- Matching on demand gives what nested loops give, in the same order. -/
theorem toList_start (clauses facts : List Fact) :
    (start clauses facts).toList = nestedMatches facts .empty clauses := by
  rw [toList_eq_flatMap]
  simp [start, continuations_untried_facts]

end Matching

end LogicGrid
