import LogicGrid.Conflict
import LogicGrid.Search.Space

/-!
# Backtracking search

Candidate values are assigned to the free variables depth first. A branch ends as soon as its ground facts conflict: no
ground fact is ever removed, so the conflict would be met again at every leaf below. At a leaf deduction runs once more,
and the leaf is taken if it stays within the limit on facts, is complete and free of conflicts.

Besides its result a search keeps a tally of what it met. Tallies are added up along the search.

* `evaluateLeaf` – a knowledge base in which all variables have been assigned;
* `firstLeaf` – the results for a list of alternatives up to the first success;
* `search` – all variables of a space.
-/

namespace LogicGrid

/-- What a search met. -/
structure Tally where
  /-- Assignments tried. -/
  branches : Nat := 0
  /-- Leaves evaluated. -/
  leaves : Nat := 0
  contradictions : Nat := 0
  /-- Deduction passes. -/
  passes : Nat := 0
  /-- Facts that deduction added. -/
  derived : Nat := 0
  /-- Whether deduction ran out of passes. -/
  stepLimitHit : Bool := false
  /-- Whether deduction exceeded the limit on facts. -/
  factLimitHit : Bool := false
deriving DecidableEq, Repr

namespace Tally

/-- Two tallies taken together. -/
def add (a b : Tally) : Tally where
  branches := a.branches + b.branches
  leaves := a.leaves + b.leaves
  contradictions := a.contradictions + b.contradictions
  passes := a.passes + b.passes
  derived := a.derived + b.derived
  stepLimitHit := a.stepLimitHit || b.stepLimitHit
  factLimitHit := a.factLimitHit || b.factLimitHit

instance : Add Tally := ⟨add⟩

/-- What a run of deduction adds to a tally. -/
def ofSaturation (s : Saturation) : Tally :=
  { passes := s.passes, derived := s.derived, stepLimitHit := s.outOfSteps, factLimitHit := s.limitExceeded }

end Tally

/-- A complete knowledge base without conflicts, and the passes by which deduction completed it. -/
structure Leaf where
  kb : KnowledgeBase
  productivePasses : Nat
deriving DecidableEq, Repr

/-- The leaf that a search took, if any, and what the search met. -/
structure SearchResult where
  leaf : Option Leaf
  tally : Tally
deriving DecidableEq, Repr

namespace SearchResult

/-- A failure. -/
def fail (t : Tally) : SearchResult := ⟨none, t⟩

/-- The result with more met before. -/
def after (t : Tally) (r : SearchResult) : SearchResult := { r with tally := t + r.tally }

end SearchResult

/-- The conflict among the ground facts of a knowledge base that a scan meets first. -/
def KnowledgeBase.conflict (kb : KnowledgeBase) (t : ConstraintTable) : Option Conflict :=
  t.findConflict kb.facts.toList

/-- Runs deduction in a knowledge base whose variables have been assigned, and takes it if it is solved. -/
def evaluateLeaf (t : ConstraintTable) (maxSteps : Nat) (kb : KnowledgeBase) : SearchResult :=
  let (kb', s) := kb.saturate maxSteps
  let met : Tally := { leaves := 1 } + .ofSaturation s
  if s.limitExceeded || !kb'.isComplete then .fail met
  else if (kb'.conflict t).isSome then .fail (met + { contradictions := 1 })
  else ⟨some ⟨kb', s.productivePasses⟩, met⟩

/-- Tries alternatives in order up to the first one that succeeds. -/
def firstLeaf {α : Type _} (f : α → SearchResult) : List α → SearchResult
  | [] => .fail {}
  | a :: as =>
    let r := f a
    if r.leaf.isSome then r else .after r.tally (firstLeaf f as)

/-- Assigns values to the variables one after another, and takes the first leaf. -/
def search (t : ConstraintTable) (maxSteps : Nat) : List FreeVariable → KnowledgeBase → SearchResult
  | [], kb => evaluateLeaf t maxSteps kb
  | v :: vs, kb =>
    firstLeaf (fun value =>
      let branch := kb.assign v.name value
      .after { branches := 1 }
        (if (branch.conflict t).isSome then .fail { contradictions := 1 } else search t maxSteps vs branch))
      v.domain

end LogicGrid
