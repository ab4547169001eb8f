import LogicGrid.Constraint

/-!
# Conflicts

Facts are scanned once, in order. For each direction of each constraint a ledger remembers which fact was the first to
claim a determining argument; a later fact with the same determining argument and another determined one is in conflict
with it. Facts with variables are passed over, and so are constraints that refer to impossible positions.

* `Ledger.record` – one fact in one ledger;
* `ConstraintTable.findConflict` – the first conflict met in the scan.
-/

namespace LogicGrid

/-- A direction of a constraint: the argument at `source` determines the one at `target`. -/
structure Dependency where
  constraint : Constraint
  source : Nat
  target : Nat
deriving DecidableEq, Repr

/-- The directions in which a constraint holds. -/
def Constraint.dependencies (c : Constraint) : List Dependency :=
  ⟨c, c.key, c.value⟩ :: if c.bijective then [⟨c, c.value, c.key⟩] else []

/-- Two facts that break a constraint. -/
structure Conflict where
  /-- The name of the constraint. -/
  constraint : String
  /-- The fact that claimed the determining argument. -/
  first : Fact
  /-- The fact that contradicts it. -/
  second : Fact
deriving DecidableEq, Repr

/-- The conflict in words. -/
def Conflict.explain (c : Conflict) : String :=
  "Contradiction under '" ++ c.constraint ++ "':\n  1. " ++ c.first.text ++ "\n  2. " ++ c.second.text

/-- The determining arguments met so far in one direction of a constraint, each with the fact that claimed it. -/
structure Ledger where
  dependency : Dependency
  claims : List (Term × Fact)
deriving DecidableEq, Repr

/-- Enters a fact. It claims its determining argument when it is the first to do so, and is in conflict with the first
when their determined arguments differ. -/
def Ledger.record (l : Ledger) (f : Fact) : Except Conflict Ledger :=
  if l.dependency.constraint.appliesTo f then
    match f.args[l.dependency.source]? with
    | some k =>
      match l.claims.lookup k with
      | some prior =>
        if prior.args[l.dependency.target]? = f.args[l.dependency.target]? then .ok l
        else .error ⟨l.dependency.constraint.name, prior, f⟩
      | none => .ok { l with claims := (k, f) :: l.claims }
    | none => .ok l
  else .ok l

/-- Enters each fact in all ledgers, up to the first conflict. -/
def scanFacts : List Ledger → List Fact → Option Conflict
  | _, [] => none
  | ls, f :: fs =>
    match ls.mapM (·.record f) with
    | .ok ls' => scanFacts ls' fs
    | .error c => some c

namespace ConstraintTable

/-- The directions of the constraints that can be enforced, in the order in which they are checked. -/
def dependencies (t : ConstraintTable) : List Dependency := t.enforced.flatMap Constraint.dependencies

/-- The first conflict among the ground facts of a list. -/
def findConflict (t : ConstraintTable) (fs : List Fact) : Option Conflict :=
  scanFacts (t.dependencies.map (⟨·, []⟩)) (fs.filter Fact.isGround)

/-- Whether no two ground facts of a list are in conflict. -/
def isConsistent (t : ConstraintTable) (fs : List Fact) : Bool := (t.findConflict fs).isNone

end ConstraintTable

end LogicGrid
