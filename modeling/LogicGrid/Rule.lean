import LogicGrid.Error
import LogicGrid.Matching

/-!
# Rules

A rule says that its consequent holds whenever all its antecedents do. Its variables are not renamed apart from those of
the facts it is matched with. Applying a rule instantiates its consequent by every match of the antecedents and keeps
the ground instances.
-/

namespace LogicGrid

/-- Antecedents and what follows from them. A rule without antecedents matches once. -/
structure Rule where
  antecedents : List Fact
  consequent : Fact
deriving DecidableEq, Repr, Inhabited

namespace Rule

/-- A rule of at least one antecedent. -/
def create (antecedents : List Fact) (consequent : Fact) : Except Error Rule :=
  if antecedents.isEmpty then .error (.noAntecedents consequent) else .ok ⟨antecedents, consequent⟩

/-- The clauses in the order in which they are read: the antecedents, then the consequent. -/
def clauses (r : Rule) : List Fact := r.antecedents ++ [r.consequent]

/-- The bindings under which all antecedents match facts of the list. -/
def matchesIn (r : Rule) (facts : List Fact) : List Substitution := (Matching.start r.antecedents facts).toList

/-- The ground instances of the consequent, one for each match that yields one. -/
def apply (r : Rule) (facts : List Fact) : List Fact :=
  ((r.matchesIn facts).map r.consequent.apply).filter Fact.isGround

/-- The text of a rule: the antecedents, joined, an arrow and the consequent. -/
def text (r : Rule) : String :=
  String.intercalate " AND " (r.antecedents.map Fact.text) ++ " -> " ++ r.consequent.text

theorem matchesIn_eq (r : Rule) (facts : List Fact) :
    r.matchesIn facts = nestedMatches facts .empty r.antecedents := Matching.toList_start ..

theorem create_eq_ok_iff {antecedents : List Fact} {consequent : Fact} {r : Rule} :
    create antecedents consequent = .ok r ↔ antecedents ≠ [] ∧ r = ⟨antecedents, consequent⟩ := by
  cases antecedents <;> simp [create, eq_comm]

theorem isGround_of_mem_apply {r : Rule} {facts : List Fact} {f : Fact} (h : f ∈ r.apply facts) :
    f.isGround = true := (List.mem_filter.mp h).2

end Rule

end LogicGrid
