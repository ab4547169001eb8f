import LogicGrid.Error

/-!
# Uniqueness constraints

A constraint says that, among the facts of a given shape, one argument determines another: `es(juan, N)`, a person has
one nationality. A bijective constraint says the same in the other direction too: `vive_en`, one house for each person
and one person for each house.
-/

namespace LogicGrid

/-- Narrows a constraint to the facts with a given constant at a position, such as `casa(color, _, _)`. -/
structure Tag where
  position : Nat
  value : String
deriving DecidableEq, Repr

/-- A uniqueness constraint on the facts of one predicate and arity. -/
structure Constraint where
  name : String
  predicate : String
  arity : Nat
  tag : Option Tag
  /-- The position of the determining argument. -/
  key : Nat
  /-- The position of the determined argument. -/
  value : Nat
  /-- Whether the value determines the key as well. -/
  bijective : Bool
deriving DecidableEq, Repr

namespace Constraint

/-- The key determines the value. -/
def functional (name predicate : String) (arity key value : Nat) : Constraint :=
  ⟨name, predicate, arity, none, key, value, false⟩

/-- Key and value determine each other. -/
def bijection (name predicate : String) (arity key value : Nat) : Constraint :=
  ⟨name, predicate, arity, none, key, value, true⟩

/-- The constraint on the facts with the constant `value` at `position` only. -/
def tagged (c : Constraint) (position : Nat) (value : String) : Constraint := { c with tag := some ⟨position, value⟩ }

/-- Whether a fact has the predicate, the arity and the tag of the constraint. -/
def appliesTo (c : Constraint) (f : Fact) : Bool :=
  f.predicate = c.predicate && f.arity = c.arity &&
    match c.tag with
    | some tag => f.args[tag.position]? = some (.const tag.value)
    | none => true

/-- The positions that the constraint refers to. -/
def positions (c : Constraint) : List Nat := [c.key, c.value] ++ (c.tag.map Tag.position).toList

/-- Checks that all positions are below the arity, and that key and value are different ones. -/
def validate (c : Constraint) : Except Error Unit :=
  if c.positions.any (c.arity ≤ ·) then .error (.config (.beyondArity c.name c.arity))
  else if c.key = c.value then .error (.config (.sharedPosition c.name c.key))
  else .ok ()

/-- Whether the constraint can be enforced. -/
def isValid (c : Constraint) : Bool := (c.positions.all (· < c.arity)) && c.key != c.value

theorem isValid_iff {c : Constraint} : c.isValid = true ↔ (∀ p ∈ c.positions, p < c.arity) ∧ c.key ≠ c.value := by
  simp [isValid]

theorem validate_eq_ok_iff {c : Constraint} : c.validate = .ok () ↔ c.isValid = true := by
  rw [isValid_iff, validate]
  split
  · next h =>
    obtain ⟨p, hp, h⟩ := List.any_eq_true.mp h
    simp only [decide_eq_true_eq] at h
    exact ⟨fun e => (nomatch e), fun e => absurd (e.1 p hp) (Nat.not_lt.mpr h)⟩
  · next h =>
    have hlt : ∀ p ∈ c.positions, p < c.arity := fun p hp => Nat.lt_of_not_le fun hle =>
      h (List.any_eq_true.mpr ⟨p, hp, decide_eq_true hle⟩)
    split
    · next hkv => exact ⟨fun e => (nomatch e), fun e => absurd hkv e.2⟩
    · next hkv => exact ⟨fun _ => ⟨hlt, hkv⟩, fun _ => rfl⟩

end Constraint

/-- Constraints under a name, in the order in which they are checked. -/
structure ConstraintTable where
  name : String
  constraints : List Constraint
deriving DecidableEq, Repr, Inhabited

namespace ConstraintTable

/-- Reports the first constraint that refers to an impossible position. -/
def validate (t : ConstraintTable) : Except Error Unit := t.constraints.forM Constraint.validate

/-- The constraints that can be enforced. -/
def enforced (t : ConstraintTable) : List Constraint := t.constraints.filter Constraint.isValid

/-! ## Tables for grid puzzles -/

/-- What a person can be: one nationality, which others may share, and one house for each person and one person for each
house. -/
def people : ConstraintTable :=
  ⟨"people", [.functional "nationality" "es" 2 0 1, .bijection "residence" "vive_en" 2 0 1]⟩

/-- What a house can be, `casa(attribute, house, value)`: one colour and one position for each, never shared. -/
def houses : ConstraintTable :=
  ⟨"houses", [(Constraint.bijection "house_color" "casa" 3 1 2).tagged 0 "color",
    (Constraint.bijection "house_position" "casa" 3 1 2).tagged 0 "posicion"]⟩

/-- The constraints on people and on houses. -/
def puzzle : ConstraintTable := ⟨"puzzle", people.constraints ++ houses.constraints⟩

/-- No constraint. -/
def unconstrained : ConstraintTable := ⟨"none", []⟩

end ConstraintTable

end LogicGrid
