import LogicGrid.Constraint
import LogicGrid.Wire.Puzzle

/-!
# Constraint tables as JSON

Tables, constraints and tags are records. A constraint that is read may leave out its tag, or hold null instead, and may
leave out whether it is bijective, which it then is not.
-/

namespace LogicGrid

/-- A tag as JSON. -/
def Tag.toJson (t : Tag) : Json := .obj [("position", .nat t.position), ("value", .str t.value)]

/-- Reads a tag. -/
def Tag.ofJson? (v : Json) : Option Tag :=
  match v.record? ["position", "value"] with
  | some [some (.nat position), some (.str value)] => some ⟨position, value⟩
  | _ => none

/-- Reads a tag that may be absent. -/
def Tag.optional? : Option Json → Option (Option Tag)
  | none => some none
  | some .null => some none
  | some v => (Tag.ofJson? v).map some

/-- Reads a truth value that is false when it is absent. -/
def Json.flag? : Option Json → Option Bool
  | none => some false
  | some (.bool b) => some b
  | some _ => none

/-- A constraint as JSON. -/
def Constraint.toJson (c : Constraint) : Json :=
  .obj [("name", .str c.name), ("predicate", .str c.predicate), ("arity", .nat c.arity),
    ("tag", (c.tag.map Tag.toJson).getD .null), ("key", .nat c.key), ("value", .nat c.value),
    ("bijective", .bool c.bijective)]

/-- Reads a constraint. -/
def Constraint.ofJson? (v : Json) : Option Constraint :=
  match v.record? ["name", "predicate", "arity", "tag", "key", "value", "bijective"] with
  | some [some (.str name), some (.str predicate), some (.nat arity), tag, some (.nat key), some (.nat value),
      bijective] => do
    let tag ← Tag.optional? tag
    let bijective ← Json.flag? bijective
    return ⟨name, predicate, arity, tag, key, value, bijective⟩
  | _ => none

namespace ConstraintTable

/-- A table as JSON. -/
def toJson (t : ConstraintTable) : Json :=
  .obj [("name", .str t.name), ("constraints", .arr (t.constraints.map Constraint.toJson))]

/-- Reads a table. -/
def ofJson? (v : Json) : Option ConstraintTable :=
  match v.record? ["name", "constraints"] with
  | some [some (.str name), some constraints] =>
    (Json.list? Constraint.ofJson? constraints).map (⟨name, ·⟩)
  | _ => none

/-- Reads a table from JSON text, and checks it. -/
def ofText (s : String) : Except Error ConstraintTable := do
  let t ← Json.decode ofJson? s
  t.validate
  return t

end ConstraintTable

end LogicGrid
