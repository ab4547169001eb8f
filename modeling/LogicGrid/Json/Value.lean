/-!
# JSON values

The values that puzzles, tables, configurations and reports are written as. Only natural numbers below `2 ^ 64` are
numbers here. Every other well-formed number, every string with half a surrogate pair and every object with such a key
is a value too, but one that nothing is read from.

A record is written as an object of named fields, or as the array of its fields in their order. `Json.record?` gives the
fields of either form.
-/

namespace LogicGrid

/-- A JSON value. -/
inductive Json where
  | null
  | bool (b : Bool)
  | nat (n : Nat)
  | str (s : String)
  | arr (items : List Json)
  /-- The members in the order in which they are written; a name may be repeated. -/
  | obj (members : List (String × Json))
  /-- A value that is well-formed but not one of the above. -/
  | other
deriving Inhabited

namespace Json

/-- The largest number that can be read. -/
def maxNat : Nat := 0xFFFFFFFFFFFFFFFF

/-- What an object holds under a name: nothing, or the one value of that name. A repeated name is refused. -/
def member? (members : List (String × Json)) (name : String) : Option (Option Json) :=
  match members.filter (·.1 == name) with
  | [] => some none
  | [m] => some (some m.2)
  | _ => none

/-- The fields of a record, in the order of the given names. An object may leave fields out and may hold other members;
an array may leave out fields at its end. -/
def record? (names : List String) : Json → Option (List (Option Json))
  | .obj members => names.mapM (member? members)
  | .arr items =>
    if items.length ≤ names.length then
      some (items.map some ++ List.replicate (names.length - items.length) none)
    else none
  | _ => none

/-- The strings of an array of strings. -/
def strings? : Json → Option (List String)
  | .arr items => items.mapM fun
    | .str s => some s
    | _ => none
  | _ => none

end Json

end LogicGrid
