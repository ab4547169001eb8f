import LogicGrid.Json.Token

/-!
# Reading JSON

The tokens of a text are read one by one. `State` is what has been read so far: the arrays and objects that are still
open, and what may come next. A text is a value when its tokens lead from the start to a complete value with nothing
open (`Json.parse?`). At most `maxDepth` arrays and objects may be open at a time.
-/

namespace LogicGrid.Json

/-- The number of arrays and objects that may be open at a time. -/
def maxDepth : Nat := 127

/-- The members of an object, the last one in front, and whether every name so far was a whole string. -/
structure Members where
  intact : Bool
  members : List (String × Json)

namespace Members

/-- No members. -/
def empty : Members := ⟨true, []⟩

/-- The members with one more. -/
def add (ms : Members) (name : String) (v : Json) : Members := { ms with members := (name, v) :: ms.members }

/-- The object of the members. -/
def close (ms : Members) : Json := if ms.intact then .obj ms.members.reverse else .other

end Members

/-- An array or object that is still open. -/
inductive Frame where
  /-- The items, the last one in front. -/
  | arr (items : List Json)
  /-- The members before the one that is being read, and its name. -/
  | obj (members : Members) (name : String)

/-- What has been read so far. The open arrays and objects are listed from the inside. -/
inductive State where
  /-- A value has to come. -/
  | value (stack : List Frame)
  /-- An array has just been opened: a value or its end has to come. -/
  | firstItem (stack : List Frame)
  /-- An object has just been opened: a name or its end has to come. -/
  | firstName (stack : List Frame)
  /-- A name has to come. -/
  | name (members : Members) (stack : List Frame)
  /-- A colon has to come. -/
  | colon (members : Members) (name : String) (stack : List Frame)
  /-- A value is complete. -/
  | after (v : Json) (stack : List Frame)

namespace State

/-- A token where a value has to come. -/
def stepValue (stack : List Frame) : Token → Option State
  | .null => some (.after .null stack)
  | .bool b => some (.after (.bool b) stack)
  | .nat n => some (.after (.nat n) stack)
  | .number => some (.after .other stack)
  | .str s => some (.after (.str s) stack)
  | .brokenStr => some (.after .other stack)
  | .beginArr => if stack.length < maxDepth then some (.firstItem stack) else none
  | .beginObj => if stack.length < maxDepth then some (.firstName stack) else none
  | _ => none

/-- A token where a name has to come. -/
def stepName (ms : Members) (stack : List Frame) : Token → Option State
  | .str s => some (.colon ms s stack)
  | .brokenStr => some (.colon { ms with intact := false } "" stack)
  | _ => none

/-- One token. -/
def step : State → Token → Option State
  | .value stack, t => stepValue stack t
  | .firstItem stack, .endArr => some (.after (.arr []) stack)
  | .firstItem stack, t => stepValue (.arr [] :: stack) t
  | .firstName stack, .endObj => some (.after (.obj []) stack)
  | .firstName stack, t => stepName .empty stack t
  | .name ms stack, t => stepName ms stack t
  | .colon ms k stack, .colon => some (.value (.obj ms k :: stack))
  | .after v (.arr items :: stack), .comma => some (.value (.arr (v :: items) :: stack))
  | .after v (.arr items :: stack), .endArr => some (.after (.arr (v :: items).reverse) stack)
  | .after v (.obj ms k :: stack), .comma => some (.name (ms.add k v) stack)
  | .after v (.obj ms k :: stack), .endObj => some (.after (ms.add k v).close stack)
  | _, _ => none

/-- The value of a state in which nothing is open. -/
def result? : State → Option Json
  | .after v [] => some v
  | _ => none

end State

/-- The value of a row of tokens. -/
def ofTokens? (ts : List Token) : Option Json := (ts.foldlM State.step (.value [])).bind State.result?

/-- The value of a text. -/
def parse? (s : String) : Option Json := (lex s.toList).bind ofTokens?

end LogicGrid.Json
