import LogicGrid.Json.Token

/-!
# Writing JSON

A value is written compactly, as the texts of its tokens without anything in between (`Json.compact`), or with one item
or member a line and two spaces for each level (`Json.pretty`). Empty arrays and objects take no lines of their own.
-/

namespace LogicGrid.Json

mutual

/-- The tokens of a value. -/
def tokens : Json → List Token
  | .null => [.null]
  | .bool b => [.bool b]
  | .nat n => [.nat n]
  | .str s => [.str s]
  | .arr items => .beginArr :: itemTokens items
  | .obj members => .beginObj :: memberTokens members
  | .other => [.number]

/-- The tokens of the items of an array and of its end. -/
def itemTokens : List Json → List Token
  | [] => [.endArr]
  | [v] => tokens v ++ [.endArr]
  | v :: w :: vs => tokens v ++ .comma :: itemTokens (w :: vs)

/-- The tokens of the members of an object and of its end. -/
def memberTokens : List (String × Json) → List Token
  | [] => [.endObj]
  | [(k, v)] => .str k :: .colon :: tokens v ++ [.endObj]
  | (k, v) :: m :: ms => .str k :: .colon :: tokens v ++ .comma :: memberTokens (m :: ms)

end

/-- The compact text of a value. -/
def compact (v : Json) : String := String.join (v.tokens.map Token.text)

/-- A line break and the indentation of a level. -/
def lineBreak (level : Nat) : String := "\n" ++ String.ofList (List.replicate (2 * level) ' ')

mutual

/-- The text of a value at a level of indentation, item by item. -/
def prettyAt (level : Nat) : Json → String
  | .null => "null"
  | .bool b => if b then "true" else "false"
  | .nat n => n.repr
  | .str s => quote s
  | .arr [] => "[]"
  | .arr (v :: vs) =>
    "[" ++ lineBreak (level + 1) ++ prettyAt (level + 1) v ++ prettyItems (level + 1) vs ++ lineBreak level ++ "]"
  | .obj [] => "\x7b\x7d"
  | .obj ((k, v) :: ms) =>
    "\x7b" ++ lineBreak (level + 1) ++ quote k ++ ": " ++ prettyAt (level + 1) v ++ prettyMembers (level + 1) ms
      ++ lineBreak level ++ "\x7d"
  | .other => Token.number.text

/-- The items after the first one. -/
def prettyItems (level : Nat) : List Json → String
  | [] => ""
  | v :: vs => "," ++ lineBreak level ++ prettyAt level v ++ prettyItems level vs

/-- The members after the first one. -/
def prettyMembers (level : Nat) : List (String × Json) → String
  | [] => ""
  | (k, v) :: ms => "," ++ lineBreak level ++ quote k ++ ": " ++ prettyAt level v ++ prettyMembers level ms

end

/-- The text of a value with one item or member a line. -/
def pretty (v : Json) : String := prettyAt 0 v

end LogicGrid.Json
