import LogicGrid.Text.Alphabetic
import LogicGrid.Text.Numeric
import LogicGrid.Text.Uppercase

/-!
# Names

The names that stand for variables.
-/

namespace LogicGrid.Text

/-- Whether a character is a letter or a number. -/
def isAlphanumeric (c : Char) : Bool := isAlphabetic c || isNumeric c

/-- Whether a name stands for a variable: it starts in upper case and is made up of letters, numbers and underscores. -/
def isVariableName : List Char → Bool
  | [] => false
  | c :: cs => isUppercase c && (c :: cs).all fun c => isAlphanumeric c || c == '_'

end LogicGrid.Text
