/-!
# Whole numbers

Whole numbers in decimal digits, with an optional sign and within the range of a machine word. Blanks and separators
are not part of a number.
-/

namespace LogicGrid.Text

/-- The value of a row of at least one decimal digit. -/
def digits? (cs : List Char) : Option Nat :=
  if cs.isEmpty || !cs.all Char.isDigit then none
  else some (cs.foldl (fun n c => 10 * n + (c.toNat - 48)) 0)

/-- The largest natural number that can be read, `2 ^ 64 - 1`. -/
def maxNatural : Nat := 0xFFFFFFFFFFFFFFFF

/-- The largest integer that can be read, `2 ^ 63 - 1`. -/
def maxInteger : Nat := 0x7FFFFFFFFFFFFFFF

/-- A natural number up to `maxNatural`, with an optional plus sign. -/
def natural? (cs : List Char) : Option Nat :=
  let ds := match cs with
    | '+' :: ds => ds
    | _ => cs
  (digits? ds).filter (· ≤ maxNatural)

/-- An integer from `-(maxInteger + 1)` to `maxInteger`, with an optional sign. -/
def integer? : List Char → Option Int
  | '-' :: ds => ((digits? ds).filter (· ≤ maxInteger + 1)).map fun n => -(n : Int)
  | '+' :: ds => ((digits? ds).filter (· ≤ maxInteger)).map Int.ofNat
  | ds => ((digits? ds).filter (· ≤ maxInteger)).map Int.ofNat

end LogicGrid.Text
