import LogicGrid.Text.Ranges

/-!
# Blanks

The characters with the Unicode property White_Space, and what is left of a text without the blanks around it.

* `isBlank` – the property; `trim` – a text without the blanks around it, which is no longer than it
  (`length_trim_le`).
-/

namespace LogicGrid.Text

/-- The ranges of the blank characters, ascending. -/
def blankRanges : List (Nat × Nat) := [
  (0x9, 0xD), (0x20, 0x20), (0x85, 0x85), (0xA0, 0xA0), (0x1680, 0x1680), (0x2000, 0x200A), (0x2028, 0x2029),
  (0x202F, 0x202F), (0x205F, 0x205F), (0x3000, 0x3000)]

/-- Whether a character is blank. -/
def isBlank (c : Char) : Bool := inRanges blankRanges c

/-- A text without the blanks at its start. -/
def trimStart (cs : List Char) : List Char := cs.dropWhile isBlank

/-- A text without the blanks at its end. -/
def trimEnd (cs : List Char) : List Char := (cs.reverse.dropWhile isBlank).reverse

/-- A text without the blanks around it. -/
def trim (cs : List Char) : List Char := trimEnd (trimStart cs)

theorem length_trim_le (cs : List Char) : (trim cs).length ≤ cs.length := by
  rw [trim, trimEnd, List.length_reverse]
  have hstart : (trimStart cs).length ≤ cs.length := (List.dropWhile_suffix isBlank).length_le
  have hend : ((trimStart cs).reverse.dropWhile isBlank).length ≤ (trimStart cs).reverse.length :=
    (List.dropWhile_suffix isBlank).length_le
  rw [List.length_reverse] at hend
  exact Nat.le_trans hend hstart

end LogicGrid.Text
