import LogicGrid.Config
import LogicGrid.Text.Blank
import LogicGrid.Text.Integer

/-!
# Limits from the environment

Three variables of the environment override limits of the usual configuration. A variable that is not set, or whose
value is not a natural number between blanks, changes nothing.
-/

namespace LogicGrid

/-- The number of facts that must not be exceeded. -/
def maxFactsVariable : String := "AINGLE_PUZZLE_MAX_FACTS"

/-- The number of deduction passes in a row. -/
def maxStepsVariable : String := "AINGLE_PUZZLE_MAX_STEPS"

/-- The most free variables that are searched without truncation. -/
def maxFreeVariablesVariable : String := "AINGLE_PUZZLE_MAX_FREE_VARS"

/-- The limit that a variable of the environment sets. -/
def readLimit (lookup : String → Option String) (name : String) : Option Nat :=
  (lookup name).bind fun v => Text.natural? (Text.trim v.toList)

/-- Overrides the limits that are set. -/
def SolverConfig.withOverrides (c : SolverConfig) (lookup : String → Option String) : SolverConfig :=
  { c with
    maxFacts := (readLimit lookup maxFactsVariable).getD c.maxFacts
    maxSteps := (readLimit lookup maxStepsVariable).getD c.maxSteps
    search := { c.search with
      maxFreeVariables := (readLimit lookup maxFreeVariablesVariable).getD c.search.maxFreeVariables } }

/-- The usual configuration with the limits that are set. -/
def SolverConfig.ofEnvironment (lookup : String → Option String) : SolverConfig := standard.withOverrides lookup

end LogicGrid
