import LogicGrid.Command.Options
import LogicGrid.Environment
import LogicGrid.Folder
import LogicGrid.Report
import LogicGrid.Wire.Constraints
import LogicGrid.Wire.Solution

/-!
# Running a command line

A command line is run against the variables of the environment, the files and the time; the result is what it prints
and how it ends. The limits come from the environment and then from the options; they are checked before the puzzle is
loaded. What has been printed when an error arises stays printed.
-/

namespace LogicGrid.Command

/-- What a run can see. -/
structure Surroundings where
  lookup : String → Option String
  files : FileReader
  /-- The time that a report gives. -/
  time : String

/-- What a run printed, its exit code, and the error that ended it, if one did. -/
structure Result where
  stdout : String
  code : Nat
  failure : Option Error := none
deriving DecidableEq

/-- The version in words. -/
def versionText : String := "aingle-puzzle 0.5.0\n"

/-- A summary of the command line. -/
def helpText : String :=
  "Solve logic grid puzzles by deduction and backtracking\n\n"
    ++ "Usage: aingle-puzzle [OPTIONS] [PUZZLE]\n"

/-- The limits of the environment, then of the options. -/
def Options.config (o : Options) (lookup : String → Option String) : SolverConfig :=
  let c := SolverConfig.ofEnvironment lookup
  { c with maxFacts := o.maxFacts.getD c.maxFacts, maxSteps := o.maxSteps.getD c.maxSteps }

/-- Facts and rules as they are listed before they are solved. -/
def listing (kb : KnowledgeBase) : String :=
  "Facts:\n" ++ String.join (kb.facts.toList.map fun f => "  - " ++ f.text ++ "\n")
    ++ "Rules:\n" ++ String.join (kb.rules.map fun r => "  - " ++ r.text ++ "\n") ++ "\n"

/-- The table to solve under. -/
def Options.table (o : Options) (files : FileReader) : Except Error ConstraintTable :=
  match o.constraints with
  | none => .ok .puzzle
  | some path =>
    match files.text path with
    | .ok s => ConstraintTable.ofText s
    | .error e => .error (.file none e)

/-- The facts that were derived, under a heading. -/
def derivedText : List Fact → String
  | [] => ""
  | fs => "\nDerived facts:\n" ++ String.join (fs.map fun f => "  + " ++ f.text ++ "\n")

/-- An outcome in words. -/
def outcomeText (s : Solver) (o : Outcome) : String :=
  match o.solution with
  | some sol =>
    "Solution found:\n\n" ++ String.join (sol.sortedFacts.map fun f => "  " ++ f.text ++ "\n")
      ++ "\nTotal facts: " ++ sol.facts.size.repr ++ "\nInference steps: " ++ sol.inferenceSteps.repr ++ "\n"
      ++ derivedText (sol.derivedFrom s.kb)
  | none =>
    if o.stats.factLimitHit then "No solution: the puzzle exceeded " ++ s.config.maxFacts.repr ++ " facts.\n"
    else "No solution satisfies all constraints.\n"

/-- What is printed about a solver, and whether it found a solution. -/
def Options.solve (o : Options) (s : Solver) (time : String) : String × Bool :=
  let outcome := s.solve
  let text :=
    if o.json then ((outcome.report o.puzzlePath s.kb).toJson time).pretty ++ "\n" else outcomeText s outcome
  (text, outcome.solution.isSome)

/-- An error that ends a run. -/
def Result.fail (stdout : String) (e : Error) : Result := ⟨stdout, 1, some e⟩

/-- Loads a puzzle and solves it. -/
def Options.run (o : Options) (w : Surroundings) : Result :=
  let config := o.config w.lookup
  match config.validate with
  | .error e => .fail "" e
  | .ok () =>
    match KnowledgeBase.load w.files o.puzzlePath with
    | .error e => .fail "" e
    | .ok kb =>
      let shown := if o.showInput then listing kb else ""
      match o.table w.files with
      | .error e => .fail shown e
      | .ok table =>
        let (text, solved) := o.solve { kb := kb, config := config, table := table } w.time
        { stdout := shown ++ text, code := if solved then 0 else 1 }

/-- Does what the arguments ask for. Misused arguments print nothing here. -/
def run (args : List String) (w : Surroundings) : Result :=
  match Invocation.ofArgs args with
  | .solve o => o.run w
  | .version => { stdout := versionText, code := 0 }
  | .help => { stdout := helpText, code := 0 }
  | .misuse => { stdout := "", code := 2 }

end LogicGrid.Command
