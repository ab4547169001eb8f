import LogicGrid.Command.Instant
import LogicGrid.Command.Run
import Std.Time.DateTime.Timestamp

/-!
# The program

Gathers what a run can see, runs the command line, prints what it printed and ends with its exit code.
-/

namespace LogicGrid

/-- The reason why a file could not be read. -/
def fileError : IO.Error → FileError
  | .noFileOrDirectory .. => .notFound
  | .inappropriateType _ code _ => if code = 21 then .isDirectory else .notDirectory
  | e => .other (toString e)

/-- Reads a file, so that its contents or the reason for their absence can be handed on. -/
def readFile (path : String) : IO (Except FileError ByteArray) := do
  try
    return .ok (← IO.FS.readBinFile path)
  catch e =>
    return .error (fileError e)

/-- The files that a command line may read. -/
def neededFiles : Command.Invocation → List String
  | .solve o => o.puzzlePath :: o.constraints.toList
  | _ => []

/-- The variables of the environment that set limits. -/
def limitVariables : List String := [maxFactsVariable, maxStepsVariable, maxFreeVariablesVariable]

/-- Everything that a run of the command line can see. -/
def surroundings (args : List String) : IO Command.Surroundings := do
  let env ← limitVariables.mapM fun name => return (name, ← IO.getEnv name)
  let files ← (neededFiles (.ofArgs args)).mapM fun path => return (path, ← readFile path)
  let now ← Std.Time.Timestamp.now
  return {
    lookup := fun name => (env.lookup name).join
    files := fun path => (files.lookup path).getD (.error .notFound)
    time := Command.instantText now.toNanosecondsSinceUnixEpoch.val.toNat }

end LogicGrid

/-- Runs the command line. -/
def main (args : List String) : IO UInt32 := do
  let r := LogicGrid.Command.run args (← LogicGrid.surroundings args)
  (← IO.getStdout).putStr r.stdout
  if let some e := r.failure then
    IO.eprintln ("Error: " ++ e.message)
  return UInt32.ofNat r.code
