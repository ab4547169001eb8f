import LogicGrid.Text.Integer

/-!
# Command line

```text
aingle-puzzle [--max-facts N] [--max-steps N] [--constraints FILE] [--show-input] [--json] [-v]… [PUZZLE]
```

Arguments are read from left to right. An option takes its value from behind an equals sign or from the next argument;
every option but `-v` may be given once. All arguments behind `--` are names of puzzles, of which there may be one.
-/

namespace LogicGrid.Command

/-- What the arguments ask for. -/
structure Options where
  /-- The puzzle file, where one is named. -/
  puzzle : Option String := none
  maxFacts : Option Nat := none
  maxSteps : Option Nat := none
  /-- The file of a constraint table that takes the place of the usual one. -/
  constraints : Option String := none
  /-- Whether facts and rules are listed before they are solved. -/
  showInput : Bool := false
  /-- Whether the result is written as JSON. -/
  json : Bool := false
deriving DecidableEq, Repr

/-- The puzzle file where none is named. -/
def defaultPuzzle : String := "puzzle.txt"

/-- The path of the puzzle file. -/
def Options.puzzlePath (o : Options) : String := o.puzzle.getD defaultPuzzle

/-- What a command line asks for. -/
inductive Invocation where
  | solve (options : Options)
  | version
  | help
  /-- The arguments are not understood. -/
  | misuse
deriving DecidableEq, Repr

namespace Options

/-- Names the puzzle file. -/
def withPuzzle? (o : Options) (path : String) : Option Options :=
  if path.isEmpty || o.puzzle.isSome then none else some { o with puzzle := some path }

/-- Whether an option of this name takes a value. -/
def takesValue (name : String) : Bool := name ∈ ["max-facts", "max-steps", "constraints"]

/-- Sets an option that takes a value. -/
def withValue? (o : Options) (name value : String) : Option Options :=
  if name = "max-facts" then
    if o.maxFacts.isSome then none
    else (Text.natural? value.toList).map fun n => { o with maxFacts := some n }
  else if name = "max-steps" then
    if o.maxSteps.isSome then none
    else (Text.natural? value.toList).map fun n => { o with maxSteps := some n }
  else if name = "constraints" then
    if o.constraints.isSome || value.isEmpty then none else some { o with constraints := some value }
  else none

/-- Sets an option that takes no value. -/
def withFlag? (o : Options) (name : String) : Option Options :=
  if name = "show-input" then if o.showInput then none else some { o with showInput := true }
  else if name = "json" then if o.json then none else some { o with json := true }
  else if name = "verbose" then some o
  else none

/-- Names the puzzle file by the arguments that are left. -/
def ofPuzzles (o : Options) : List String → Invocation
  | [] => .solve o
  | path :: rest =>
    match o.withPuzzle? path with
    | some o => ofPuzzles o rest
    | none => .misuse

/-- Whether an argument may be the value of an option in front of it. -/
def isPlain (arg : String) : Bool := arg = "-" || !(['-'].isPrefixOf arg.toList)

/-- An argument `--name` or `--name=value`, taken apart. -/
def longOption? (arg : String) : Option (String × Option String) :=
  match arg.toList with
  | '-' :: '-' :: cs =>
    let name := String.ofList (cs.takeWhile (· != '='))
    match cs.dropWhile (· != '=') with
    | [] => some (name, none)
    | _ :: value => some (name, some (String.ofList value))
  | _ => none

/-- An argument of short options. They stand for nothing, or end the command line. -/
def ofShort : List Char → Option Invocation
  | [] => none
  | c :: cs =>
    if c = 'v' then ofShort cs
    else if c = 'V' then some .version
    else if c = 'h' then some .help
    else some .misuse

/-- Reads the arguments from left to right. -/
def read (o : Options) : List String → Invocation
  | [] => .solve o
  | arg :: args =>
    if arg = "--" then o.ofPuzzles args
    else if isPlain arg then
      match o.withPuzzle? arg with
      | some o => o.read args
      | none => .misuse
    else
      match longOption? arg with
      | some (name, some value) =>
        match o.withValue? name value with
        | some o => o.read args
        | none => .misuse
      | some (name, none) =>
        if name = "version" then .version
        else if name = "help" then .help
        else if takesValue name then
          match args with
          | [] => .misuse
          | value :: args =>
            if isPlain value then
              match o.withValue? name value with
              | some o => o.read args
              | none => .misuse
            else .misuse
        else
          match o.withFlag? name with
          | some o => o.read args
          | none => .misuse
      | none =>
        match ofShort arg.toList.tail with
        | some i => i
        | none => o.read args

end Options

/-- What the arguments ask for. -/
def Invocation.ofArgs (args : List String) : Invocation := Options.read {} args

end LogicGrid.Command
