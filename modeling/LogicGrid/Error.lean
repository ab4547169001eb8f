import LogicGrid.Fact

/-!
# Errors

The causes for which a puzzle, a configuration or a constraint table is refused, and the sentence for each of them
(`Error.message`). Solving itself never fails: contradictions and failed unifications are ordinary outcomes.
-/

namespace LogicGrid

/-- Why the body of a statement of puzzle text is malformed. -/
inductive SyntaxError where
  /-- A clause that is not enclosed in parentheses. -/
  | expectedClause (found : String)
  /-- A parenthesis without its partner. -/
  | unbalanced (text : String)
  /-- A clause whose first entry is blank. -/
  | missingPredicate (clause : String)
  /-- A predicate that contains a parenthesis. -/
  | invalidPredicate (predicate : String)
  /-- A blank between commas. -/
  | emptyArgument
  /-- Arguments without a functor in front. -/
  | missingFunctor (text : String)
deriving DecidableEq, Repr

/-- Why a configuration or a constraint table is refused. -/
inductive ConfigError where
  | zeroFacts
  | zeroSteps
  /-- The truncated search would keep no variable or no candidate. -/
  | emptyTruncation
  /-- The truncated search would be larger than the largest search that is not truncated. -/
  | wideTruncation (keptVariables keptCandidates maxVariables maxCandidates : Nat)
  /-- A position of the constraint is not below its arity. -/
  | beyondArity (constraint : String) (arity : Nat)
  /-- The determining and the determined position of the constraint are the same. -/
  | sharedPosition (constraint : String) (position : Nat)
deriving DecidableEq, Repr

/-- Why a file could not be read as text. -/
inductive FileError where
  | notFound
  | isDirectory
  | notDirectory
  | notUtf8
  /-- Any other reason, in the words of the system. -/
  | other (reason : String)
deriving DecidableEq, Repr

/-- Why a puzzle could not be built, loaded or configured. -/
inductive Error where
  /-- A rule needs at least one antecedent. -/
  | noAntecedents (consequent : Fact)
  /-- A malformed statement, on a line counted from 1. -/
  | malformed (line : Nat) (cause : SyntaxError)
  | config (cause : ConfigError)
  /-- A file that could not be read, with its path where the path is reported. -/
  | file (path : Option String) (cause : FileError)
  /-- Text that is not JSON, or JSON that does not describe a value of the expected kind. -/
  | undecodable
deriving DecidableEq, Repr

/-- The sentence for a malformed statement. -/
def SyntaxError.message : SyntaxError → String
  | .expectedClause found => "expected '(predicate, args...)', found '" ++ found ++ "'"
  | .unbalanced text => "unbalanced parentheses in '" ++ text ++ "'"
  | .missingPredicate clause => "missing predicate in '" ++ clause ++ "'"
  | .invalidPredicate predicate => "invalid predicate '" ++ predicate ++ "'"
  | .emptyArgument => "empty argument"
  | .missingFunctor text => "missing functor in '" ++ text ++ "'"

/-- The sentence for a refused configuration. -/
def ConfigError.message : ConfigError → String
  | .zeroFacts => "max_facts must be at least 1"
  | .zeroSteps => "max_steps must be at least 1"
  | .emptyTruncation => "truncated search must keep at least one variable and one candidate"
  | .wideTruncation keptVariables keptCandidates maxVariables maxCandidates =>
    "truncated search (" ++ keptVariables.repr ++ " variables x " ++ keptCandidates.repr
      ++ " candidates) exceeds the untruncated bound (" ++ maxVariables.repr ++ " x " ++ maxCandidates.repr ++ ")"
  | .beyondArity constraint arity =>
    "constraint '" ++ constraint ++ "' refers to an argument beyond arity " ++ arity.repr
  | .sharedPosition constraint position =>
    "constraint '" ++ constraint ++ "' uses position " ++ position.repr ++ " as both key and value"

/-- The sentence for an unreadable file. -/
def FileError.message : FileError → String
  | .notFound => "No such file or directory (os error 2)"
  | .isDirectory => "Is a directory (os error 21)"
  | .notDirectory => "Not a directory (os error 20)"
  | .notUtf8 => "stream did not contain valid UTF-8"
  | .other reason => reason

/-- The sentence for an error. -/
def Error.message : Error → String
  | .noAntecedents consequent =>
    "Invalid rule definition: rule deriving " ++ consequent.text ++ " has no antecedents"
  | .malformed line cause => "Parse error on line " ++ line.repr ++ ": " ++ cause.message
  | .config cause => "Invalid configuration: " ++ cause.message
  | .file (some path) cause => "I/O error: " ++ path ++ ": " ++ cause.message
  | .file none cause => "I/O error: " ++ cause.message
  | .undecodable => "Serialization error"

end LogicGrid
