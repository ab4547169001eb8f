import LogicGrid.Config
import LogicGrid.Text.Integer

/-!
# Search spaces

The variables that deduction left free, with the values to try for each. The values are the constants that the facts and
rules mention, sorted into categories; the name of a variable decides which category it ranges over. A space that is too
large is cut down, and remembers that it was.

* `KnowledgeBase.variableNames`, `KnowledgeBase.constants` – what is mentioned, in the order of the first mention;
* `SearchSpace.unbounded` – all variables with all their candidates;
* `SearchSpace.discover` – the same within the limits of a configuration.
-/

namespace LogicGrid

/-- The kinds of constants. -/
inductive Category where
  | number
  | house
  | color
  | nationality
  | general
deriving DecidableEq, Repr

namespace Category

/-- The name under which a configuration refers to a category. -/
def name : Category → String
  | .number => "number"
  | .house => "house"
  | .color => "color"
  | .nationality => "nationality"
  | .general => "general"

/-- The category of a name. -/
def ofName? (s : String) : Option Category :=
  [number, house, color, nationality, general].find? (·.name == s)

end Category

/-- Whether a text stands somewhere in another one. -/
def containsText (part : List Char) : List Char → Bool
  | [] => part.isEmpty
  | c :: cs => part.isPrefixOf (c :: cs) || containsText part cs

/-- The category of a constant: integers are numbers, then the words of the vocabulary decide. -/
def Vocabulary.categorize (v : Vocabulary) (value : String) : Category :=
  if (Text.integer? value.toList).isSome then .number
  else if containsText v.houseMarker.toList value.toList then .house
  else if value ∈ v.colors then .color
  else if value ∈ v.nationalities then .nationality
  else .general

namespace KnowledgeBase

/-- All facts and all clauses of rules, in order. -/
def statements (kb : KnowledgeBase) : List Fact := kb.facts.toList ++ kb.rules.flatMap Rule.clauses

/-- The variables of facts and rules in the order in which they are first mentioned. -/
def variableNames (kb : KnowledgeBase) : List String := (kb.statements.flatMap Fact.vars).eraseDups

/-- The constants of facts and rules in the order in which they are first mentioned. -/
def constants (kb : KnowledgeBase) : List String := (kb.statements.flatMap Fact.consts).eraseDups

end KnowledgeBase

/-- The constants of one category. -/
def Vocabulary.ofCategory (v : Vocabulary) (constants : List String) (c : Category) : List String :=
  constants.filter fun s => v.categorize s = c

/-- The categories of which there are constants, in the order of their first constant. -/
def Vocabulary.categories (v : Vocabulary) (constants : List String) : List Category :=
  (constants.map v.categorize).eraseDups

/-- The category that a variable ranges over: the one that its name asks for, if there are constants of it. -/
def Vocabulary.categoryFor (v : Vocabulary) (constants : List String) (variableName : String) : Category :=
  let wanted := (v.namePrefixes.entries.find? fun e => e.1.toList.isPrefixOf variableName.toList).bind
    fun e => Category.ofName? e.2
  (wanted.filter fun c => c ∈ v.categories constants).getD .general

/-- The candidates for a variable: the constants of its category, or the first constants of all categories when there
are none. -/
def SolverConfig.candidates (c : SolverConfig) (constants : List String) (variableName : String) : List String :=
  let own := c.domains.ofCategory constants (c.domains.categoryFor constants variableName)
  if own.isEmpty then
    ((c.domains.categories constants).flatMap (c.domains.ofCategory constants)).take c.search.fallbackDomainSize
  else own

/-- A variable and the values to try for it, in order. -/
structure FreeVariable where
  name : String
  domain : List Term
deriving DecidableEq, Repr

/-- Free variables in the order in which they are assigned. -/
structure SearchSpace where
  freeVariables : List FreeVariable
  /-- Whether variables or candidates were dropped. -/
  truncated : Bool
deriving DecidableEq, Repr

namespace SearchSpace

/-- All variables that have candidates, with all their candidates. -/
def unbounded (kb : KnowledgeBase) (c : SolverConfig) : List FreeVariable :=
  let constants := kb.constants
  (kb.variableNames.map fun x => ⟨x, (c.candidates constants x).map Term.const⟩).filter
    fun v => !v.domain.isEmpty

/-- Whether there are more variables or larger domains than are searched in full. -/
def oversized (limits : SearchLimits) (vs : List FreeVariable) : Bool :=
  limits.maxFreeVariables < vs.length || vs.any (limits.maxDomainSize < ·.domain.length)

/-- Cuts the variables and their domains down when they are too many. -/
def bounded (limits : SearchLimits) (vs : List FreeVariable) : SearchSpace :=
  if oversized limits vs then
    ⟨(vs.take limits.truncatedVariables).map fun v =>
      { v with domain := v.domain.take limits.truncatedDomainSize }, true⟩
  else ⟨vs, false⟩

/-- The space of a knowledge base. -/
def discover (kb : KnowledgeBase) (c : SolverConfig) : SearchSpace := bounded c.search (unbounded kb c)

end SearchSpace

end LogicGrid
