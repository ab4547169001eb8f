import LogicGrid.Config
import LogicGrid.Wire.Puzzle

/-!
# Configurations as JSON

All parts of a configuration are records, but for the categories of name beginnings: these are an object with one member
for each beginning, of which the last one counts.
-/

namespace LogicGrid

/-- Search bounds as JSON. -/
def SearchLimits.toJson (l : SearchLimits) : Json :=
  .obj [("max_free_variables", .nat l.maxFreeVariables), ("max_domain_size", .nat l.maxDomainSize),
    ("truncated_variables", .nat l.truncatedVariables), ("truncated_domain_size", .nat l.truncatedDomainSize),
    ("fallback_domain_size", .nat l.fallbackDomainSize)]

/-- Reads search bounds. -/
def SearchLimits.ofJson? (v : Json) : Option SearchLimits :=
  match v.record? ["max_free_variables", "max_domain_size", "truncated_variables", "truncated_domain_size",
    "fallback_domain_size"] with
  | some [some (.nat maxFreeVariables), some (.nat maxDomainSize), some (.nat truncatedVariables),
      some (.nat truncatedDomainSize), some (.nat fallbackDomainSize)] =>
    some ⟨maxFreeVariables, maxDomainSize, truncatedVariables, truncatedDomainSize, fallbackDomainSize⟩
  | _ => none

/-- Categories of name beginnings as JSON. -/
def PrefixTable.toJson (t : PrefixTable) : Json := .obj (t.entries.map fun e => (e.1, .str e.2))

/-- Reads categories of name beginnings. -/
def PrefixTable.ofJson? : Json → Option PrefixTable
  | .obj members => (members.mapM entry?).map PrefixTable.ofList
  | _ => none
where
  /-- One member. -/
  entry? : String × Json → Option (String × String)
    | (start, .str category) => some (start, category)
    | _ => none

/-- Strings as JSON. -/
def Json.ofStrings (ss : List String) : Json := .arr (ss.map Json.str)

/-- A vocabulary as JSON. -/
def Vocabulary.toJson (d : Vocabulary) : Json :=
  .obj [("house_marker", .str d.houseMarker), ("colors", .ofStrings d.colors),
    ("nationalities", .ofStrings d.nationalities), ("prefixes", d.namePrefixes.toJson)]

/-- Reads a vocabulary. -/
def Vocabulary.ofJson? (v : Json) : Option Vocabulary :=
  match v.record? ["house_marker", "colors", "nationalities", "prefixes"] with
  | some [some (.str houseMarker), some colors, some nationalities, some namePrefixes] => do
    let colors ← colors.strings?
    let nationalities ← nationalities.strings?
    let namePrefixes ← PrefixTable.ofJson? namePrefixes
    return ⟨houseMarker, colors, nationalities, namePrefixes⟩
  | _ => none

/-- A configuration as JSON. -/
def SolverConfig.toJson (c : SolverConfig) : Json :=
  .obj [("max_facts", .nat c.maxFacts), ("max_steps", .nat c.maxSteps), ("search", c.search.toJson),
    ("domains", c.domains.toJson)]

/-- Reads a configuration. -/
def SolverConfig.ofJson? (v : Json) : Option SolverConfig :=
  match v.record? ["max_facts", "max_steps", "search", "domains"] with
  | some [some (.nat maxFacts), some (.nat maxSteps), some search, some domains] => do
    let search ← SearchLimits.ofJson? search
    let domains ← Vocabulary.ofJson? domains
    return ⟨maxFacts, maxSteps, search, domains⟩
  | _ => none

end LogicGrid
