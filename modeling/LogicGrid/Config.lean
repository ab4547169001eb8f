import LogicGrid.KnowledgeBase

/-!
# Configuration

How far the solver may go, and the vocabulary by which it guesses values for free variables.

A search over more variables or larger domains than `maxFreeVariables` and `maxDomainSize` is truncated: it keeps the
first `truncatedVariables` variables with the first `truncatedDomainSize` candidates each.
-/

namespace LogicGrid

/-- Bounds on the search. -/
structure SearchLimits where
  /-- The most free variables that are searched without truncation. -/
  maxFreeVariables : Nat
  /-- The largest domain that is searched without truncation. -/
  maxDomainSize : Nat
  truncatedVariables : Nat
  truncatedDomainSize : Nat
  /-- The number of constants of all categories that are tried for a variable without a category of its own. -/
  fallbackDomainSize : Nat
deriving DecidableEq, Repr

/-- Beginnings of variable names and the categories that they stand for, in the order in which they are checked. No
beginning is listed twice. -/
structure PrefixTable where
  entries : List (String × String)
  nodup : (entries.map (·.1)).Nodup
deriving DecidableEq, Repr

namespace PrefixTable

/-- No entries. -/
def empty : PrefixTable := ⟨[], .nil⟩

/-- Replaces the category of a beginning that is listed. -/
def replaceEntry (start category : String) (entries : List (String × String)) : List (String × String) :=
  entries.map fun e => if e.1 = start then (start, category) else e

theorem map_fst_replaceEntry (start category : String) (entries : List (String × String)) :
    (replaceEntry start category entries).map (·.1) = entries.map (·.1) := by
  rw [replaceEntry, List.map_map]
  refine List.map_congr_left fun e _ => ?_
  by_cases h : e.1 = start <;> simp [h]

/-- Gives a beginning a category. A new one comes last; one that is listed keeps its place. -/
def insert (t : PrefixTable) (start category : String) : PrefixTable :=
  if h : start ∈ t.entries.map (·.1) then
    ⟨replaceEntry start category t.entries, map_fst_replaceEntry start category t.entries ▸ t.nodup⟩
  else
    ⟨t.entries ++ [(start, category)], by
      rw [List.map_append, List.nodup_append]
      exact ⟨t.nodup, by simp, fun a ha b hb e => h (by simp_all)⟩⟩

/-- The table of some entries, inserted one after another. -/
def ofList (entries : List (String × String)) : PrefixTable := entries.foldl (fun t e => t.insert e.1 e.2) empty

end PrefixTable

/-- The words by which constants are sorted into categories and variables are given a category. -/
structure Vocabulary where
  /-- What a constant that names a house contains. -/
  houseMarker : String
  colors : List String
  nationalities : List String
  /-- How the name of a variable starts, and the category of its values. -/
  namePrefixes : PrefixTable
deriving DecidableEq, Repr

/-- The configuration of a solver. -/
structure SolverConfig where
  /-- The number of facts that must not be exceeded. -/
  maxFacts : Nat
  /-- The number of deduction passes in a row. -/
  maxSteps : Nat
  search : SearchLimits
  domains : Vocabulary
deriving DecidableEq, Repr

/-- The words of the classical puzzle. -/
def Vocabulary.standard : Vocabulary where
  houseMarker := "casa"
  colors := ["rojo", "azul", "verde", "amarillo", "blanco"]
  nationalities := ["ingles", "español", "noruego", "ucraniano", "japones"]
  namePrefixes := .ofList [("C", "color"), ("N", "nationality")]

namespace SolverConfig

/-- The usual limits. -/
def standard : SolverConfig where
  maxFacts := KnowledgeBase.defaultMaxFacts
  maxSteps := 10
  search := ⟨3, 5, 2, 3, 5⟩
  domains := .standard

/-- Limits for larger puzzles. -/
def relaxed : SolverConfig where
  maxFacts := 1000
  maxSteps := 50
  search := ⟨6, 10, 4, 5, 10⟩
  domains := .standard

/-- Checks that no limit is zero and that a truncated search is not larger than one that is not truncated. -/
def validate (c : SolverConfig) : Except Error Unit :=
  if c.maxFacts = 0 then .error (.config .zeroFacts)
  else if c.maxSteps = 0 then .error (.config .zeroSteps)
  else if c.search.truncatedVariables = 0 ∨ c.search.truncatedDomainSize = 0 then .error (.config .emptyTruncation)
  else if c.search.maxFreeVariables < c.search.truncatedVariables
      ∨ c.search.maxDomainSize < c.search.truncatedDomainSize then
    .error (.config (.wideTruncation c.search.truncatedVariables c.search.truncatedDomainSize
      c.search.maxFreeVariables c.search.maxDomainSize))
  else .ok ()

theorem validate_eq_ok_iff {c : SolverConfig} : c.validate = .ok () ↔ (0 < c.maxFacts ∧ 0 < c.maxSteps) ∧
    (0 < c.search.truncatedVariables ∧ c.search.truncatedVariables ≤ c.search.maxFreeVariables) ∧
    (0 < c.search.truncatedDomainSize ∧ c.search.truncatedDomainSize ≤ c.search.maxDomainSize) := by
  unfold validate
  repeat' split
  all_goals simp only [reduceCtorEq, true_iff, false_iff]
  all_goals omega

end SolverConfig

end LogicGrid
