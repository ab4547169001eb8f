import LogicGrid.Json.Printer
import LogicGrid.Json.Reader
import LogicGrid.KnowledgeBase

/-!
# Puzzles as JSON

A term is an object with one member, which names its kind and holds its name; a compound holds its functor and its
arguments as an array of two. Facts, rules and knowledge bases are records. A rule that is read may lack antecedents, and
facts that a knowledge base repeats are taken once.
-/

namespace LogicGrid

/-! ## Terms -/

mutual

/-- A term as JSON. -/
def Term.toJson : Term → Json
  | .const c => .obj [("Constant", .str c)]
  | .var x => .obj [("Variable", .str x)]
  | .app f args => .obj [("Compound", .arr [.str f, .arr (Term.argsToJson args)])]

/-- Arguments as JSON. -/
def Term.argsToJson : List Term → List Json
  | [] => []
  | t :: ts => t.toJson :: Term.argsToJson ts

end

mutual

/-- Reads a term. -/
def Term.ofJson? : Json → Option Term
  | .obj [(kind, .str name)] =>
    if kind = "Constant" then some (.const name) else if kind = "Variable" then some (.var name) else none
  | .obj [(kind, .arr [.str f, .arr args])] =>
    if kind = "Compound" then (Term.argsOfJson? args).map (.app f) else none
  | _ => none

/-- Reads arguments. -/
def Term.argsOfJson? : List Json → Option (List Term)
  | [] => some []
  | v :: vs =>
    match Term.ofJson? v, Term.argsOfJson? vs with
    | some t, some ts => some (t :: ts)
    | _, _ => none

end

/-! ## Facts, rules and knowledge bases -/

/-- Reads an array item by item. -/
def Json.list? {α : Type _} (read : Json → Option α) : Json → Option (List α)
  | .arr items => items.mapM read
  | _ => none

/-- A fact as JSON. -/
def Fact.toJson (f : Fact) : Json := .obj [("predicate", .str f.predicate), ("args", .arr (f.args.map Term.toJson))]

/-- Reads a fact. -/
def Fact.ofJson? (v : Json) : Option Fact :=
  match v.record? ["predicate", "args"] with
  | some [some (.str predicate), some args] => (Json.list? Term.ofJson? args).map (⟨predicate, ·⟩)
  | _ => none

/-- A rule as JSON. -/
def Rule.toJson (r : Rule) : Json :=
  .obj [("antecedents", .arr (r.antecedents.map Fact.toJson)), ("consequent", r.consequent.toJson)]

/-- Reads a rule. -/
def Rule.ofJson? (v : Json) : Option Rule :=
  match v.record? ["antecedents", "consequent"] with
  | some [some antecedents, some consequent] => do
    let antecedents ← Json.list? Fact.ofJson? antecedents
    let consequent ← Fact.ofJson? consequent
    return ⟨antecedents, consequent⟩
  | _ => none

/-- Distinct facts as JSON. -/
def FactSet.toJson (s : FactSet) : Json := .arr (s.toList.map Fact.toJson)

/-- Reads facts and keeps the first of equal ones. -/
def FactSet.ofJson? (v : Json) : Option FactSet := (Json.list? Fact.ofJson? v).map FactSet.ofList

/-- A knowledge base as JSON. -/
def KnowledgeBase.toJson (kb : KnowledgeBase) : Json :=
  .obj [("facts", kb.facts.toJson), ("rules", .arr (kb.rules.map Rule.toJson)), ("max_facts", .nat kb.maxFacts)]

/-- Reads a knowledge base. -/
def KnowledgeBase.ofJson? (v : Json) : Option KnowledgeBase :=
  match v.record? ["facts", "rules", "max_facts"] with
  | some [some facts, some rules, some (.nat maxFacts)] => do
    let facts ← FactSet.ofJson? facts
    let rules ← Json.list? Rule.ofJson? rules
    return ⟨facts, rules, maxFacts⟩
  | _ => none

/-! ## Text -/

/-- Reads a value of some kind from JSON text. -/
def Json.decode {α : Type _} (read : Json → Option α) (s : String) : Except Error α :=
  match (Json.parse? s).bind read with
  | some a => .ok a
  | none => .error .undecodable

end LogicGrid
