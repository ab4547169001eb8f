import LogicGrid.FactSet
import LogicGrid.Rule

/-!
# Knowledge bases

Distinct facts, an ordered list of rules and a ceiling on the number of facts. Deduction runs in passes: every rule of a
pass reads the facts present at its start, and what is new is added at its end.

* `KnowledgeBase.forwardChain` – one pass, with a record of what it derived;
* `KnowledgeBase.saturate` – passes until nothing new comes, the ceiling is passed or the passes are used up;
* `KnowledgeBase.assign` – replaces a variable in all facts.
-/

namespace LogicGrid

/-- Facts, rules, and the number of facts that deduction must not exceed. -/
structure KnowledgeBase where
  facts : FactSet
  rules : List Rule
  maxFacts : Nat
deriving DecidableEq, Repr, Inhabited

/-- A fact that a pass added, and the place of the first rule that yields it. -/
structure Derivation where
  rule : Nat
  fact : Fact
deriving DecidableEq, Repr

/-- What one pass did. -/
structure Pass where
  /-- The new facts in the order in which they were added. -/
  derived : List Derivation
  /-- Whether there are now more facts than allowed. -/
  limitExceeded : Bool
deriving DecidableEq, Repr

namespace Pass

/-- The number of new facts. -/
def added (p : Pass) : Nat := p.derived.length

/-- Whether any fact is new. -/
def changed (p : Pass) : Bool := !p.derived.isEmpty

end Pass

/-- What a run of passes did. A run that neither reached a fixpoint nor exceeded the limit used up its passes. -/
structure Saturation where
  passes : Nat := 0
  /-- The passes that added a fact. -/
  productivePasses : Nat := 0
  /-- The number of added facts. -/
  derived : Nat := 0
  /-- Whether the last pass added nothing, within the limit. -/
  fixpoint : Bool := false
  /-- Whether there are more facts than allowed. -/
  limitExceeded : Bool := false
deriving DecidableEq, Repr

namespace Saturation

/-- Whether the passes were used up. -/
def outOfSteps (s : Saturation) : Bool := !s.fixpoint && !s.limitExceeded

/-- The record with one more pass in front. -/
def after (p : Pass) (s : Saturation) : Saturation :=
  { s with
    passes := s.passes + 1
    productivePasses := s.productivePasses + if p.changed then 1 else 0
    derived := s.derived + p.added }

end Saturation

namespace KnowledgeBase

/-- The limit on the number of facts where none is given. -/
def defaultMaxFacts : Nat := 100

/-- The knowledge base of some facts and rules, with the default limit. -/
def ofContents (facts : List Fact) (rules : List Rule) : KnowledgeBase :=
  ⟨.ofList facts, rules, defaultMaxFacts⟩

/-- No facts and no rules. -/
def empty : KnowledgeBase := ofContents [] []

/-- Adds a fact, unless it is there. -/
def addFact (kb : KnowledgeBase) (f : Fact) : KnowledgeBase := { kb with facts := kb.facts.insert f }

/-- Adds facts one after another. -/
def addFacts (kb : KnowledgeBase) (fs : List Fact) : KnowledgeBase := { kb with facts := kb.facts.insertAll fs }

/-- Adds a rule behind the others. -/
def addRule (kb : KnowledgeBase) (r : Rule) : KnowledgeBase := { kb with rules := kb.rules ++ [r] }

/-- Whether all facts are ground. -/
def isComplete (kb : KnowledgeBase) : Bool := kb.facts.toList.all Fact.isGround

/-- The ground facts, in their order. -/
def groundFacts (kb : KnowledgeBase) : List Fact := kb.facts.toList.filter Fact.isGround

/-! ## Deduction -/

/-- Everything the rules yield from the facts, known or not, rule by rule. -/
def consequences (kb : KnowledgeBase) : List Derivation :=
  kb.rules.zipIdx.flatMap fun (r, i) => (r.apply kb.facts.toList).map fun f => ⟨i, f⟩

/-- The first derivation of each fact that is not known. -/
def firstDerivations (known : FactSet) : List Derivation → List Derivation
  | [] => []
  | d :: ds =>
    if d.fact ∈ known then firstDerivations known ds
    else d :: firstDerivations (known.insert d.fact) ds

/-- One pass: adds what the rules yield from the present facts. -/
def forwardChain (kb : KnowledgeBase) : KnowledgeBase × Pass :=
  let derived := firstDerivations kb.facts kb.consequences
  let kb' := kb.addFacts (derived.map Derivation.fact)
  (kb', ⟨derived, decide (kb.maxFacts < kb'.facts.size)⟩)

/-- Runs at most `n` passes. It stops after a pass that exceeds the limit, or else after one that adds nothing. -/
def saturate : Nat → KnowledgeBase → KnowledgeBase × Saturation
  | 0, kb => (kb, {})
  | n + 1, kb =>
    let (kb', pass) := kb.forwardChain
    if pass.limitExceeded then (kb', .after pass { limitExceeded := true })
    else if !pass.changed then (kb', .after pass { fixpoint := true })
    else
      let (kb'', s) := saturate n kb'
      (kb'', .after pass s)

/-! ## Assignment -/

/-- Replaces the variable `x` by `v` in all facts. The facts with `x` leave their places, and their instances come in at
the end. Nothing happens when `x` occurs in `v`. -/
def assign (kb : KnowledgeBase) (x : String) (v : Term) : KnowledgeBase :=
  if v.occurs x then kb
  else
    { kb with
      facts := (kb.facts.filter fun f => !f.mentions x).insertAll
        ((kb.facts.toList.filter (·.mentions x)).map (·.replace x v)) }

/-- The number of facts that `assign` replaces. -/
def assigned (kb : KnowledgeBase) (x : String) (v : Term) : Nat :=
  if v.occurs x then 0 else kb.facts.toList.countP (·.mentions x)

end KnowledgeBase

end LogicGrid
