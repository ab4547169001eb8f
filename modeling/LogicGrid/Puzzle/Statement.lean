import LogicGrid.Puzzle.Clause
import LogicGrid.Rule
import LogicGrid.Text.Word

/-!
# Statements

A line of puzzle text is a fact, a rule, a comment, or something else, which is passed over:

```text
// comments start with // or #
hecho: (vive_en, juan, casa_roja)
regla: (vive_en, X, H) AND (casa, color, H, rojo) -> (es, X, ingles)
```

The keywords are `hecho` or `fact` and `regla` or `rule`, in upper or lower case.

* `ruleParts?` – where the arrow of a rule stands;
* `splitConjunction` – the clauses between the words `AND` that are not inside parentheses;
* `readStatement` – a whole line.
-/

namespace LogicGrid.Puzzle

open Text

/-- What a line adds to a puzzle. -/
inductive Statement where
  | fact (f : Fact)
  | rule (r : Rule)
deriving DecidableEq, Repr

/-! ## Keywords -/

/-- What follows a word in lower case at the start of a text, in which the case of letters does not matter. -/
def dropWord? : List Char → List Char → Option (List Char)
  | [], cs => some cs
  | _ :: _, [] => none
  | k :: ks, c :: cs => if c.toLower = k then dropWord? ks cs else none

/-- What follows a colon, which may have blanks in front. -/
def dropColon? (cs : List Char) : Option (List Char) :=
  match trimStart cs with
  | ':' :: rest => some rest
  | _ => none

/-- What follows one of the keywords and a colon. -/
def statementBody? (keywords : List String) (line : List Char) : Option (List Char) :=
  keywords.findSome? fun k => (dropWord? k.toList line).bind dropColon?

/-- The keywords of facts. -/
def factKeywords : List String := ["hecho", "fact"]

/-- The keywords of rules. -/
def ruleKeywords : List String := ["regla", "rule"]

/-! ## Rules -/

/-- What stands in front of the first arrow and behind it. -/
def cutArrow : List Char → Option (List Char × List Char)
  | [] => none
  | '-' :: '>' :: cs => some ([], cs)
  | c :: cs => (cutArrow cs).map fun r => (c :: r.1, r.2)

/-- The antecedents and the consequent of a rule, when there is an arrow with something in front and something behind.
An arrow at the very start has only blanks in front, and these suffice if there is no later arrow. -/
def ruleParts? (body : List Char) : Option (List Char × List Char) :=
  let text := trimStart body
  let later := (cutArrow text.tail).filter fun r => !r.2.isEmpty
  match later, text with
  | some (antecedents, consequent), c :: _ => some (trimEnd (c :: antecedents), trimStart consequent)
  | none, '-' :: '>' :: c :: consequent =>
    if text.length < body.length then some ([], trimStart (c :: consequent)) else none
  | _, _ => none

/-- What follows the word `AND` at the start of a text, if a word ends there. -/
def dropConjunction? (cs : List Char) : Option (List Char) :=
  (dropWord? ['a', 'n', 'd'] cs).filter fun rest => !(rest.head?.any isWordChar)

theorem length_dropWord? : ∀ {ks cs rest : List Char}, dropWord? ks cs = some rest →
    rest.length + ks.length = cs.length
  | [], _, _, h => by cases h; rfl
  | _ :: _, [], _, h => by cases h
  | k :: ks, c :: cs, rest, h => by
    rw [dropWord?] at h
    split at h
    · rw [List.length_cons, List.length_cons, ← length_dropWord? h, Nat.add_assoc]
    · cases h

theorem length_dropConjunction? {cs rest : List Char} (h : dropConjunction? cs = some rest) :
    rest.length < cs.length := by
  have := length_dropWord? (Option.filter_eq_some_iff.mp h).1
  simp only [List.length_cons, List.length_nil] at this
  omega

/-- The change of depth at a character. -/
def depthChange (c : Char) : Int := if c = '(' then 1 else if c = ')' then -1 else 0

/-- The texts between the words `AND` outside parentheses. `depth` is the number of parentheses that are open in front of
the text, and `afterWord` tells whether a word leads up to it. -/
def splitConjunction (afterWord : Bool) (depth : Int) : List Char → List (List Char)
  | [] => [[]]
  | c :: cs =>
    match _h : if afterWord || depth ≠ 0 then none else dropConjunction? (c :: cs) with
    | some rest => [] :: splitConjunction true 0 rest
    | none => extendFirst c (splitConjunction (isWordChar c) (depth + depthChange c) cs)
termination_by cs => cs.length
decreasing_by
  · split at _h
    · cases _h
    · exact length_dropConjunction? _h
  · exact Nat.lt_succ_self _

/-- Reads clauses up to the first malformed one. -/
def readFacts : List (List Char) → Except SyntaxError (List Fact)
  | [] => .ok []
  | p :: ps =>
    match readFact p with
    | .ok f => (readFacts ps).map (f :: ·)
    | .error e => .error e

/-- Reads the antecedents of a rule, then its consequent. -/
def readRule (antecedents consequent : List Char) : Except SyntaxError Rule :=
  match readFacts (splitConjunction false 0 antecedents) with
  | .ok fs => (readFact consequent).map (⟨fs, ·⟩)
  | .error e => .error e

/-! ## Lines -/

/-- Whether a line without blanks around it holds no statement. -/
def isComment (line : List Char) : Bool :=
  line.isEmpty || ['/', '/'].isPrefixOf line || ['#'].isPrefixOf line

/-- Reads a line. Lines that are neither facts nor rules say nothing. -/
def readStatement (cs : List Char) : Except SyntaxError (Option Statement) :=
  let line := trim cs
  if isComment line then .ok none
  else
    match (statementBody? ruleKeywords line).bind ruleParts? with
    | some (antecedents, consequent) => (readRule antecedents consequent).map fun r => some (.rule r)
    | none =>
      match statementBody? factKeywords line with
      | some (c :: body) => (readFact (c :: body)).map fun f => some (.fact f)
      | _ => .ok none

end LogicGrid.Puzzle
