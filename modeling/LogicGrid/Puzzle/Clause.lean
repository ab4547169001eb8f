import LogicGrid.Error
import LogicGrid.Text.Blank
import LogicGrid.Text.Name

/-!
# Clauses

A clause is written `(predicate, argument, …)`. An argument is a name, or a functor with its own arguments in parentheses;
blanks around names, commas and parentheses do not matter. A name in the shape of a variable is one, any other name is a
constant.

* `splitCommas` – the parts between the commas that are not inside parentheses; `weight_splitCommas` says that together
  with the commas they make up the text;
* `shape` – a term taken apart at its outermost parentheses;
* `readTerm` and `readFact` – terms and clauses.
-/

namespace LogicGrid.Puzzle

open Text

/-- Puts a character in front of the first part. -/
def extendFirst (c : Char) : List (List Char) → List (List Char)
  | [] => [[c]]
  | p :: ps => (c :: p) :: ps

/-- The parts of a text between its commas, where `n` parentheses are open in front of it. Commas inside parentheses do
not count. The text is refused when its parentheses are not balanced. -/
def splitCommas : Nat → List Char → Option (List (List Char))
  | 0, [] => some [[]]
  | _ + 1, [] => none
  | n, '(' :: cs => (splitCommas (n + 1) cs).map (extendFirst '(')
  | 0, ')' :: _ => none
  | n + 1, ')' :: cs => (splitCommas n cs).map (extendFirst ')')
  | 0, ',' :: cs => (splitCommas 0 cs).map ([] :: ·)
  | n, c :: cs => (splitCommas n cs).map (extendFirst c)

/-- The lengths of parts, each with one more for the comma behind it. -/
def weight : List (List Char) → Nat
  | [] => 0
  | p :: ps => p.length + 1 + weight ps

theorem weight_extendFirst {c : Char} {ps : List (List Char)} (h : 0 < weight ps) :
    weight (extendFirst c ps) = weight ps + 1 := by
  cases ps with
  | nil => cases h
  | cons p ps =>
    simp only [extendFirst, weight, List.length_cons]
    omega

theorem weight_splitCommas {n : Nat} {cs : List Char} {ps : List (List Char)} (h : splitCommas n cs = some ps) :
    weight ps = cs.length + 1 := by
  fun_induction splitCommas n cs generalizing ps with
  | case1 => cases h; rfl
  | case2 => cases h
  | case3 n cs ih =>
    obtain ⟨qs, hq, rfl⟩ := Option.map_eq_some_iff.mp h
    rw [weight_extendFirst (by rw [ih hq]; exact Nat.succ_pos _), ih hq, List.length_cons]
  | case4 => cases h
  | case5 n cs ih =>
    obtain ⟨qs, hq, rfl⟩ := Option.map_eq_some_iff.mp h
    rw [weight_extendFirst (by rw [ih hq]; exact Nat.succ_pos _), ih hq, List.length_cons]
  | case6 cs ih =>
    obtain ⟨qs, hq, rfl⟩ := Option.map_eq_some_iff.mp h
    rw [weight, ih hq, List.length_nil, List.length_cons]
    omega
  | case7 n c cs _ _ _ _ ih =>
    obtain ⟨qs, hq, rfl⟩ := Option.map_eq_some_iff.mp h
    rw [weight_extendFirst (by rw [ih hq]; exact Nat.succ_pos _), ih hq, List.length_cons]

/-- A text without the character at its end, if it ends with it. -/
def dropLast? (c : Char) (cs : List Char) : Option (List Char) :=
  if cs.getLast? = some c then some cs.dropLast else none

theorem length_dropLast? {c : Char} {cs ds : List Char} (h : dropLast? c cs = some ds) :
    ds.length + 1 = cs.length := by
  rw [dropLast?] at h
  split at h
  · next hl =>
    cases h
    rw [List.length_dropLast]
    cases cs with
    | nil => cases hl
    | cons => simp
  · cases h

/-- What stands in front of the first opening parenthesis and behind it. -/
def cutParenthesis (cs : List Char) : Option (List Char × List Char) :=
  match cs.dropWhile (· != '(') with
  | [] => none
  | _ :: rest => some (cs.takeWhile (· != '('), rest)

theorem length_cutParenthesis {cs functor rest : List Char} (h : cutParenthesis cs = some (functor, rest)) :
    rest.length < cs.length := by
  unfold cutParenthesis at h
  split at h
  · cases h
  · next e =>
    cases h
    have : (cs.dropWhile (· != '(')).length ≤ cs.length := (List.dropWhile_suffix _).length_le
    rw [e, List.length_cons] at this
    omega

/-- A term taken apart at its outermost parentheses. -/
inductive Shape where
  | name (name : List Char)
  | application (functor : List Char) (args : List (List Char))

/-- Takes a term apart, or tells why it is malformed. Blank parentheses hold no argument. -/
def shape (cs : List Char) : Except SyntaxError Shape :=
  let text := trim cs
  if text.isEmpty then .error .emptyArgument
  else
    match cutParenthesis text with
    | some (functor, rest) =>
      match dropLast? ')' rest with
      | some inner =>
        if (trim functor).isEmpty then .error (.missingFunctor (String.ofList text))
        else if (trim inner).isEmpty then .ok (.application (trim functor) [])
        else
          match splitCommas 0 inner with
          | some args => .ok (.application (trim functor) args)
          | none => .error (.unbalanced (String.ofList inner))
      | none => .error (.unbalanced (String.ofList text))
    | none => if text.contains ')' then .error (.unbalanced (String.ofList text)) else .ok (.name text)

/-- The arguments of a term are shorter than the term. -/
theorem weight_shape {cs functor : List Char} {args : List (List Char)}
    (h : shape cs = .ok (.application functor args)) : weight args ≤ cs.length := by
  simp only [shape] at h
  split at h
  · cases h
  split at h
  · next rest hc =>
    split at h
    · next inner hd =>
      split at h
      · cases h
      split at h
      · cases h
        exact Nat.zero_le _
      split at h
      · next hs =>
        cases h
        have := weight_splitCommas hs
        have := length_dropLast? hd
        have := length_cutParenthesis hc
        have := length_trim_le cs
        omega
      · cases h
    · cases h
  · split at h <;> cases h

/-- The term of a name. -/
def nameTerm (name : List Char) : Term :=
  if isVariableName name then .var (String.ofList name) else .const (String.ofList name)

mutual

/-- Reads a term. -/
def readTerm (cs : List Char) : Except SyntaxError Term :=
  match _h : shape cs with
  | .ok (.name name) => .ok (nameTerm name)
  | .ok (.application functor args) => (readTerms args).map (.app (String.ofList functor))
  | .error e => .error e
termination_by 2 * cs.length + 1
decreasing_by
  have := weight_shape _h
  omega

/-- Reads terms up to the first malformed one. -/
def readTerms : List (List Char) → Except SyntaxError (List Term)
  | [] => .ok []
  | p :: ps =>
    match readTerm p with
    | .ok t => (readTerms ps).map (t :: ·)
    | .error e => .error e
termination_by ps => 2 * weight ps
decreasing_by
  all_goals
    simp only [weight]
    omega

end

/-- What stands between the parentheses of a clause. -/
def clauseBody? : List Char → Option (List Char)
  | '(' :: rest => dropLast? ')' rest
  | _ => none

/-- Reads a clause. -/
def readFact (cs : List Char) : Except SyntaxError Fact :=
  let text := trim cs
  match clauseBody? text with
  | none => .error (.expectedClause (String.ofList text))
  | some inner =>
    match splitCommas 0 inner with
    | none => .error (.unbalanced (String.ofList inner))
    | some [] => .error (.missingPredicate (String.ofList text))
    | some (p :: args) =>
      let predicate := trim p
      if predicate.isEmpty then .error (.missingPredicate (String.ofList text))
      else if predicate.contains '(' || predicate.contains ')' then
        .error (.invalidPredicate (String.ofList predicate))
      else (readTerms args).map (⟨String.ofList predicate, ·⟩)

end LogicGrid.Puzzle
