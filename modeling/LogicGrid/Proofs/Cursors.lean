import LogicGrid.Matching

/-!
# Matching with cursors

A matching in progress can be kept as a stack of cursors, one for each clause that is being matched: a cursor holds
the bindings for the clauses in front of its own and the position of the fact to try next. Its clause is not stored; it
is the one at the depth of the cursor. Below the last clause a cursor stands for a complete match. Asked for the next
match, a loop works on the top of the stack, one turn after another: it gives a complete match and pops it, drops a
cursor that is past the last fact, or tries a fact.

The stack never gets deeper than the clauses allow (`Fits`), and then it stands for partial matches (`pending`) on which
every turn does what `nextOf` does, with fewer steps left (`turn_cases`). So a call ends, with the answer of
`Matching.next?` (`exists_nextWithin`), and the answers of all calls are the matches of the nested loops, in their order
and with their repetitions, and nothing after the last one (`cursors_exact`).
-/

namespace LogicGrid

open Matching

/-- A clause being matched: the bindings for the clauses in front of it, and the position of the fact to try next. -/
structure Cursor where
  bindings : Substitution
  position : Nat

namespace Cursor

/-- What one turn of the loop comes to. -/
inductive Turn where
  /-- No cursor is left. -/
  | exhausted
  /-- A complete match, and the cursors that are left. -/
  | found (bindings : Substitution) (rest : List Cursor)
  /-- The loop goes on with these cursors. -/
  | again (stack : List Cursor)

/-- The cursor at the next fact. -/
def advance (c : Cursor) : Cursor := { c with position := c.position + 1 }

section Loop

variable (clauses facts : List Fact)

/-- One turn of the loop on a stack of cursors, the deepest one in front. There is none where no clause stands at the
depth of the deepest cursor. -/
def turn : List Cursor → Option Turn
  | [] => some .exhausted
  | c :: cs =>
    if cs.length = clauses.length then some (.found c.bindings cs)
    else clauses[cs.length]?.map fun clause =>
      match facts[c.position]? with
      | none => .again cs
      | some fact =>
        match matchClause? c.bindings clause fact with
        | some σ => .again (⟨σ, 0⟩ :: c.advance :: cs)
        | none => .again (c.advance :: cs)

/-- The answer of one call and the cursors that are left, by at most that many turns. -/
def nextWithin : Nat → List Cursor → Option (Option Substitution × List Cursor)
  | 0, _ => none
  | n + 1, stack =>
    match turn clauses facts stack with
    | none => none
    | some .exhausted => some (none, [])
    | some (.found σ rest) => some (some σ, rest)
    | some (.again stack') => nextWithin n stack'

/-- The answers of `k` calls, each of at most `n` turns. -/
def callsWithin (n : Nat) : Nat → List Cursor → Option (List (Option Substitution))
  | 0, _ => some []
  | k + 1, stack =>
    (nextWithin clauses facts n stack).bind fun r => (callsWithin n k r.2).map (r.1 :: ·)

/-- The partial matches that the cursors stand for. -/
def pending : List Cursor → List PartialMatch
  | [] => []
  | c :: cs => ⟨c.bindings, clauses.drop cs.length, facts.drop c.position⟩ :: pending cs

/-- The steps left to the end of the matching, at most. -/
def weight (stack : List Cursor) : Nat := weightOf (facts.length + 2) (pending clauses facts stack)

/-- At most one cursor for each clause, and one below the last clause. -/
def Fits (stack : List Cursor) : Prop := stack.length ≤ clauses.length + 1

end Loop

variable {clauses facts : List Fact} {clause fact : Fact} {c : Cursor} {cs stack : List Cursor} {σ : Substitution}

/-! ## One turn -/

theorem drop_eq_cons {α : Type} {l : List α} {i : Nat} {a : α} (h : l[i]? = some a) :
    l.drop i = a :: l.drop (i + 1) := by
  obtain ⟨hi, rfl⟩ := List.getElem?_eq_some_iff.mp h
  exact List.drop_eq_getElem_cons hi

/-- Below the last clause a match is complete. -/
theorem pending_complete (h : cs.length = clauses.length) :
    pending clauses facts (c :: cs) = ⟨c.bindings, [], facts.drop c.position⟩ :: pending clauses facts cs := by
  rw [pending, h, List.drop_length]

/-- Past the last fact nothing is untried. -/
theorem pending_past (hc : clauses[cs.length]? = some clause) (hf : facts[c.position]? = none) :
    pending clauses facts (c :: cs) =
      ⟨c.bindings, clause :: clauses.drop (cs.length + 1), []⟩ :: pending clauses facts cs := by
  rw [pending, drop_eq_cons hc, List.drop_eq_nil_of_le (List.getElem?_eq_none_iff.mp hf)]

/-- The fact at the position is the next one to try. -/
theorem pending_try (hc : clauses[cs.length]? = some clause) (hf : facts[c.position]? = some fact) :
    pending clauses facts (c :: cs) =
      ⟨c.bindings, clause :: clauses.drop (cs.length + 1), fact :: facts.drop (c.position + 1)⟩ ::
        pending clauses facts cs := by
  rw [pending, drop_eq_cons hc, drop_eq_cons hf]

/-- After the try the cursor is one fact further. -/
theorem pending_advance (hc : clauses[cs.length]? = some clause) :
    pending clauses facts (c.advance :: cs) =
      ⟨c.bindings, clause :: clauses.drop (cs.length + 1), facts.drop (c.position + 1)⟩ ::
        pending clauses facts cs := by
  rw [pending, drop_eq_cons hc, advance]

/-- **What one turn does.** It finds the end of the matching, or the next match, or goes on with cursors from which the
next match is the same and less is left to do. -/
theorem turn_cases (facts : List Fact) (h : Fits clauses stack) :
    (stack = [] ∧ turn clauses facts stack = some .exhausted) ∨
    (∃ σ rest, turn clauses facts stack = some (.found σ rest) ∧ Fits clauses rest ∧
      nextOf facts (pending clauses facts stack) = some (σ, pending clauses facts rest)) ∨
    ∃ stack', turn clauses facts stack = some (.again stack') ∧ Fits clauses stack' ∧
      nextOf facts (pending clauses facts stack) = nextOf facts (pending clauses facts stack') ∧
      weight clauses facts stack' < weight clauses facts stack := by
  cases stack with
  | nil => exact .inl ⟨rfl, rfl⟩
  | cons c cs =>
    have hle : cs.length ≤ clauses.length := Nat.le_of_succ_le_succ h
    have hcs : Fits clauses cs := Nat.le_succ_of_le hle
    by_cases hd : cs.length = clauses.length
    · refine .inr (.inl ⟨c.bindings, cs, by rw [turn, if_pos hd], hcs, ?_⟩)
      rw [pending_complete hd, nextOf]
    · have hlt : cs.length < clauses.length := by omega
      have hc : clauses[cs.length]? = some clauses[cs.length] := List.getElem?_eq_getElem hlt
      cases hf : facts[c.position]? with
      | none =>
        refine .inr (.inr ⟨cs, by simp [turn, hd, hf, hlt], hcs, ?_, ?_⟩)
        · rw [pending_past hc hf, nextOf]
        · rw [weight, weight, pending_past hc hf]
          exact weightOf_exhausted_lt (Nat.zero_lt_succ _) ..
      | some fact =>
        cases hm : matchClause? c.bindings clauses[cs.length] fact with
        | none =>
          refine .inr (.inr ⟨c.advance :: cs, by simp [turn, hd, hf, hlt, hm], h, ?_, ?_⟩)
          · rw [pending_try hc hf, nextOf, hm, pending_advance hc]
          · rw [weight, weight, pending_try hc hf, pending_advance hc]
            exact weightOf_skip_lt (Nat.zero_lt_succ _) ..
        | some σ =>
          have hdeep : Fits clauses (⟨σ, 0⟩ :: c.advance :: cs) := by
            simp only [Fits, List.length_cons]
            omega
          have hpending : pending clauses facts (⟨σ, 0⟩ :: c.advance :: cs) =
              ⟨σ, clauses.drop (cs.length + 1), facts⟩ ::
                pending clauses facts (c.advance :: cs) := by
            rw [pending, List.length_cons, List.drop_zero]
          refine .inr (.inr ⟨_, by simp [turn, hd, hf, hlt, hm], hdeep, ?_, ?_⟩)
          · rw [pending_try hc hf, nextOf, hm, hpending, pending_advance hc]
          · rw [weight, weight, pending_try hc hf, hpending, pending_advance hc]
            exact weightOf_descend_lt ..

/-! ## Calls -/

/-- **A call ends, with the answer of `Matching.next?`.** The induction is on the turns that are allowed: each one leaves
less to do. -/
theorem exists_nextWithin {n : Nat} (h : Fits clauses stack) (hn : weight clauses facts stack < n) :
    ∃ rest, nextWithin clauses facts n stack = some ((nextOf facts (pending clauses facts stack)).map (·.1), rest) ∧
      Fits clauses rest ∧ pending clauses facts rest = (nextOf facts (pending clauses facts stack)).elim [] (·.2) := by
  induction n generalizing stack with
  | zero => exact absurd hn (Nat.not_lt_zero _)
  | succ n ih =>
    rcases turn_cases facts h with ⟨rfl, ht⟩ | ⟨σ, rest, ht, hrest, hnext⟩ | ⟨stack', ht, h', hnext, hlt⟩
    · exact ⟨[], by simp [nextWithin, ht, pending, nextOf], Nat.zero_le _, by simp [pending, nextOf]⟩
    · exact ⟨rest, by simp [nextWithin, ht, hnext], hrest, by simp [hnext]⟩
    · obtain ⟨rest, hr, hfits, hpending⟩ := ih h' (Nat.lt_of_lt_of_le hlt (Nat.le_of_lt_succ hn))
      exact ⟨rest, by rw [nextWithin, ht, hnext]; exact hr, hfits, by rw [hpending, hnext]⟩

end Cursor

/-- The first `k` places of a list, and nothing behind its end. -/
def firstPlaces {α : Type} (l : List α) (k : Nat) : List (Option α) := (List.range k).map fun i => l[i]?

theorem firstPlaces_succ {α : Type} (l : List α) (k : Nat) : firstPlaces l (k + 1) = l.head? :: firstPlaces l.tail k := by
  rw [firstPlaces, List.range_succ_eq_map, List.map_cons, List.map_map, List.head?_eq_getElem?, firstPlaces]
  simp [Function.comp_def]

namespace Matching

variable {m m' : Matching} {σ : Substitution}

/-- The answers of `k` calls. A call that finds nothing leaves the matching as it is. -/
def answers : Nat → Matching → List (Option Substitution)
  | 0, _ => []
  | k + 1, m =>
    match m.next? with
    | none => none :: answers k m
    | some (σ, m') => some σ :: answers k m'

theorem toList_of_none (h : m.next? = none) : m.toList = [] := by
  rw [toList]
  split <;> simp_all

theorem toList_of_some (h : m.next? = some (σ, m')) : m.toList = σ :: m'.toList := by
  rw [toList]
  split <;> simp_all

/-- The calls give the complete matches one by one, and nothing after the last one. -/
theorem answers_eq : ∀ (k : Nat) (m : Matching), m.answers k = firstPlaces m.toList k
  | 0, _ => rfl
  | k + 1, m => by
    rw [answers, firstPlaces_succ]
    cases h : m.next? with
    | none =>
      have hnil : m.toList = [] := toList_of_none h
      simp [answers_eq k m, hnil]
    | some r => simp [answers_eq k r.2, toList_of_some h]

end Matching

namespace Cursor

variable {clauses facts : List Fact} {stack : List Cursor}

/-- The calls on a stack give the matches that the partial matches have. -/
theorem callsWithin_eq {n : Nat} : ∀ (k : Nat) {stack : List Cursor}, Fits clauses stack →
    weight clauses facts stack < n →
      callsWithin clauses facts n k stack = some (firstPlaces (toList ⟨facts, pending clauses facts stack⟩) k)
  | 0, _, _, _ => rfl
  | k + 1, stack, h, hn => by
    obtain ⟨rest, hr, hrest, hpending⟩ := exists_nextWithin h hn
    rw [callsWithin, hr, Option.bind_some, firstPlaces_succ]
    cases hnext : nextOf facts (pending clauses facts stack) with
    | none =>
      rw [hnext, Option.elim_none] at hpending
      have hlist : toList ⟨facts, pending clauses facts stack⟩ = [] := toList_of_none (by simp [next?, hnext])
      have hlist' : toList ⟨facts, pending clauses facts rest⟩ = [] :=
        toList_of_none (by simp [next?, hpending, nextOf])
      have hw : weight clauses facts rest < n := by
        rw [weight, hpending]
        exact Nat.lt_of_le_of_lt (Nat.zero_le _) hn
      rw [callsWithin_eq k hrest hw, hlist, hlist']
      rfl
    | some r =>
      rw [hnext, Option.elim_some] at hpending
      have hlist : toList ⟨facts, pending clauses facts stack⟩ = r.1 :: toList ⟨facts, r.2⟩ :=
        toList_of_some (by simp [next?, hnext])
      have hw : weight clauses facts rest < n := by
        rw [weight, hpending]
        exact Nat.lt_trans (weightOf_nextOf hnext) hn
      rw [callsWithin_eq k hrest hw, hlist, hpending]
      rfl

end Cursor

/-- **Matching on demand is matching by nested loops.** From the start a matching gives exactly the matches of the nested
loops, in the same order and with repetitions, and every call after the last one finds nothing. The same answers come
from a stack of cursors: there is a number of turns within which every call ends, however many calls are made. -/
theorem cursors_exact (clauses facts : List Fact) :
    (Matching.start clauses facts).toList = nestedMatches facts .empty clauses ∧
    (∀ k, (Matching.start clauses facts).answers k =
      (List.range k).map fun i => (nestedMatches facts .empty clauses)[i]?) ∧
    ∃ n, ∀ k, Cursor.callsWithin clauses facts n k [⟨.empty, 0⟩] =
      some ((List.range k).map fun i => (nestedMatches facts .empty clauses)[i]?) := by
  have hstart : Cursor.pending clauses facts [⟨.empty, 0⟩] = (Matching.start clauses facts).pending := rfl
  refine ⟨toList_start clauses facts, fun k => ?_, Cursor.weight clauses facts [⟨.empty, 0⟩] + 1, fun k => ?_⟩
  · rw [answers_eq, toList_start, firstPlaces]
  · rw [Cursor.callsWithin_eq k (Nat.le_add_left 1 _) (Nat.lt_succ_self _), hstart]
    exact congrArg (fun l => some (firstPlaces l k)) (toList_start clauses facts)

/-- Without clauses there is one match, of no bindings. -/
example : (Matching.start [] []).answers 3 = [some .empty, none, none] := by cbv

end LogicGrid
