import LogicGrid.Proofs.Statements
import Mathlib.Data.List.Chain

/-!
# Rules with several antecedents

A line `regla: c AND … AND c' -> d` of clauses is read as the rule of their facts (`ofText_ruleLine`), wherever the word
`AND` stands inside the clauses, and wherever further arrows stand in the consequent.

* **The arrow.** No clause in front of it contains one, and none comes about where clauses and words meet, as blanks
  stand between them (`Arrowless.append_blank`). So the rule is cut at its own arrow (`ruleParts?_conjoin`).
* **The words.** A text *crosses* from one depth to another when the split at `AND` takes it in one piece (`Crosses`).
  What a clause holds is inside its parentheses, where no word counts, so every clause crosses (`IsClause.crosses`), and
  each word between two clauses is found.
-/

namespace LogicGrid

open Text

namespace Puzzle

/-! ## Clauses with words between them -/

/-- A further antecedent of a rule, with the word `AND` in front of it as it is spelt there. -/
structure Conjunct where
  word : List Char
  clause : List Char

/-- The antecedents of a rule with the words between them. -/
def conjoin (first : List Char) : List Conjunct → List Char
  | [] => first
  | c :: more => first ++ ' ' :: (c.word ++ ' ' :: conjoin c.clause more)

/-- A text of a fact that can stand in front of the arrow of a line. -/
structure IsAntecedent (cs : List Char) (f : Fact) : Prop where
  read : readFact cs = .ok f
  arrow : ¬['-', '>'] <:+: cs
  line : '\n' ∉ cs

/-- An antecedent behind the word `AND`, in upper or lower case. -/
structure Conjunct.Reads (c : Conjunct) (f : Fact) : Prop where
  word : c.word.map Char.toLower = ['a', 'n', 'd']
  clause : IsAntecedent c.clause f

/-- The text of a clause without blanks around it. -/
structure IsClause (core : List Char) (f : Fact) : Prop where
  read : readFact core = .ok f
  enclosed : ∃ inner parts, core = '(' :: (inner ++ [')']) ∧ splitCommas 0 inner = some parts

/-- Texts of clauses with words between them, and blanks around the words only. -/
inductive Conjunction : List Char → List Fact → Prop
  | last {core : List Char} {f : Fact} : IsClause core f → Conjunction core [f]
  | more {core gap word gap' rest : List Char} {f : Fact} {fs : List Fact} : IsClause core f → Blank gap →
      word.map Char.toLower = ['a', 'n', 'd'] → Blank gap' → Conjunction rest fs →
      Conjunction (core ++ (gap ++ ' ' :: (word ++ (' ' :: gap' ++ rest)))) (f :: fs)

section

variable {cs ds core word k : List Char} {c : Char} {f : Fact} {fs : List Fact} {more : List Conjunct}

theorem Solid.trim_eq (h : Solid core) : trim core = core :=
  trim_of_padded ⟨[], [], blank_nil, blank_nil, (List.append_nil _).symm⟩ h

/-- Blanks around a clause do not matter. -/
theorem readFact_congr (h : trim cs = trim ds) : readFact cs = readFact ds := by
  simp only [readFact, h]

theorem isClause_trim (h : readFact cs = .ok f) : IsClause (trim cs) f := by
  obtain ⟨inner, first, parts, -, htext, hsplit, -⟩ := readFact_cases h
  exact ⟨(readFact_congr (solid_trim cs).trim_eq).trans h, inner, first :: parts, htext, hsplit⟩

theorem IsClause.solid (h : IsClause core f) : Solid core := by
  obtain ⟨inner, -, rfl, -⟩ := h.enclosed
  exact solid_parentheses inner

theorem IsClause.readFact_eq (h : IsClause core f) (hp : Padded cs core) : readFact cs = .ok f :=
  (readFact_congr ((trim_of_padded hp h.solid).trans h.solid.trim_eq.symm)).trans h.read

theorem IsClause.exists_tail (h : IsClause core f) : ∃ tail, core = '(' :: tail := by
  obtain ⟨inner, -, rfl, -⟩ := h.enclosed
  exact ⟨_, rfl⟩

theorem Conjunction.exists_tail (h : Conjunction core fs) : ∃ tail, core = '(' :: tail := by
  cases h with
  | last h => exact h.exists_tail
  | more h =>
    obtain ⟨tail, rfl⟩ := h.exists_tail
    exact ⟨_, rfl⟩

theorem Conjunction.ne_nil (h : Conjunction core fs) : core ≠ [] := by
  obtain ⟨tail, rfl⟩ := h.exists_tail
  exact List.cons_ne_nil _ _

/-- A text is solid from a character that is no blank to the end of a solid text. -/
theorem Solid.cons_append (h : Solid ds) (hne : ds ≠ []) (hc : isBlank c = false) (cs : List Char) :
    Solid (c :: (cs ++ ds)) where
  head c' hc' := by
    cases hc'
    exact hc
  last c' hc' := by
    rw [← List.cons_append, List.getLast?_append_of_ne_nil _ hne] at hc'
    exact h.last c' hc'

theorem Conjunction.solid (h : Conjunction core fs) : Solid core := by
  induction h with
  | last h => exact h.solid
  | @more core gap word gap' rest f fs h _ _ _ h' ih =>
    obtain ⟨tail, rfl⟩ := h.exists_tail
    have hsolid := ih.cons_append h'.ne_nil (by decide : isBlank '(' = false)
      (tail ++ (gap ++ ' ' :: (word ++ ' ' :: gap')))
    simpa using hsolid

/-- The blanks around clauses are blanks around words, but for those at both ends. -/
theorem exists_conjunction : ∀ {more : List Conjunct} {first : List Char} {f : Fact} {fs : List Fact},
    IsAntecedent first f → List.Forall₂ Conjunct.Reads more fs →
      ∃ core, Padded (conjoin first more) core ∧ Conjunction core (f :: fs)
  | [], first, _, _, h, hmore => by
    cases hmore
    exact ⟨trim first, padded_trim first, .last (isClause_trim h.read)⟩
  | c :: more, first, _, _, h, hmore => by
    cases hmore with
    | cons hc hmore =>
    obtain ⟨core, ⟨gap', after, hgap', hafter, e⟩, hcore⟩ := exists_conjunction hc.clause hmore
    obtain ⟨before, gap, hbefore, hgap, efirst⟩ := padded_trim first
    refine ⟨_, ⟨before, after, hbefore, hafter, ?_⟩, .more (isClause_trim h.read) hgap hc.word hgap' hcore⟩
    calc conjoin first (c :: more) = first ++ ' ' :: (c.word ++ ' ' :: conjoin c.clause more) := rfl
      _ = before ++ trim first ++ gap ++ ' ' :: (c.word ++ ' ' :: (gap' ++ core ++ after)) := by rw [e, ← efirst]
      _ = _ := by simp

/-- A word in upper or lower case contains no character but letters of that word. -/
theorem not_mem_of_map_toLower (hc : c.toLower = c) (hk : c ∉ k) (h : word.map Char.toLower = k) : c ∉ word :=
  fun hm => hk (h ▸ List.mem_map.mpr ⟨c, hm, hc⟩)

theorem newline_not_mem_conjoin : ∀ {more : List Conjunct} {first : List Char} {fs : List Fact}, '\n' ∉ first →
    List.Forall₂ Conjunct.Reads more fs → '\n' ∉ conjoin first more
  | [], _, _, h, _ => h
  | c :: more, first, _, h, hmore => by
    cases hmore with
    | cons hc hmore =>
    have hword : '\n' ∉ c.word := not_mem_of_map_toLower (by decide) (by decide) hc.word
    have hrest : '\n' ∉ conjoin c.clause more := newline_not_mem_conjoin hc.clause.line hmore
    simp [conjoin, h, hword, hrest]

end

/-! ## The arrow -/

/-- No arrow stands in the text. -/
def Arrowless (cs : List Char) : Prop := cs.IsChain fun a b => ¬(a = '-' ∧ b = '>')

section Arrow

variable {cs ds before core after : List Char} {fs : List Fact}

theorem arrowless_of_no_arrow (h : ¬['-', '>'] <:+: cs) : Arrowless cs := by
  refine List.isChain_iff_forall_rel_of_append_cons_cons.mpr ?_
  rintro a b before after rfl ⟨rfl, rfl⟩
  exact h ⟨before, after, by simp⟩

theorem arrowless_of_not_mem (h : '-' ∉ cs) : Arrowless cs :=
  arrowless_of_no_arrow fun hi => h (hi.subset List.mem_cons_self)

theorem Arrowless.mono (h : Arrowless cs) (hi : ds <:+: cs) : Arrowless ds := List.IsChain.infix h hi

/-- No arrow reaches over a blank. -/
theorem Arrowless.append_blank (h : Arrowless cs) (h' : Arrowless ds) : Arrowless (cs ++ ' ' :: ds) := by
  refine List.isChain_append.mpr ⟨h, List.isChain_cons.mpr ⟨?_, h'⟩, ?_⟩
  · rintro b - ⟨hblank, -⟩
    exact absurd hblank (by decide)
  · rintro a - b hb ⟨-, rfl⟩
    cases hb

theorem arrowless_conjoin : ∀ {more : List Conjunct} {first : List Char} {fs : List Fact}, Arrowless first →
    List.Forall₂ Conjunct.Reads more fs → Arrowless (conjoin first more)
  | [], _, _, h, _ => h
  | c :: more, first, _, h, hmore => by
    cases hmore with
    | cons hc hmore =>
    have hword : Arrowless c.word := arrowless_of_not_mem (not_mem_of_map_toLower (by decide) (by decide) hc.word)
    exact h.append_blank (hword.append_blank (arrowless_conjoin (arrowless_of_no_arrow hc.clause.arrow) hmore))

/-- The first arrow is the one behind a text without any. -/
theorem Arrowless.cutArrow_append (h : Arrowless cs) (rest : List Char) :
    cutArrow (cs ++ '-' :: '>' :: rest) = some (cs, rest) := by
  induction cs with
  | nil => exact cutArrow.eq_2 rest
  | cons c cs ih =>
    have hnot : ∀ cs', c = '-' → cs ++ '-' :: '>' :: rest = '>' :: cs' → False := by
      rintro cs' rfl e
      cases cs with
      | nil => cases e
      | cons d cs =>
        cases e
        exact (List.isChain_cons_cons.mp h).1 ⟨rfl, rfl⟩
    rw [List.cons_append, cutArrow.eq_3 _ _ hnot, ih (h.mono (List.suffix_cons c cs).isInfix)]
    rfl

/-- **The arrow of a rule** is the first one, when none stands in its antecedents. -/
theorem ruleParts?_of_conjunction (h : Conjunction core fs) (hb : Blank before) (ha : Blank after)
    (harrow : Arrowless (core ++ after)) (consequent : List Char) :
    ruleParts? (before ++ (core ++ after) ++ '-' :: '>' :: ' ' :: consequent) =
      some (core, trimStart consequent) := by
  have htext : trimStart (before ++ (core ++ after) ++ '-' :: '>' :: ' ' :: consequent) =
      core ++ (after ++ '-' :: '>' :: ' ' :: consequent) := by
    rw [List.append_assoc, trimStart_of_blank hb, List.append_assoc, h.solid.trimStart_append h.ne_nil]
  have hend : trimEnd (core ++ after) = core := by rw [trimEnd_of_blank ha, h.solid.trimEnd_eq]
  have hstart : trimStart (' ' :: consequent) = trimStart consequent := List.dropWhile_cons_of_pos (by decide)
  obtain ⟨tail, rfl⟩ := h.exists_tail
  have hcut : cutArrow (tail ++ after ++ '-' :: '>' :: ' ' :: consequent) = some (tail ++ after, ' ' :: consequent) :=
    (harrow.mono (List.suffix_cons _ _).isInfix).cutArrow_append _
  have hlater : (cutArrow (tail ++ after ++ '-' :: '>' :: ' ' :: consequent)).filter (fun r => !r.2.isEmpty) =
      some (tail ++ after, ' ' :: consequent) := Option.filter_eq_some_iff.mpr ⟨hcut, rfl⟩
  rw [ruleParts?, htext, List.cons_append, List.tail_cons, ← List.append_assoc, hlater, ← hend, ← hstart]
  rfl

/-- The antecedents are cut off at the arrow behind them, without the blanks around them. -/
theorem ruleParts?_conjoin {first : List Char} {more : List Conjunct} {f : Fact} (h : IsAntecedent first f)
    (hmore : List.Forall₂ Conjunct.Reads more fs) : ∃ core, Conjunction core (f :: fs) ∧ ∀ consequent,
      ruleParts? (' ' :: (conjoin first more ++ ' ' :: '-' :: '>' :: ' ' :: consequent)) =
        some (core, trimStart consequent) := by
  obtain ⟨core, ⟨before, after, hbefore, hafter, e⟩, hcore⟩ := exists_conjunction h hmore
  have hbefore' : Blank (' ' :: before) := List.forall_mem_append.mpr ⟨blank_space, hbefore⟩
  have hafter' : Blank (after ++ [' ']) := List.forall_mem_append.mpr ⟨hafter, blank_space⟩
  have harrow : Arrowless (core ++ (after ++ [' '])) := by
    have hfront := (arrowless_conjoin (arrowless_of_no_arrow h.arrow) hmore).append_blank List.IsChain.nil
    exact hfront.mono ⟨before, [], by simp [e]⟩
  refine ⟨core, hcore, fun consequent => ?_⟩
  rw [← ruleParts?_of_conjunction hcore hbefore' hafter' harrow consequent, e]
  simp

end Arrow

/-! ## The words -/

/-- Whether a word leads up to what stands behind the text. -/
def endsWord (afterWord : Bool) (cs : List Char) : Bool := cs.foldl (fun _ c => isWordChar c) afterWord

/-- The split takes the text in one piece, from one depth to the other. -/
def Crosses (depth : Int) (cs : List Char) (depth' : Int) : Prop :=
  ∀ w rest, splitConjunction w depth (cs ++ rest) = cs.foldr extendFirst (splitConjunction (endsWord w cs) depth' rest)

section Words

variable {w : Bool} {c : Char} {n : Nat} {d d' d'' : Int} {cs ds rest core gap word inner : List Char}
  {ps : List (List Char)} {f : Fact} {fs : List Fact}

theorem isWordChar_blank : isWordChar ' ' = false := by decide +kernel

theorem Crosses.append (h : Crosses d cs d') (h' : Crosses d' ds d'') : Crosses d (cs ++ ds) d'' := by
  intro w rest
  rw [List.append_assoc, h, h', List.foldr_append, endsWord, endsWord, endsWord, List.foldl_append]

theorem crosses_nil (d : Int) : Crosses d [] d := fun _ _ => rfl

/-- A character is passed over inside parentheses, and where the word does not start with it. -/
theorem crosses_singleton (h : d ≠ 0 ∨ c.toLower ≠ 'a') (hd : d + depthChange c = d') : Crosses d [c] d' := by
  intro w rest
  have hnone : (if (w || decide (d ≠ 0)) = true then none else dropConjunction? (c :: rest)) = none := by
    rcases h with h | h
    · simp [h]
    · simp [dropConjunction?, dropWord?, h]
  rw [List.singleton_append, splitConjunction.eq_2, hd]
  split
  · next e => cases hnone.symm.trans e
  · rfl

/-- Blanks are not changed by a change of case. -/
theorem toLower_of_isBlank (h : isBlank c = true) : c.toLower = c := by
  obtain ⟨r, hr, hlow, hhigh⟩ := inRanges_iff.mp h
  have houtside : ∀ r ∈ blankRanges, r.2 < 65 ∨ 90 < r.1 := by decide
  have hnot : ¬(c.val ≥ 'A'.val ∧ c.val ≤ 'Z'.val) := by
    rintro ⟨hA, hZ⟩
    have hA' : 65 ≤ c.toNat := hA
    have hZ' : c.toNat ≤ 90 := hZ
    have := houtside r hr
    omega
  exact dif_neg hnot

theorem Blank.crosses (h : Blank cs) : Crosses 0 cs 0 := by
  induction cs with
  | nil => exact crosses_nil 0
  | cons c cs ih =>
    obtain ⟨hc, hcs⟩ := List.forall_mem_cons.mp h
    have hplain := Blank.plain (List.forall_mem_singleton.mpr hc) c List.mem_cons_self
    have hchange : 0 + depthChange c = 0 := by rw [depthChange, if_neg hplain.1, if_neg hplain.2.1, Int.add_zero]
    have hword : c.toLower ≠ 'a' := by
      rw [toLower_of_isBlank hc]
      rintro rfl
      exact absurd hc (by decide)
    exact (crosses_singleton (.inr hword) hchange).append (ih hcs)

/-- What is balanced crosses inside parentheses: `n` are open in front of it besides the outer one. -/
theorem crosses_of_splitCommas (h : splitCommas n inner = some ps) : Crosses (n + 1) inner 1 := by
  have hinside : ∀ n : Nat, ((n : Int) + 1) ≠ 0 := fun n => by omega
  fun_induction splitCommas n inner generalizing ps with
  | case1 => exact crosses_nil 1
  | case2 => cases h
  | case3 n cs ih =>
    obtain ⟨qs, hq, -⟩ := Option.map_eq_some_iff.mp h
    have hchange : (n : Int) + 1 + depthChange '(' = (n + 1 : Nat) + 1 := rfl
    exact (crosses_singleton (.inl (hinside n)) hchange).append (ih hq)
  | case4 => cases h
  | case5 n cs ih =>
    obtain ⟨qs, hq, -⟩ := Option.map_eq_some_iff.mp h
    have hchange : ((n + 1 : Nat) : Int) + 1 + depthChange ')' = n + 1 := by
      have hclose : depthChange ')' = -1 := by decide
      omega
    exact (crosses_singleton (.inl (hinside (n + 1))) hchange).append (ih hq)
  | case6 cs ih =>
    obtain ⟨qs, hq, -⟩ := Option.map_eq_some_iff.mp h
    exact (crosses_singleton (.inl (hinside 0)) rfl).append (ih hq)
  | case7 n c cs hopen hzero hsucc hcomma ih =>
    obtain ⟨qs, hq, -⟩ := Option.map_eq_some_iff.mp h
    have hclose : c ≠ ')' := fun e => by
      cases n with
      | zero => exact hzero rfl e
      | succ n => exact hsucc n rfl e
    have hchange : (n : Int) + 1 + depthChange c = n + 1 := by
      rw [depthChange, if_neg hopen, if_neg hclose, Int.add_zero]
    exact (crosses_singleton (.inl (hinside n)) hchange).append (ih hq)

/-- **A clause crosses**, whatever words it contains. -/
theorem IsClause.crosses (h : IsClause core f) : Crosses 0 core 0 := by
  obtain ⟨inner, parts, rfl, hsplit⟩ := h.enclosed
  have hopen : Crosses 0 ['('] 1 := crosses_singleton (.inr (by decide)) rfl
  have hclose : Crosses 1 [')'] 0 := crosses_singleton (.inl (by decide)) rfl
  exact hopen.append ((crosses_of_splitCommas hsplit).append hclose)

theorem splitConjunction_of_word (h : dropConjunction? cs = some rest) :
    splitConjunction false 0 cs = [] :: splitConjunction true 0 rest := by
  cases cs with
  | nil => cases h
  | cons c cs =>
    have hsome : (if (false || decide ((0 : Int) ≠ 0)) = true then none else dropConjunction? (c :: cs)) =
        some rest := h
    rw [splitConjunction.eq_2]
    split
    · next e =>
      cases hsome.symm.trans e
      rfl
    · next e => cases hsome.symm.trans e

/-- The word is found between blanks. -/
theorem splitConjunction_word (h : word.map Char.toLower = ['a', 'n', 'd']) (rest : List Char) :
    splitConjunction false 0 (word ++ ' ' :: rest) = [] :: splitConjunction true 0 (' ' :: rest) := by
  refine splitConjunction_of_word (Option.filter_eq_some_iff.mpr ⟨dropWord?_eq_some_iff.mpr ⟨word, rfl, h⟩, ?_⟩)
  simp [isWordChar_blank]

/-- **The words between clauses are found, and no others**: the parts are read as the clauses, also with blanks in front
of the first one. -/
theorem Conjunction.readFacts_split (h : Conjunction core fs) : ∀ w {gap : List Char}, Blank gap →
    readFacts (gap.foldr extendFirst (splitConjunction w 0 core)) = .ok fs := by
  induction h with
  | last hc =>
    intro w gap hgap
    have hsplit := hc.crosses w []
    rw [List.append_nil, splitConjunction, foldr_extendFirst] at hsplit
    rw [hsplit, foldr_extendFirst, readFacts, hc.readFact_eq ⟨gap, [], hgap, blank_nil, by simp⟩, readFacts]
    rfl
  | @more core gap₁ word gap₂ rest f fs hc hgap₁ hword hgap₂ _ ih =>
    intro w gap hgap
    have hgap₁' : Blank (gap₁ ++ [' ']) := List.forall_mem_append.mpr ⟨hgap₁, blank_space⟩
    have hgap₂' : Blank (' ' :: gap₂) := List.forall_mem_append.mpr ⟨blank_space, hgap₂⟩
    -- up to the word no word leads, as a blank stands in front of it
    have hends : endsWord w (core ++ (gap₁ ++ [' '])) = false := by
      rw [endsWord, ← List.append_assoc, List.foldl_append, List.foldl_cons, List.foldl_nil, isWordChar_blank]
    have hsplit : splitConjunction w 0 (core ++ (gap₁ ++ ' ' :: (word ++ (' ' :: gap₂ ++ rest)))) =
        (core ++ (gap₁ ++ [' '])) ::
          (' ' :: gap₂).foldr extendFirst (splitConjunction (endsWord true (' ' :: gap₂)) 0 rest) := by
      have hfront := (hc.crosses.append hgap₁'.crosses) w (word ++ (' ' :: gap₂ ++ rest))
      rw [hends, List.cons_append, splitConjunction_word hword, ← List.cons_append, hgap₂'.crosses true rest,
        foldr_extendFirst, List.append_nil] at hfront
      simpa using hfront
    rw [hsplit, foldr_extendFirst, readFacts, hc.readFact_eq ⟨gap, _, hgap, hgap₁', (List.append_assoc ..).symm⟩,
      ih _ hgap₂']
    rfl

end Words

/-! ## The line -/

/-- A line with a rule. -/
def ruleLine (keyword first : List Char) (more : List Conjunct) (consequent : List Char) : List Char :=
  keyword ++ ':' :: ' ' :: (conjoin first more ++ ' ' :: '-' :: '>' :: ' ' :: consequent)

section Line

variable {keyword first consequent body cs : List Char} {more : List Conjunct} {f g : Fact} {fs : List Fact}

/-- A word is a keyword of rules, in upper or lower case. -/
def IsRuleKeyword (keyword : List Char) : Prop := ∃ k ∈ ruleKeywords, keyword.map Char.toLower = k.toList

theorem IsRuleKeyword.exists_head (h : IsRuleKeyword keyword) : ∃ c word, keyword = c :: word ∧ c.toLower = 'r' := by
  obtain ⟨k, hk, hw⟩ := h
  have hr : k.toList.head? = some 'r' := (by decide : ∀ k ∈ ruleKeywords, k.toList.head? = some 'r') k hk
  cases keyword with
  | nil => rw [← hw] at hr; cases hr
  | cons c word =>
    rw [← hw] at hr
    exact ⟨c, word, rfl, Option.some.inj hr⟩

theorem IsRuleKeyword.newline_not_mem (h : IsRuleKeyword keyword) : '\n' ∉ keyword := by
  obtain ⟨k, hk, hw⟩ := h
  exact not_mem_of_map_toLower (by decide) ((by decide : ∀ k ∈ ruleKeywords, '\n' ∉ k.toList) k hk) hw

/-- A line ends where its consequent ends, but for blanks. -/
theorem padded_ruleLine {before after : List Char} (hafter : Blank after) (e : consequent = before ++ body ++ after) :
    Padded (ruleLine keyword first more consequent) (ruleLine keyword first more (before ++ body)) :=
  ⟨[], after, blank_nil, hafter, by simp [ruleLine, e]⟩

theorem solid_ruleLine (hk : IsRuleKeyword keyword) (hbody : Solid body) (hne : body ≠ []) (before : List Char) :
    Solid (ruleLine keyword first more (before ++ body)) := by
  obtain ⟨c, word, rfl, hc⟩ := hk.exists_head
  have hnot : isBlank c = false := Bool.eq_false_iff.mpr fun hblank => by
    rw [toLower_of_isBlank hblank] at hc
    exact absurd (hc ▸ hblank) (by decide)
  have hsolid := hbody.cons_append hne hnot
    (word ++ ':' :: ' ' :: (conjoin first more ++ ' ' :: '-' :: '>' :: ' ' :: before))
  simpa [ruleLine] using hsolid

theorem readRule_of_conjunction (h : Conjunction cs fs) (hd : readFact consequent = .ok g) :
    readRule cs consequent = .ok ⟨fs, g⟩ := by
  have hread : readFacts (splitConjunction false 0 cs) = .ok fs := h.readFacts_split false blank_nil
  rw [readRule, hread, hd]
  rfl

theorem readStatement_ruleLine (hk : IsRuleKeyword keyword) (h : IsAntecedent first f)
    (hmore : List.Forall₂ Conjunct.Reads more fs) (hd : readFact consequent = .ok g) :
    readStatement (ruleLine keyword first more consequent) = .ok (some (.rule ⟨f :: fs, g⟩)) := by
  obtain ⟨core, hcore, hparts⟩ := ruleParts?_conjoin h hmore
  obtain ⟨before, after, hbefore, hafter, e⟩ := padded_trim consequent
  have hbody : IsClause (trim consequent) g := isClause_trim hd
  have hne : trim consequent ≠ [] := (Conjunction.last hbody).ne_nil
  have htrim : trim (ruleLine keyword first more consequent) =
      ruleLine keyword first more (before ++ trim consequent) :=
    trim_of_padded (padded_ruleLine hafter e) (solid_ruleLine hk hbody.solid hne before)
  have hstates : States ruleKeywords (trim (ruleLine keyword first more consequent))
      (' ' :: (conjoin first more ++ ' ' :: '-' :: '>' :: ' ' :: (before ++ trim consequent))) := by
    obtain ⟨k, hmem, hword⟩ := hk
    exact ⟨k, hmem, keyword, [], by rw [htrim, ruleLine, List.append_nil], hword, blank_nil⟩
  have hstart : trimStart (before ++ trim consequent) = trim consequent := by
    rw [trimStart_of_blank hbefore]
    simpa using hbody.solid.trimStart_append hne []
  have hrule := readRule_of_conjunction hcore hbody.read
  rw [readStatement_of_rule hstates, hparts, hstart]
  simp only [hrule]
  rfl

end Line

end Puzzle

namespace KnowledgeBase

open Puzzle

/-- **A line of clauses is the rule of their facts**: the antecedents are the facts in front of the arrow in their
order, the consequent is the fact behind it, and nothing else is read. -/
theorem ofText_ruleLine {keyword first consequent : List Char} {more : List Conjunct} {f g : Fact} {fs : List Fact}
    (hkeyword : IsRuleKeyword keyword) (hfirst : IsAntecedent first f) (hmore : List.Forall₂ Conjunct.Reads more fs)
    (hconsequent : readFact consequent = .ok g) (hline : '\n' ∉ consequent) :
    ofText (String.ofList (ruleLine keyword first more consequent)) = .ok (.ofContents [] [⟨f :: fs, g⟩]) := by
  have hline : '\n' ∉ ruleLine keyword first more consequent := by
    simp [ruleLine, hkeyword.newline_not_mem, newline_not_mem_conjoin hfirst.line hmore, hline]
  rw [ofText, String.toList_ofList, List.splitOn_eq_singleton hline, readLines,
    readStatement_ruleLine hkeyword hfirst hmore hconsequent]
  rfl

/-- A word inside a clause does not part it, and an arrow in the consequent is not the one of the rule. -/
theorem ofText_ruleLine_spelling :
    ofText "ReGlA: (p, f(a AND b)) aNd (q, X) -> (r, X->Y)" = .ok (.ofContents []
      [⟨[⟨"p", [.app "f" [.const "a AND b"]]⟩, ⟨"q", [.var "X"]⟩], ⟨"r", [.const "X->Y"]⟩⟩]) := by
  have hkeyword : IsRuleKeyword "ReGlA".toList := ⟨"regla", by decide, by decide⟩
  have hp : IsAntecedent "(p, f(a AND b))".toList ⟨"p", [.app "f" [.const "a AND b"]]⟩ :=
    ⟨by decide +kernel, by decide +kernel, by decide⟩
  have hq : IsAntecedent "(q, X)".toList ⟨"q", [.var "X"]⟩ := ⟨by decide +kernel, by decide +kernel, by decide⟩
  have hmore : List.Forall₂ Conjunct.Reads [⟨"aNd".toList, "(q, X)".toList⟩] [⟨"q", [.var "X"]⟩] :=
    .cons ⟨by decide, hq⟩ .nil
  have hr : readFact "(r, X->Y)".toList = .ok ⟨"r", [.const "X->Y"]⟩ := by decide +kernel
  have htext : String.ofList (ruleLine "ReGlA".toList "(p, f(a AND b))".toList [⟨"aNd".toList, "(q, X)".toList⟩]
      "(r, X->Y)".toList) = "ReGlA: (p, f(a AND b)) aNd (q, X) -> (r, X->Y)" := by decide +kernel
  rw [← htext]
  exact ofText_ruleLine hkeyword hp hmore hr (by decide)

end KnowledgeBase

end LogicGrid
