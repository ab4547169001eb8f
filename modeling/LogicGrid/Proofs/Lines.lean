import LogicGrid.Proofs.Grammar

/-!
# Puzzle text, line by line

A line ends with a line feed, or with a carriage return and a line feed; the last line may do without (`textLines`). The
reader cuts a text at its line feeds and trims the pieces, which is to read its lines: a carriage return is a blank, and
the empty piece behind the last line feed says nothing (`readLines_linesOfPieces`).

A reading fails at the first malformed line, with its number (`readLines_eq_error_iff`), or else gives what the lines
say, whatever their numbers are (`readLines_eq_ok_iff`). So lines may be read in two parts (`readLines_append`).

* `ofText_append` – a puzzle read as a whole is its two parts read one after the other, where the first part ends with a
  line; and what is reported is always the first malformed line.
-/

namespace LogicGrid

open Text

namespace Puzzle

/-! ## Lines of a text -/

/-- The lines of a text that is cut at its line feeds. All pieces but the last one end with a line feed, and a carriage
return in front of it is no part of the line; the last piece is a line unless it is empty. -/
def linesOfPieces : List (List Char) → List (List Char)
  | [] => []
  | [last] => if last.isEmpty then [] else [last]
  | p :: q :: ps => (dropLast? '\r' p).getD p :: linesOfPieces (q :: ps)

/-- The lines of a text. -/
def textLines (text : String) : List (List Char) := linesOfPieces (text.toList.splitOn '\n')

example : textLines "a\r\n\n b\r\nc" = ["a".toList, [], " b".toList, "c".toList] := by decide

section Lines

variable {p cs ds : List Char} {ps qs : List (List Char)}

theorem linesOfPieces_cons (p : List Char) (h : ps ≠ []) :
    linesOfPieces (p :: ps) = (dropLast? '\r' p).getD p :: linesOfPieces ps := by
  obtain ⟨q, ps, rfl⟩ := List.exists_cons_of_ne_nil h
  rw [linesOfPieces]

theorem linesOfPieces_append (h : qs ≠ []) : ∀ ps : List (List Char),
    linesOfPieces (ps ++ qs) = ps.map (fun p => (dropLast? '\r' p).getD p) ++ linesOfPieces qs
  | [] => rfl
  | p :: ps => by
    rw [List.cons_append, linesOfPieces_cons p (List.append_ne_nil_of_right_ne_nil ps h), linesOfPieces_append h ps,
      List.map_cons, List.cons_append]

/-- The lines of a text that ends with a line are followed by those of what is appended. -/
theorem textLines_append {a : String} (ha : a = "" ∨ a.toList.getLast? = some '\n') (b : String) :
    textLines (a ++ b) = textLines a ++ textLines b := by
  rcases ha with rfl | ha
  · rw [String.empty_append]
    rfl
  · obtain ⟨front, hfront⟩ := List.getLast?_eq_some_iff.mp ha
    have hb : b.toList.splitOn '\n' ≠ [] := List.splitOn_ne_nil _ _
    have hends : linesOfPieces [[]] = [] := rfl
    rw [textLines, textLines, textLines, String.toList_append, hfront, List.append_assoc, List.singleton_append,
      List.splitOn_append_cons_self, List.splitOn_append_cons_self, linesOfPieces_append hb, List.splitOn_nil,
      linesOfPieces_append (List.cons_ne_nil _ _), hends, List.append_nil]

end Lines

/-! ## Reading lines -/

section Read

variable {n i : Nat} {l cs ds : List Char} {ls ms : List (List Char)} {ss : List Statement} {e : Error}
  {cause : SyntaxError}

/-- Blanks around a line do not matter. -/
theorem readStatement_congr (h : trim cs = trim ds) : readStatement cs = readStatement ds := by
  rw [readStatement, readStatement, h]

theorem trim_getD_dropLast? (cs : List Char) : trim ((dropLast? '\r' cs).getD cs) = trim cs := by
  cases h : dropLast? '\r' cs with
  | none => rfl
  | some ds =>
    have hblank : Blank ['\r'] := List.forall_mem_singleton.mpr (by decide)
    obtain ⟨before, after, hb, ha, e⟩ := padded_trim ds
    have hpadded : Padded cs (trim ds) := by
      refine ⟨before, after ++ ['\r'], hb, List.forall_mem_append.mpr ⟨ha, hblank⟩, ?_⟩
      rw [dropLast?_eq_some_iff.mp h, ← List.append_assoc, ← e]
    exact (trim_of_padded hpadded (solid_trim ds)).symm

/-- The pieces between line feeds are read as the lines are. -/
theorem readLines_linesOfPieces : ∀ (n : Nat) (ps : List (List Char)), readLines n (linesOfPieces ps) = readLines n ps
  | _, [] => rfl
  | n, [last] => by
    rw [linesOfPieces]
    split
    · next h =>
      rw [List.isEmpty_iff.mp h, readLines, readLines]
      rfl
    · rfl
  | n, p :: q :: ps => by
    have hp : readStatement ((dropLast? '\r' p).getD p) = readStatement p := readStatement_congr (trim_getD_dropLast? p)
    rw [linesOfPieces, readLines, readLines, hp, readLines_linesOfPieces (n + 1) (q :: ps)]

/-- Lines may be read in two parts. -/
theorem readLines_append : ∀ (n : Nat) (ls ms : List (List Char)), readLines n (ls ++ ms) =
    match readLines n ls with
    | .ok ss => (readLines (n + ls.length) ms).map (ss ++ ·)
    | .error e => .error e
  | n, [], ms => by
    rw [List.nil_append, readLines, List.length_nil, Nat.add_zero]
    cases readLines n ms <;> rfl
  | n, l :: ls, ms => by
    rw [List.cons_append, readLines, readLines]
    cases readStatement l with
    | error cause => rfl
    | ok s =>
      have hstep : n + 1 + ls.length = n + (ls.length + 1) := by omega
      simp only [atLine, Except.mapError]
      rw [readLines_append (n + 1) ls ms, hstep, List.length_cons]
      cases readLines (n + 1) ls with
      | error e => rfl
      | ok ss =>
        cases readLines (n + (ls.length + 1)) ms with
        | error e => rfl
        | ok ts => exact congrArg Except.ok (List.append_assoc ..).symm

/-- The line behind `i` others is malformed for the given cause, and those in front of it are not malformed. -/
def FirstMalformed (ls : List (List Char)) (i : Nat) (cause : SyntaxError) : Prop :=
  ∃ before line after, ls = before ++ line :: after ∧ before.length = i ∧
    (∀ l ∈ before, ∃ s, readStatement l = .ok s) ∧ readStatement line = .error cause

/-- **A reading gives what the lines say**, whatever the number of the first line is. -/
theorem readLines_eq_ok_iff : ∀ {n : Nat} {ls : List (List Char)} {ss : List Statement}, readLines n ls = .ok ss ↔
    ∃ rs, List.Forall₂ (fun l r => readStatement l = .ok r) ls rs ∧ rs.flatMap Option.toList = ss
  | n, [], ss => by
    rw [readLines]
    constructor
    · intro h
      cases h
      exact ⟨[], .nil, rfl⟩
    · rintro ⟨rs, hrs, rfl⟩
      cases hrs
      rfl
  | n, l :: ls, ss => by
    rw [readLines]
    constructor
    · intro h
      cases hl : readStatement l with
      | error cause =>
        rw [hl] at h
        cases h
      | ok r =>
        rw [hl] at h
        obtain ⟨ts, hts, rfl⟩ := exists_of_map_eq_ok h
        obtain ⟨rs, hrs, rfl⟩ := readLines_eq_ok_iff.mp hts
        exact ⟨r :: rs, .cons hl hrs, List.flatMap_cons ..⟩
    · rintro ⟨rs, hrs, rfl⟩
      cases hrs with
      | @cons _ r _ rs hl hrs =>
      have hls : readLines (n + 1) ls = .ok (rs.flatMap Option.toList) := readLines_eq_ok_iff.mpr ⟨rs, hrs, rfl⟩
      rw [hl, hls, List.flatMap_cons]
      rfl

theorem exists_readLines (h : ∀ l ∈ ls, ∃ s, readStatement l = .ok s) (n : Nat) : ∃ ss, readLines n ls = .ok ss := by
  induction ls generalizing n with
  | nil => exact ⟨[], by rw [readLines]⟩
  | cons l ls ih =>
    obtain ⟨⟨s, hl⟩, hls⟩ := List.forall_mem_cons.mp h
    obtain ⟨ss, hss⟩ := ih hls (n + 1)
    exact ⟨s.toList ++ ss, by rw [readLines, hl, hss]; rfl⟩

theorem exists_firstMalformed (h : readLines n ls = .error e) :
    ∃ i cause, FirstMalformed ls i cause ∧ e = .malformed (n + i) cause := by
  induction ls generalizing n with
  | nil =>
    rw [readLines] at h
    cases h
  | cons l ls ih =>
    rw [readLines] at h
    cases hl : readStatement l with
    | error cause =>
      rw [hl] at h
      cases h
      exact ⟨0, cause, ⟨[], l, ls, rfl, rfl, List.forall_mem_nil _, hl⟩, rfl⟩
    | ok s =>
      rw [hl] at h
      cases hls : readLines (n + 1) ls with
      | ok ss =>
        rw [hls] at h
        cases h
      | error e' =>
        rw [hls] at h
        cases h
        obtain ⟨i, cause, ⟨before, line, after, rfl, rfl, hbefore, hline⟩, rfl⟩ := ih hls
        refine ⟨before.length + 1, cause, ⟨l :: before, line, after, rfl, rfl, ?_, hline⟩, ?_⟩
        · exact List.forall_mem_cons.mpr ⟨⟨s, hl⟩, hbefore⟩
        · rw [Nat.add_right_comm, Nat.add_assoc]

/-- **A reading fails at the first malformed line**, and the error has its number. -/
theorem readLines_eq_error_iff : readLines n ls = .error e ↔
    ∃ i cause, FirstMalformed ls i cause ∧ e = .malformed (n + i) cause := by
  refine ⟨exists_firstMalformed, ?_⟩
  rintro ⟨_, cause, ⟨before, line, after, rfl, rfl, hbefore, hline⟩, rfl⟩
  obtain ⟨ss, hss⟩ := exists_readLines hbefore n
  have hstop : readLines (n + before.length) (line :: after) = .error (.malformed (n + before.length) cause) := by
    rw [readLines, hline]
    rfl
  rw [readLines_append, hss, hstop]
  rfl

end Read

/-! ## What statements leave behind -/

/-- The fact that a statement states. -/
def Statement.fact? : Statement → Option Fact
  | .fact f => some f
  | .rule _ => none

/-- The rule that a statement states. -/
def Statement.rule? : Statement → Option Rule
  | .fact _ => none
  | .rule r => some r

end Puzzle

namespace KnowledgeBase

open Puzzle

/-- The statements put in their facts and their rules, each in their order. -/
theorem foldl_addStatement : ∀ (ss : List Statement) (kb : KnowledgeBase), ss.foldl addStatement kb =
    ⟨kb.facts.insertAll (ss.filterMap Statement.fact?), kb.rules ++ ss.filterMap Statement.rule?, kb.maxFacts⟩
  | [], kb => by simp [FactSet.insertAll]
  | .fact f :: ss, kb => foldl_addStatement ss (kb.addFact f)
  | .rule r :: ss, kb => by
    have happend : kb.rules ++ [r] ++ ss.filterMap Statement.rule? =
        kb.rules ++ (.rule r :: ss).filterMap Statement.rule? := List.append_assoc ..
    rw [← happend]
    exact foldl_addStatement ss (kb.addRule r)

theorem ofText_eq (text : String) :
    ofText text = (readLines 1 (textLines text)).map fun ss => ss.foldl addStatement empty := by
  rw [ofText, textLines, readLines_linesOfPieces]

theorem ofText_eq_ok_iff {text : String} {kb : KnowledgeBase} : ofText text = .ok kb ↔
    ∃ ss, readLines 1 (textLines text) = .ok ss ∧ ss.foldl addStatement empty = kb := by
  rw [ofText_eq]
  cases readLines 1 (textLines text) <;> simp [Except.map]

theorem readLines_eq_error_of_ofText {text : String} {e : Error} (h : ofText text = .error e) :
    readLines 1 (textLines text) = .error e := by
  rw [ofText_eq] at h
  cases hr : readLines 1 (textLines text) with
  | error e' =>
    rw [hr] at h
    cases h
    rfl
  | ok ss =>
    rw [hr] at h
    cases h

/-- **The error of a puzzle is its first malformed line.** -/
theorem ofText_eq_error_iff {text : String} {e : Error} : ofText text = .error e ↔
    ∃ i cause, FirstMalformed (textLines text) i cause ∧ e = .malformed (i + 1) cause := by
  simp only [Nat.add_comm _ 1, ← readLines_eq_error_iff]
  refine ⟨readLines_eq_error_of_ofText, fun h => ?_⟩
  rw [ofText_eq, h]
  rfl

/-- The second of two texts is read with the lines of the first one counted, into what the first one left. -/
theorem ofText_append_eq {a : String} (ha : a = "" ∨ a.toList.getLast? = some '\n') (b : String) : ofText (a ++ b) =
    match readLines 1 (textLines a) with
    | .ok ss => (readLines (1 + (textLines a).length) (textLines b)).map fun ts =>
        ts.foldl addStatement (ss.foldl addStatement empty)
    | .error e => .error e := by
  rw [ofText_eq, textLines_append ha, readLines_append]
  cases readLines 1 (textLines a) with
  | error e => rfl
  | ok ss =>
    cases readLines (1 + (textLines a).length) (textLines b) with
    | error e => rfl
    | ok ts => exact congrArg Except.ok List.foldl_append

/-- Facts that are known already are not taken in again when a puzzle is read behind another one. -/
theorem toList_foldl_addStatement (kb : KnowledgeBase) (ss : List Statement) :
    (ss.foldl addStatement kb).facts.toList =
      kb.facts.toList ++ (ss.foldl addStatement empty).facts.toList.filter (· ∉ kb.facts) := by
  have hempty : ∀ f : Fact, f ∉ empty.facts := fun f hf => absurd (FactSet.mem_ofList.mp hf) List.not_mem_nil
  have hnil : empty.facts.toList = [] := rfl
  simp only [foldl_addStatement, FactSet.toList_insertAll, filter_eraseDups, hnil, List.nil_append]
  rw [List.filter_eq_self.mpr fun f _ => decide_eq_true (hempty f)]

/-- **Two texts, one behind the other.** Where the first text is empty or ends with a line feed, its error is the error
of both; an error of the second text alone is reported with the lines of the first one counted; and if both are read,
then both together are: the facts of the first text, those of the second one that are not among them, and the rules of
both. Hence the line that is reported is always the first malformed one, of all lines there are. -/
theorem ofText_append (a b : String) (ha : a = "" ∨ a.toList.getLast? = some '\n') :
    (∀ e, ofText a = .error e → ofText (a ++ b) = .error e) ∧
    (∀ kb e, ofText a = .ok kb → ofText b = .error e → ∃ l cause, e = .malformed l cause ∧
      ofText (a ++ b) = .error (.malformed (l + (textLines a).length) cause)) ∧
    (∀ kb kb', ofText a = .ok kb → ofText b = .ok kb' → ∃ both, ofText (a ++ b) = .ok both ∧
      both.facts.toList = kb.facts.toList ++ kb'.facts.toList.filter (· ∉ kb.facts) ∧
      both.rules = kb.rules ++ kb'.rules ∧ both.maxFacts = kb.maxFacts) ∧
    ∀ text e, ofText text = .error e ↔
      ∃ i cause, FirstMalformed (textLines text) i cause ∧ e = .malformed (i + 1) cause := by
  refine ⟨fun e he => ?_, fun kb e hkb he => ?_, fun kb kb' hkb hkb' => ?_, fun _ _ => ofText_eq_error_iff⟩
  · rw [ofText_append_eq ha, readLines_eq_error_of_ofText he]
  · obtain ⟨ss, hss, rfl⟩ := ofText_eq_ok_iff.mp hkb
    obtain ⟨i, cause, hfirst, rfl⟩ := ofText_eq_error_iff.mp he
    have hb : readLines (1 + (textLines a).length) (textLines b) =
        .error (.malformed (i + 1 + (textLines a).length) cause) :=
      readLines_eq_error_iff.mpr ⟨i, cause, hfirst, congrArg (Error.malformed · cause) (by omega)⟩
    refine ⟨i + 1, cause, rfl, ?_⟩
    rw [ofText_append_eq ha, hss, hb]
    rfl
  · obtain ⟨ss, hss, rfl⟩ := ofText_eq_ok_iff.mp hkb
    obtain ⟨ts, hts, rfl⟩ := ofText_eq_ok_iff.mp hkb'
    have hb : readLines (1 + (textLines a).length) (textLines b) = .ok ts :=
      readLines_eq_ok_iff.mpr (readLines_eq_ok_iff.mp hts)
    refine ⟨ts.foldl addStatement (ss.foldl addStatement empty), ?_, toList_foldl_addStatement _ ts, ?_, ?_⟩
    · rw [ofText_append_eq ha, hss, hb]
      rfl
    · simp only [foldl_addStatement]
      rfl
    · rw [foldl_addStatement ts]

/-- A fact and a rule behind a comment. -/
def someLines : String := "# facts\r\nhecho: (p, a)\nregla: (p, X) -> (q, X)\n"

/-- The same fact behind another one, and another rule. -/
def moreLines : String := "hecho: (r, b)\nhecho: (p, a)\r\nrule: (q, X) AND (r, Y) -> (s, X, Y)"

/-- A malformed line behind a rule. -/
def badLines : String := "regla: (p, X) -> (q, X)\nhecho: p, a\nhecho: q"

/-- Behind the first text, `p(a)` of the second one adds nothing, its other fact and its rule come last. The malformed
line of the third text is reported with the three lines of the first one counted. -/
theorem ofText_append_someLines :
    (∃ both, ofText (someLines ++ moreLines) = .ok both ∧
      both.facts.toList = [⟨"p", [.const "a"]⟩, ⟨"r", [.const "b"]⟩] ∧
      both.rules = [⟨[⟨"p", [.var "X"]⟩], ⟨"q", [.var "X"]⟩⟩,
        ⟨[⟨"q", [.var "X"]⟩, ⟨"r", [.var "Y"]⟩], ⟨"s", [.var "X", .var "Y"]⟩⟩]) ∧
    ofText (someLines ++ badLines) = .error (.malformed 5 (.expectedClause "p, a")) := by
  have hend : someLines.toList.getLast? = some '\n' := by decide
  have hsome : ofText someLines = .ok (.ofContents [⟨"p", [.const "a"]⟩]
      [⟨[⟨"p", [.var "X"]⟩], ⟨"q", [.var "X"]⟩⟩]) := by decide +kernel
  constructor
  · have hmore : ofText moreLines = .ok (.ofContents [⟨"r", [.const "b"]⟩, ⟨"p", [.const "a"]⟩]
        [⟨[⟨"q", [.var "X"]⟩, ⟨"r", [.var "Y"]⟩], ⟨"s", [.var "X", .var "Y"]⟩⟩]) := by decide +kernel
    obtain ⟨both, hboth, hfacts, hrules, -⟩ := (ofText_append _ _ (.inr hend)).2.2.1 _ _ hsome hmore
    exact ⟨both, hboth, hfacts.trans (by decide), hrules⟩
  · have hbad : ofText badLines = .error (.malformed 2 (.expectedClause "p, a")) := by decide +kernel
    have hlength : (textLines someLines).length = 3 := by decide
    obtain ⟨l, cause, e, h⟩ := (ofText_append _ _ (.inr hend)).2.1 _ _ hsome hbad
    cases e
    rwa [hlength] at h

end KnowledgeBase

end LogicGrid
