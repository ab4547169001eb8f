import LogicGrid.Proofs.Lines
import Mathlib.Data.List.Forall2

/-!
# What becomes of a line with a keyword

A line *states* a body when a keyword and a colon stand in front of it. A rule needs an arrow with characters on both
sides (`ruleParts?_eq_none_iff`), a fact needs any character. A line whose body lacks that is *unfinished*, and it is
passed over like a line without a keyword, where every other malformed body makes the whole puzzle fail.

* `statement_of_line` – exactly the unfinished lines are passed over; every other line with a keyword puts its fact or
  rule into the knowledge base, unless the puzzle is refused;
* `not_holds_of_no_blank` – so a rule without antecedents is refused or passed over, depending on a blank.
-/

namespace LogicGrid

open Text

namespace Puzzle

/-- One of the keywords and a colon, which may have blanks in front, stand in front of the body; the case of letters
does not matter. -/
def States (keywords : List String) (line body : List Char) : Prop :=
  ∃ k ∈ keywords, ∃ word gap, line = word ++ gap ++ ':' :: body ∧ word.map Char.toLower = k.toList ∧ Blank gap

section Keywords

variable {line body rest word gap : List Char} {keywords : List String}

theorem dropWord?_eq_some_iff : ∀ {ks cs rest : List Char}, dropWord? ks cs = some rest ↔
    ∃ word, cs = word ++ rest ∧ word.map Char.toLower = ks
  | [], cs, rest => by
    simp [dropWord?]
  | k :: ks, [], rest => by
    simp [dropWord?]
  | k :: ks, c :: cs, rest => by
    rw [dropWord?]
    constructor
    · intro h
      split at h
      · next hc =>
        obtain ⟨word, rfl, hw⟩ := dropWord?_eq_some_iff.mp h
        exact ⟨c :: word, rfl, by rw [List.map_cons, hc, hw]⟩
      · cases h
    · rintro ⟨word, e, hw⟩
      cases word with
      | nil => cases hw
      | cons d word =>
        cases e
        obtain ⟨hd, hw⟩ := List.cons_eq_cons.mp hw
        rw [if_pos hd]
        exact dropWord?_eq_some_iff.mpr ⟨word, rfl, hw⟩

theorem dropColon?_eq_some_iff {cs : List Char} : dropColon? cs = some rest ↔
    ∃ gap, cs = gap ++ ':' :: rest ∧ Blank gap := by
  constructor
  · intro h
    have hstart : cs.takeWhile isBlank ++ trimStart cs = cs := List.takeWhile_append_dropWhile
    rw [dropColon?] at h
    split at h
    · next e =>
      cases h
      rw [e] at hstart
      exact ⟨_, hstart.symm, fun c hc => List.mem_takeWhile_imp hc⟩
    · cases h
  · rintro ⟨gap, rfl, hg⟩
    have htrim : trimStart (':' :: rest) = ':' :: rest := List.dropWhile_cons_of_neg (by decide)
    rw [dropColon?, trimStart_of_blank hg, htrim]
    rfl

theorem exists_keyword_iff {k : String} : (dropWord? k.toList line).bind dropColon? = some body ↔
    ∃ word gap, line = word ++ gap ++ ':' :: body ∧ word.map Char.toLower = k.toList ∧ Blank gap := by
  simp only [Option.bind_eq_some_iff, dropWord?_eq_some_iff, dropColon?_eq_some_iff]
  constructor
  · rintro ⟨_, ⟨word, rfl, hw⟩, gap, rfl, hg⟩
    exact ⟨word, gap, (List.append_assoc ..).symm, hw, hg⟩
  · rintro ⟨word, gap, rfl, hw, hg⟩
    exact ⟨_, ⟨word, List.append_assoc .., hw⟩, gap, rfl, hg⟩

/-- The body is what stands behind the first colon. -/
theorem States.unique {keywords' : List String} {body' : List Char} (h : States keywords line body)
    (h' : States keywords' line body') (hk : ∀ k ∈ keywords, ':' ∉ k.toList) (hk' : ∀ k ∈ keywords', ':' ∉ k.toList) :
    body = body' := by
  have hbehind : ∀ {ks : List String} {b : List Char}, (∀ k ∈ ks, ':' ∉ k.toList) → States ks line b →
      line.dropWhile (· != ':') = ':' :: b := by
    rintro ks b hks ⟨k, hk, word, gap, rfl, hw, hg⟩
    have hbefore : ∀ c ∈ word ++ gap, (c != ':') = true := by
      intro c hc
      rw [bne_iff_ne]
      rintro rfl
      rcases List.mem_append.mp hc with hc | hc
      · exact hks k hk (hw ▸ List.mem_map.mpr ⟨':', hc, rfl⟩)
      · exact absurd (hg ':' hc) (by decide)
    rw [List.dropWhile_append_of_pos hbefore]
    exact List.dropWhile_cons_of_neg (by decide)
  exact (List.cons_eq_cons.mp ((hbehind hk h).symm.trans (hbehind hk' h'))).2

theorem statementBody?_eq_some_iff (hk : ∀ k ∈ keywords, ':' ∉ k.toList) :
    statementBody? keywords line = some body ↔ States keywords line body := by
  have hsound : ∀ {b}, statementBody? keywords line = some b → States keywords line b := fun h => by
    obtain ⟨k, hmem, hb⟩ := List.exists_of_findSome?_eq_some h
    exact ⟨k, hmem, exists_keyword_iff.mp hb⟩
  refine ⟨hsound, fun h => ?_⟩
  obtain ⟨k, hmem, hb⟩ := h
  cases hs : statementBody? keywords line with
  | none => exact absurd (List.findSome?_eq_none_iff.mp hs k hmem) (by simp [exists_keyword_iff.mpr hb])
  | some b => rw [States.unique (hsound hs) ⟨k, hmem, hb⟩ hk hk]

theorem colon_not_mem_factKeywords : ∀ k ∈ factKeywords, ':' ∉ k.toList := by decide

theorem colon_not_mem_ruleKeywords : ∀ k ∈ ruleKeywords, ':' ∉ k.toList := by decide

/-- A line that states something starts with a letter of a keyword. -/
theorem States.exists_head (h : States keywords line body) (hk : ∀ k ∈ keywords, k.toList ≠ []) :
    ∃ c rest, line = c :: rest ∧ c.toLower ∈ keywords.filterMap (·.toList.head?) := by
  obtain ⟨k, hmem, word, gap, rfl, hw, -⟩ := h
  cases word with
  | nil => exact absurd hw.symm (hk k hmem)
  | cons c word =>
    exact ⟨c, _, rfl, List.mem_filterMap.mpr ⟨k, hmem, by rw [← hw]; rfl⟩⟩

theorem not_states_fact_of_rule {body' : List Char} (h : States ruleKeywords line body) :
    ¬States factKeywords line body' := by
  intro h'
  obtain ⟨c, rest, rfl, hc⟩ := h.exists_head (by decide)
  obtain ⟨_, _, e, hc'⟩ := h'.exists_head (by decide)
  cases e
  have hrule : c.toLower = 'r' := by simpa [ruleKeywords] using hc
  rw [hrule] at hc'
  exact absurd hc' (by decide)

theorem isComment_of_states (h : States (ruleKeywords ++ factKeywords) line body) : isComment line = false := by
  obtain ⟨c, rest, rfl, hc⟩ := h.exists_head (by decide)
  have hslash : c ≠ '/' := by
    rintro rfl
    exact absurd hc (by decide)
  have hhash : c ≠ '#' := by
    rintro rfl
    exact absurd hc (by decide)
  simp [isComment, List.isPrefixOf, hslash.symm, hhash.symm]

theorem states_append_iff {keywords' : List String} :
    States (keywords ++ keywords') line body ↔ States keywords line body ∨ States keywords' line body := by
  simp only [States, List.mem_append, or_and_right, exists_or]

end Keywords

/-! ## Arrows -/

section Arrows

variable {cs body front back a b : List Char}

theorem eq_of_cutArrow : ∀ {cs a : List Char}, cutArrow cs = some (a, b) → cs = a ++ '-' :: '>' :: b := by
  intro cs
  induction cs using cutArrow.induct with
  | case1 => nofun
  | case2 cs =>
    intro a h
    rw [cutArrow] at h
    cases h
    rfl
  | case3 c cs hne ih =>
    intro a h
    rw [cutArrow.eq_3 _ _ hne] at h
    obtain ⟨⟨a', b'⟩, hr, e⟩ := Option.map_eq_some_iff.mp h
    cases e
    rw [ih hr, List.cons_append]

/-- Where there is an arrow with characters behind it, there are characters behind the first arrow. -/
theorem exists_cutArrow (hb : b ≠ []) : ∀ {cs a : List Char}, cs = a ++ '-' :: '>' :: b →
    ∃ a' b', cutArrow cs = some (a', b') ∧ b' ≠ [] := by
  intro cs
  induction cs using cutArrow.induct with
  | case1 => exact fun e => absurd e.symm (by simp)
  | case2 cs =>
    intro a e
    refine ⟨[], cs, cutArrow.eq_2 cs, ?_⟩
    rintro rfl
    have hlength := congrArg List.length e
    simp only [List.length_cons, List.length_nil, List.length_append] at hlength
    exact hb (List.length_eq_zero_iff.mp (by omega))
  | case3 c cs hne ih =>
    intro a e
    cases a with
    | nil =>
      cases e
      exact absurd rfl (hne b rfl)
    | cons d a =>
      cases e
      obtain ⟨a', b', h, hb'⟩ := ih rfl
      exact ⟨c :: a', b', by rw [cutArrow.eq_3 _ _ hne, h]; rfl, hb'⟩

/-- An arrow stands in the text, with characters in front and characters behind. -/
def HasArrow (body : List Char) : Prop := ∃ front back, body = front ++ '-' :: '>' :: back ∧ front ≠ [] ∧ back ≠ []

theorem hasArrow_of_ruleParts? {parts : List Char × List Char} (h : ruleParts? body = some parts) : HasArrow body := by
  have hstart : body.takeWhile isBlank ++ trimStart body = body := List.takeWhile_append_dropWhile
  rw [ruleParts?] at h
  split at h
  · next a b c cs hlater e =>
    obtain ⟨hcut, hb⟩ := Option.filter_eq_some_iff.mp hlater
    rw [e, List.tail_cons] at hcut
    refine ⟨body.takeWhile isBlank ++ c :: a, b, ?_, by simp, by simpa using hb⟩
    rw [List.append_assoc, List.cons_append, ← eq_of_cutArrow hcut, ← e, hstart]
  · next c consequent _ e =>
    split at h
    · next hlt =>
      refine ⟨body.takeWhile isBlank, c :: consequent, by rw [← e, hstart], ?_, by simp⟩
      intro hnil
      rw [hnil, List.nil_append] at hstart
      exact Nat.lt_irrefl _ (hstart ▸ hlt)
    · cases h
  · cases h

theorem exists_ruleParts? (h : HasArrow body) : ∃ parts, ruleParts? body = some parts := by
  obtain ⟨front, back, rfl, hf, hb⟩ := h
  have hdash : trimStart ('-' :: '>' :: back) = '-' :: '>' :: back := List.dropWhile_cons_of_neg (by decide)
  rw [ruleParts?]
  cases htrim : trimStart front with
  | nil =>
    -- The arrow is at the start of the text: the blanks in front of it have to do.
    have htext : trimStart (front ++ '-' :: '>' :: back) = '-' :: '>' :: back := by
      rw [trimStart, List.dropWhile_append, ← trimStart, htrim, List.isEmpty_nil, if_pos rfl, ← trimStart, hdash]
    have hlength : ('-' :: '>' :: back).length < (front ++ '-' :: '>' :: back).length := by
      rw [List.length_append]
      exact Nat.lt_add_of_pos_left (List.length_pos_iff.mpr hf)
    obtain ⟨c, consequent, rfl⟩ := List.exists_cons_of_ne_nil hb
    rw [htext]
    cases (cutArrow ('-' :: '>' :: c :: consequent).tail).filter fun r => !r.2.isEmpty with
    | some r => exact ⟨_, rfl⟩
    | none => exact ⟨_, if_pos hlength⟩
  | cons d front' =>
    have htext : trimStart (front ++ '-' :: '>' :: back) = d :: (front' ++ '-' :: '>' :: back) := by
      rw [trimStart, List.dropWhile_append, ← trimStart, htrim, List.isEmpty_cons, if_neg Bool.false_ne_true, List.cons_append]
    obtain ⟨a, b, hcut, hne⟩ := exists_cutArrow hb (a := front') rfl
    have hlater : (cutArrow (front' ++ '-' :: '>' :: back)).filter (fun r => !r.2.isEmpty) = some (a, b) :=
      Option.filter_eq_some_iff.mpr ⟨hcut, by simpa using hne⟩
    rw [htext, List.tail_cons, hlater]
    exact ⟨_, rfl⟩

/-- A rule is cut at an arrow exactly when there is one between characters. -/
theorem ruleParts?_eq_none_iff : ruleParts? body = none ↔ ¬HasArrow body := by
  rw [Option.eq_none_iff_forall_ne_some]
  constructor
  · intro h ha
    obtain ⟨parts, hp⟩ := exists_ruleParts? ha
    exact h parts hp
  · exact fun h parts hp => h (hasArrow_of_ruleParts? hp)

end Arrows

/-! ## Lines -/

/-- The line has a keyword, but nothing that could be a fact, or no arrow that could make up a rule. -/
def Unfinished (line : List Char) : Prop :=
  States factKeywords line [] ∨ ∃ body, States ruleKeywords line body ∧ ¬HasArrow body

section Lines

variable {l body : List Char} {n : Nat} {ls : List (List Char)} {text : String}

theorem readStatement_of_rule (h : States ruleKeywords (trim l) body) : readStatement l =
    match ruleParts? body with
    | some (antecedents, consequent) => (readRule antecedents consequent).map fun r => some (.rule r)
    | none => .ok none := by
  have hcomment : ¬isComment (trim l) = true := by rw [isComment_of_states (states_append_iff.mpr (.inl h))]; nofun
  have hfact : statementBody? factKeywords (trim l) = none := Option.eq_none_iff_forall_ne_some.mpr fun b hb =>
    not_states_fact_of_rule h ((statementBody?_eq_some_iff colon_not_mem_factKeywords).mp hb)
  rw [readStatement, if_neg hcomment, (statementBody?_eq_some_iff colon_not_mem_ruleKeywords).mpr h, Option.bind_some]
  cases ruleParts? body with
  | some parts => rfl
  | none => rw [hfact]

theorem readStatement_of_fact (h : States factKeywords (trim l) body) : readStatement l =
    if body = [] then .ok none else (readFact body).map fun f => some (.fact f) := by
  have hcomment : ¬isComment (trim l) = true := by rw [isComment_of_states (states_append_iff.mpr (.inr h))]; nofun
  have hrule : statementBody? ruleKeywords (trim l) = none := Option.eq_none_iff_forall_ne_some.mpr fun b hb =>
    not_states_fact_of_rule ((statementBody?_eq_some_iff colon_not_mem_ruleKeywords).mp hb) h
  rw [readStatement, if_neg hcomment, hrule, Option.bind_none,
    (statementBody?_eq_some_iff colon_not_mem_factKeywords).mpr h]
  cases body with
  | nil => rw [if_pos rfl]
  | cons c body => rw [if_neg (List.cons_ne_nil c body)]

theorem readStatement_of_unfinished (h : Unfinished (trim l)) : readStatement l = .ok none := by
  rcases h with h | ⟨body, h, ha⟩
  · rw [readStatement_of_fact h, if_pos rfl]
  · rw [readStatement_of_rule h, ruleParts?_eq_none_iff.mpr ha]

/-- A line with a keyword is read as nothing only when it is unfinished. -/
theorem isSome_of_readStatement {s : Option Statement} (h : States (ruleKeywords ++ factKeywords) (trim l) body)
    (hu : ¬Unfinished (trim l)) (hr : readStatement l = .ok s) : s.isSome := by
  rcases states_append_iff.mp h with h | h
  · obtain ⟨⟨a, b⟩, hp⟩ := exists_ruleParts? (not_not.mp fun ha => hu (.inr ⟨body, h, ha⟩))
    rw [readStatement_of_rule h, hp] at hr
    obtain ⟨r, -, rfl⟩ := exists_of_map_eq_ok hr
    rfl
  · have hne : body ≠ [] := by
      rintro rfl
      exact hu (.inl h)
    rw [readStatement_of_fact h, if_neg hne] at hr
    obtain ⟨f, -, rfl⟩ := exists_of_map_eq_ok hr
    rfl

/-- Either some line is malformed, or every line is read and what it states is kept. -/
theorem readLines_cases (n : Nat) (ls : List (List Char)) : (∃ m e, readLines n ls = .error (.malformed m e)) ∨
    ∃ ss, readLines n ls = .ok ss ∧ ∀ l ∈ ls, ∃ s, readStatement l = .ok s ∧ s.toList ⊆ ss := by
  cases h : readLines n ls with
  | error e =>
    obtain ⟨i, cause, -, rfl⟩ := readLines_eq_error_iff.mp h
    exact .inl ⟨n + i, cause, rfl⟩
  | ok ss =>
    obtain ⟨rs, hrs, rfl⟩ := readLines_eq_ok_iff.mp h
    refine .inr ⟨_, rfl, fun l hl => ?_⟩
    obtain ⟨i, rfl⟩ := List.mem_iff_get.mp hl
    have hi : i.1 < rs.length := hrs.length_eq ▸ i.2
    exact ⟨rs.get ⟨i, hi⟩, hrs.get i.2 hi, fun s hs => List.mem_flatMap_of_mem (List.get_mem rs _) hs⟩

end Lines

end Puzzle

namespace KnowledgeBase

open Puzzle

/-- A statement has been put into the knowledge base. -/
def Holds (kb : KnowledgeBase) : Statement → Prop
  | .fact f => f ∈ kb.facts
  | .rule r => r ∈ kb.rules

theorem holds_foldl {s : Statement} {ss : List Statement} {kb : KnowledgeBase} (h : s ∈ ss ∨ kb.Holds s) :
    (ss.foldl addStatement kb).Holds s := by
  rw [foldl_addStatement]
  cases s with
  | fact f => exact FactSet.mem_insertAll.mpr (h.symm.imp_right fun hs => List.mem_filterMap.mpr ⟨_, hs, rfl⟩)
  | rule r => exact List.mem_append.mpr (h.symm.imp_right fun hs => List.mem_filterMap.mpr ⟨_, hs, rfl⟩)

/-- The unfinished lines are passed over, and no other line with a keyword is: unless the puzzle is refused, its fact or
rule is in the knowledge base. -/
theorem statement_of_line {text : String} {l body : List Char} (hl : l ∈ text.toList.splitOn '\n')
    (h : States (ruleKeywords ++ factKeywords) (trim l) body) :
    (Unfinished (trim l) → readStatement l = .ok none) ∧
    (¬Unfinished (trim l) → (∃ n e, ofText text = .error (.malformed n e)) ∨
      ∃ kb s, ofText text = .ok kb ∧ readStatement l = .ok (some s) ∧ kb.Holds s) := by
  refine ⟨readStatement_of_unfinished, fun hu => ?_⟩
  rcases readLines_cases 1 (text.toList.splitOn '\n') with ⟨n, e, hlines⟩ | ⟨ss, hlines, hss⟩
  · exact .inl ⟨n, e, by rw [ofText, hlines]; rfl⟩
  · obtain ⟨s, hs, hsub⟩ := hss l hl
    obtain ⟨s, rfl⟩ := Option.isSome_iff_exists.mp (isSome_of_readStatement h hu hs)
    exact .inr ⟨_, s, by rw [ofText, hlines]; rfl, hs, holds_foldl (.inl (hsub (List.mem_singleton_self s)))⟩

theorem holds_of_fact_line : ∃ kb s, ofText "hecho: (p, a)\nregla:-> (q)" = .ok kb ∧
    readStatement "hecho: (p, a)".toList = .ok (some s) ∧ kb.Holds s := by
  have htext : ofText "hecho: (p, a)\nregla:-> (q)" = .ok (.ofContents [⟨"p", [.const "a"]⟩] []) := by decide +kernel
  have hstates : States factKeywords "hecho: (p, a)".toList " (p, a)".toList :=
    ⟨"hecho", by decide, "hecho".toList, [], by decide, by decide, nofun⟩
  have htrim : trim "hecho: (p, a)".toList = "hecho: (p, a)".toList := by decide
  have hfinished : ¬Unfinished (trim "hecho: (p, a)".toList) := by
    rw [htrim]
    rintro (h | ⟨body, h, -⟩)
    · exact absurd (h.unique hstates colon_not_mem_factKeywords colon_not_mem_factKeywords) (by decide)
    · exact not_states_fact_of_rule h hstates
  have hline : "hecho: (p, a)".toList ∈ "hecho: (p, a)\nregla:-> (q)".toList.splitOn '\n' := by decide
  rcases (statement_of_line hline (htrim.symm ▸ states_append_iff.mpr (.inr hstates))).2 hfinished with
    ⟨n, e, h⟩ | h
  · rw [htext] at h
    cases h
  · exact h

/-- A rule without antecedents is refused when a blank stands in front of its arrow, and passed over when none does. -/
theorem not_holds_of_no_blank : (∃ body, States ruleKeywords "regla:-> (q)".toList body) ∧
    ofText "regla:-> (q)" = .ok .empty ∧ ofText "regla: -> (q)" = .error (.malformed 1 (.expectedClause "")) := by
  refine ⟨⟨"-> (q)".toList, "regla", by decide, "regla".toList, [], by decide, by decide, nofun⟩, ?_, ?_⟩
  · decide +kernel
  · decide +kernel

end KnowledgeBase

end LogicGrid
