import LogicGrid.Proofs.Grammar

/-!
# Terms that are read from their own text

The text of a term does not tell a constant from a variable, and a compound without arguments is written like a name. A
term is *legible* when its text shows what it is: its names can be read, constants are not shaped like variables and
variables are, and every compound has arguments (`Term.Legible`). Then its text is in the grammar (`Legible.termText`).
Between the arguments of a compound stands a comma with a blank behind it, and the grammar takes this blank as one in
front of the next argument (`argTexts_intercalate`).

* `readTerm_text` – legible terms are read from their texts, alone and as the arguments of a clause, so no two of them
  have the same text.
-/

namespace LogicGrid

open Text Puzzle

/-- The text of a term shows what the term is. -/
inductive Term.Legible : Term → Prop
  | const {c : String} : IsName c.toList → ¬VariableShaped c.toList → Legible (.const c)
  | var {x : String} : VariableShaped x.toList → Legible (.var x)
  | app {f : String} {args : List Term} : IsName f.toList → args ≠ [] → (∀ t ∈ args, Legible t) → Legible (.app f args)

/-- A fact as it is written in a puzzle: the predicate and the arguments in parentheses, with commas between them. -/
def Fact.clause (f : Fact) : String := "(" ++ String.intercalate ", " (f.predicate :: f.args.map Term.text) ++ ")"

namespace Puzzle

/-! ## Names of variables -/

section Names

variable {c : Char} {name : List Char}

theorem inRanges_eq_false_of_disjoint {ranges ranges' : List (Nat × Nat)}
    (hd : ∀ r ∈ ranges, ∀ s ∈ ranges', r.2 < s.1 ∨ s.2 < r.1) (h : inRanges ranges c = true) :
    inRanges ranges' c = false := by
  refine Bool.eq_false_iff.mpr fun h' => ?_
  obtain ⟨r, hr, hlow, hhigh⟩ := inRanges_iff.mp h
  obtain ⟨s, hs, hlow', hhigh'⟩ := inRanges_iff.mp h'
  have := hd r hr s hs
  omega

/-- No letter and no number is a blank. -/
theorem isBlank_of_isAlphanumeric (h : isAlphanumeric c = true) : isBlank c = false := by
  rcases Bool.or_eq_true_iff.mp h with h | h
  · exact inRanges_eq_false_of_disjoint (by decide +kernel) h
  · exact inRanges_eq_false_of_disjoint (by decide +kernel) h

/-- A name in the shape of a variable needs no further care: it holds no blanks, parentheses or commas. -/
theorem VariableShaped.isName (h : VariableShaped name) : IsName name := by
  obtain ⟨⟨first, hfirst, -⟩, hall⟩ := h
  have hblank : ∀ c ∈ name, isBlank c = false := by
    intro c hc
    rcases hall c hc with hc | rfl
    · exact isBlank_of_isAlphanumeric hc
    · decide
  have hother : ∀ d, isAlphanumeric d = false → d ≠ '_' → ∀ c ∈ name, c ≠ d := by
    rintro d hd hne c hc rfl
    rcases hall c hc with hc | hc
    · rw [hd] at hc
      cases hc
    · exact hne hc
  refine ⟨?nonempty, ⟨?head, ?last⟩, fun c hc => ⟨?_, ?_, ?_⟩⟩
  case nonempty =>
    rintro rfl
    cases hfirst
  case head => exact fun c hc => hblank c (List.mem_of_mem_head? hc)
  case last => exact fun c hc => hblank c (List.mem_of_getLast? hc)
  · exact hother '(' (by decide +kernel) (by decide) c hc
  · exact hother ')' (by decide +kernel) (by decide) c hc
  · exact hother ',' (by decide +kernel) (by decide) c hc

end Names

/-! ## Texts of legible terms -/

section Texts

variable {cs ds core name : List Char} {t : Term} {ts : List Term}

theorem padded_refl (cs : List Char) : Padded cs cs := ⟨[], [], blank_nil, blank_nil, by simp⟩

theorem Padded.trans (h : Padded cs ds) (h' : Padded ds core) : Padded cs core := by
  obtain ⟨before, after, hb, ha, rfl⟩ := h
  obtain ⟨before', after', hb', ha', rfl⟩ := h'
  exact ⟨before ++ before', after' ++ after, List.forall_mem_append.mpr ⟨hb, hb'⟩,
    List.forall_mem_append.mpr ⟨ha', ha⟩, by simp⟩

/-- Blanks may be put around the text of a term. -/
theorem TermText.pad (h : TermText ds t) (hp : Padded cs ds) : TermText cs t := by
  cases h with
  | var h hn hv => exact .var (hp.trans h) hn hv
  | const h hn hv => exact .const (hp.trans h) hn hv
  | bare h hn hg hi => exact .bare (hp.trans h) hn hg hi
  | compound h hn hg ha => exact .compound (hp.trans h) hn hg ha

/-- Texts of terms with commas and blanks between them, and blanks in front. -/
theorem argTexts_intercalate : ∀ {ts : List Term} {t : Term} {gap : List Char}, Blank gap →
    (∀ u ∈ t :: ts, TermText u.text.toList u) →
      ArgTexts (gap ++ [',', ' '].intercalate ((t :: ts).map (·.text.toList))) (t :: ts)
  | [], t, gap, hgap, h => by
    have hpad : Padded (gap ++ t.text.toList) t.text.toList := ⟨gap, [], hgap, blank_nil, by simp⟩
    simpa using ArgTexts.last ((h t List.mem_cons_self).pad hpad)
  | u :: ts, t, gap, hgap, h => by
    obtain ⟨ht, hts⟩ := List.forall_mem_cons.mp h
    have hpad : Padded (gap ++ t.text.toList) t.text.toList := ⟨gap, [], hgap, blank_nil, by simp⟩
    have hrest := argTexts_intercalate blank_space hts
    rw [List.map_cons, List.map_cons, List.intercalate_cons_cons]
    simpa using ArgTexts.more (ht.pad hpad) hrest

theorem text_const (c : String) : (Term.const c).text = c := by rw [Term.text]

theorem text_var (x : String) : (Term.var x).text = x := by rw [Term.text]

theorem toList_text_app {f : String} {args : List Term} (h : args ≠ []) : (Term.app f args).text.toList =
    f.toList ++ '(' :: ([',', ' '].intercalate (args.map (·.text.toList)) ++ [')']) := by
  have hne : (args.map Term.text).isEmpty = false := by simpa using h
  rw [Term.text, Term.textArgs_eq, Term.application, hne]
  simp [String.toList_intercalate, Function.comp_def]

/-- **The text of a legible term is in the grammar.** -/
theorem Legible.termText (h : t.Legible) : TermText t.text.toList t := by
  induction h with
  | @const c hn hv => simpa [text_const] using TermText.const (padded_refl c.toList) hn hv
  | @var x hv => simpa [text_var] using TermText.var (padded_refl x.toList) hv.isName hv
  | @app f args hn hne _ ih =>
    obtain ⟨t, ts, rfl⟩ := List.exists_cons_of_ne_nil hne
    have hargs : ArgTexts ([',', ' '].intercalate ((t :: ts).map (·.text.toList))) (t :: ts) :=
      argTexts_intercalate blank_nil ih
    have happ := TermText.compound (padded_refl _) hn blank_nil hargs
    rw [toList_text_app hne]
    simpa using happ

theorem toList_clause (f : Fact) : f.clause.toList =
    '(' :: ([',', ' '].intercalate (f.predicate.toList :: f.args.map (·.text.toList)) ++ [')']) := by
  simp [Fact.clause, String.toList_intercalate, Function.comp_def]

/-- A clause with legible arguments is in the grammar. -/
theorem clauseText_clause {f : Fact} (hp : IsName f.predicate.toList) (hargs : ∀ t ∈ f.args, t.Legible) :
    ClauseText f.clause.toList f := by
  obtain ⟨predicate, args⟩ := f
  rw [toList_clause]
  cases args with
  | nil =>
    have hbare := ClauseText.bare (padded_refl _) (padded_refl predicate.toList) hp
    simpa using hbare
  | cons t ts =>
    have htexts : ArgTexts ([' '] ++ [',', ' '].intercalate ((t :: ts).map (·.text.toList))) (t :: ts) :=
      argTexts_intercalate blank_space fun u hu => Legible.termText (hargs u hu)
    have hwith := ClauseText.withArgs (padded_refl _) (padded_refl predicate.toList) hp htexts
    rw [List.map_cons, List.intercalate_cons_cons]
    simpa using hwith

end Texts

/-- **Legible terms are read from their texts**, alone and as the arguments of a clause with any predicate that is a
name. So distinct legible terms have distinct texts. -/
theorem readTerm_text :
    (∀ t : Term, t.Legible → readTerm t.text.toList = .ok t) ∧
    (∀ f : Fact, IsName f.predicate.toList → (∀ t ∈ f.args, t.Legible) → readFact f.clause.toList = .ok f) ∧
    ∀ t u : Term, t.Legible → u.Legible → t.text = u.text → t = u := by
  have hread : ∀ t : Term, t.Legible → readTerm t.text.toList = .ok t := fun t ht => (Legible.termText ht).readTerm_eq
  refine ⟨hread, fun f hp hargs => (clauseText_clause hp hargs).readFact_eq, fun t u ht hu e => ?_⟩
  have hsame : Except.ok t = (.ok u : Except SyntaxError Term) :=
    calc Except.ok t = readTerm t.text.toList := (hread t ht).symm
      _ = readTerm u.text.toList := by rw [e]
      _ = .ok u := hread u hu
  exact Except.ok.inj hsame

/-- The terms `par(X_1, f(rojo claro))` and `3`, in a clause. -/
def nestedPair : Fact := ⟨"junto", [.app "par" [.var "X_1", .app "f" [.const "rojo claro"]], .const "3"]⟩

theorem legible_nestedPair : ∀ t ∈ nestedPair.args, t.Legible := by
  have hvar : (Term.var "X_1").Legible := .var (by decide +kernel)
  have hconst : (Term.const "rojo claro").Legible := .const (by decide +kernel) (by decide +kernel)
  have hinner : (Term.app "f" [.const "rojo claro"]).Legible :=
    .app (by decide +kernel) (by decide) (List.forall_mem_singleton.mpr hconst)
  have hpair : (Term.app "par" [.var "X_1", .app "f" [.const "rojo claro"]]).Legible :=
    .app (by decide +kernel) (by decide) (List.forall_mem_cons.mpr ⟨hvar, List.forall_mem_singleton.mpr hinner⟩)
  have hnumber : (Term.const "3").Legible := .const (by decide +kernel) (by decide +kernel)
  exact List.forall_mem_cons.mpr ⟨hpair, List.forall_mem_singleton.mpr hnumber⟩

/-- Blanks stand inside a name and behind the commas, and the terms are told apart. -/
theorem readTerm_text_nestedPair : IsName nestedPair.predicate.toList ∧ (∀ t ∈ nestedPair.args, t.Legible) ∧
    readTerm "par(X_1, f(rojo claro))".toList = .ok (.app "par" [.var "X_1", .app "f" [.const "rojo claro"]]) ∧
    readFact "(junto, par(X_1, f(rojo claro)), 3)".toList = .ok nestedPair ∧
    (Term.app "par" [.var "X_1", .app "f" [.const "rojo claro"]]).text ≠ (Term.const "3").text := by
  obtain ⟨hread, hclause, htext⟩ := readTerm_text
  have hname : IsName nestedPair.predicate.toList := by decide +kernel
  obtain ⟨hpair, hnumber⟩ := List.forall_mem_cons.mp legible_nestedPair
  refine ⟨hname, legible_nestedPair, hread _ hpair, hclause _ hname legible_nestedPair, fun e => ?_⟩
  exact absurd (htext _ _ hpair (hnumber _ List.mem_cons_self) e) (by decide)

end Puzzle

end LogicGrid
