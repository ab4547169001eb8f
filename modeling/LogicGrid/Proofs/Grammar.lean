import LogicGrid.Puzzle.Reader
import Mathlib.Data.List.DropRight
import Mathlib.Data.List.TakeWhile

/-!
# The grammar of clauses

`TermText` and `ClauseText` say which texts are terms and clauses, and of which ones, without a word on how they are
read: a name stands between blanks, and its shape makes it a variable or a constant; a compound is a functor with
parentheses behind it, and these hold blanks only or terms with commas between them.

The reader first cuts a text at the commas outside parentheses. A text *passes* at a depth when it goes through that cut
in one piece and leads back to the depth (`Passes`). Terms pass at every depth, rows of arguments inside parentheses, so
the cut finds the arguments (`ArgTexts.exists_parts`). Back from a result: what the cut gives are parts that it does not
cut again (`parts_of_splitCommas`), and up to its first parenthesis such a part is free of commas and parentheses
(`plain_of_isPart`).

* `readFact_exact` – a clause is read exactly from the texts of the grammar, a text has one reading, and every other
  text is an error on its line.
-/

namespace LogicGrid.Puzzle

open Text

/-! ## Blanks -/

/-- There are only blanks in the text. -/
def Blank (cs : List Char) : Prop := ∀ c ∈ cs, isBlank c = true

/-- Nothing but blanks stands around `core` in the text. -/
def Padded (cs core : List Char) : Prop := ∃ before after, Blank before ∧ Blank after ∧ cs = before ++ core ++ after

/-- Neither the first nor the last character of the text is a blank. -/
structure Solid (cs : List Char) : Prop where
  head : ∀ c ∈ cs.head?, isBlank c = false
  last : ∀ c ∈ cs.getLast?, isBlank c = false

section Blanks

variable {cs core : List Char}

theorem blank_nil : Blank [] := nofun

theorem blank_space : Blank [' '] := List.forall_mem_singleton.mpr (by decide)

theorem trimStart_of_blank (h : Blank cs) (ds : List Char) : trimStart (cs ++ ds) = trimStart ds :=
  List.dropWhile_append_of_pos h

theorem trimEnd_of_blank (h : Blank cs) (ds : List Char) : trimEnd (ds ++ cs) = trimEnd ds := by
  have hr : ∀ c ∈ cs.reverse, isBlank c = true := fun c hc => h c (List.mem_reverse.mp hc)
  rw [trimEnd, trimEnd, List.reverse_append, List.dropWhile_append_of_pos hr]

theorem trim_of_blank (h : Blank cs) : trim cs = [] := by
  have hstart : trimStart (cs ++ []) = [] := trimStart_of_blank h []
  rw [List.append_nil] at hstart
  rw [trim, hstart]
  rfl

theorem Solid.trimEnd_eq (h : Solid core) : trimEnd core = core := List.rdropWhile_eq_self_iff.mpr fun hl => by
  simp [h.last _ (List.getLast?_eq_some_getLast hl)]

theorem Solid.trimStart_append (h : Solid core) (hne : core ≠ []) (ds : List Char) :
    trimStart (core ++ ds) = core ++ ds := by
  obtain ⟨c, rest, rfl⟩ := List.exists_cons_of_ne_nil hne
  rw [trimStart, List.cons_append, List.dropWhile_cons, if_neg (by simp [h.head c rfl])]

/-- Trimming finds the core of a text. -/
theorem trim_of_padded (h : Padded cs core) (hs : Solid core) : trim cs = core := by
  obtain ⟨before, after, hb, ha, rfl⟩ := h
  by_cases hne : core = []
  · rw [hne, List.append_nil]
    exact trim_of_blank (List.forall_mem_append.mpr ⟨hb, ha⟩)
  · rw [trim, List.append_assoc, trimStart_of_blank hb, hs.trimStart_append hne, trimEnd_of_blank ha, hs.trimEnd_eq]

theorem padded_trim (cs : List Char) : Padded cs (trim cs) := by
  have hstart : cs.takeWhile isBlank ++ trimStart cs = cs := List.takeWhile_append_dropWhile
  have hend : trim cs ++ ((trimStart cs).reverse.takeWhile isBlank).reverse = trimStart cs := by
    rw [trim, trimEnd, ← List.reverse_append, List.takeWhile_append_dropWhile, List.reverse_reverse]
  refine ⟨cs.takeWhile isBlank, ((trimStart cs).reverse.takeWhile isBlank).reverse,
    fun c hc => List.mem_takeWhile_imp hc, fun c hc => ?_, by rw [List.append_assoc, hend, hstart]⟩
  exact List.mem_takeWhile_imp (List.mem_reverse.mp hc)

theorem Padded.subset (h : Padded cs core) : core ⊆ cs := by
  obtain ⟨before, after, -, -, rfl⟩ := h
  exact fun c hc => List.mem_append_left _ (List.mem_append_right _ hc)

theorem Padded.mem (h : Padded cs core) {c : Char} (hc : c ∈ cs) (hb : isBlank c = false) : c ∈ core := by
  obtain ⟨before, after, hbefore, hafter, rfl⟩ := h
  rcases List.mem_append.mp hc with hc | hc
  · exact (List.mem_append.mp hc).resolve_left fun hm => by simp [hbefore c hm] at hb
  · simp [hafter c hc] at hb

theorem trim_eq_nil_iff : trim cs = [] ↔ Blank cs := by
  refine ⟨fun h => ?_, trim_of_blank⟩
  obtain ⟨before, after, hb, ha, e⟩ := padded_trim cs
  rw [e, h, List.append_nil]
  exact List.forall_mem_append.mpr ⟨hb, ha⟩

theorem solid_trim (cs : List Char) : Solid (trim cs) where
  head c hc := by
    obtain ⟨rest, e⟩ : trim cs <+: trimStart cs := List.rdropWhile_prefix isBlank _
    have hfirst : (trimStart cs).head? = some c := by rw [← e, List.head?_append, hc]; rfl
    have hnot := List.head?_dropWhile_not isBlank cs
    rw [← trimStart, hfirst] at hnot
    simpa using hnot
  last c hc := by
    obtain ⟨hne, rfl⟩ := List.mem_getLast?_eq_getLast hc
    exact Bool.eq_false_iff.mpr (List.rdropWhile_last_not isBlank (trimStart cs) hne)

end Blanks

/-! ## Texts of terms and clauses -/

/-- No parentheses and no commas. -/
def Plain (cs : List Char) : Prop := ∀ c ∈ cs, c ≠ '(' ∧ c ≠ ')' ∧ c ≠ ','

/-- A name: some characters without parentheses and commas, and no blank at either end. -/
structure IsName (name : List Char) : Prop where
  nonempty : name ≠ []
  solid : Solid name
  plain : Plain name

/-- A name that starts in upper case and is made up of letters, numbers and underscores. -/
def VariableShaped (name : List Char) : Prop :=
  (∃ c ∈ name.head?, isUppercase c = true) ∧ ∀ c ∈ name, isAlphanumeric c = true ∨ c = '_'

instance (name : List Char) : Decidable (IsName name) :=
  decidable_of_iff (name ≠ [] ∧ (name.head?.all (!isBlank ·) = true ∧ name.getLast?.all (!isBlank ·) = true) ∧
      name.all (fun c => c != '(' && c != ')' && c != ',') = true) <| by
    have hplain : name.all (fun c => c != '(' && c != ')' && c != ',') = true ↔ Plain name := by
      simp [Plain, and_assoc]
    rw [hplain]
    simp only [Option.all_eq_true, Bool.not_eq_true']
    exact ⟨fun ⟨hne, ⟨hhead, hlast⟩, hp⟩ => ⟨hne, ⟨hhead, hlast⟩, hp⟩,
      fun h => ⟨h.nonempty, ⟨h.solid.head, h.solid.last⟩, h.plain⟩⟩

instance (name : List Char) : Decidable (VariableShaped name) :=
  decidable_of_iff (name.head?.any isUppercase = true ∧ name.all (fun c => isAlphanumeric c || c == '_') = true) <| by
    simp [VariableShaped, Option.any_eq_true]

mutual

/-- The texts of a term. -/
inductive TermText : List Char → Term → Prop
  | var {cs name : List Char} : Padded cs name → IsName name → VariableShaped name →
      TermText cs (.var (String.ofList name))
  | const {cs name : List Char} : Padded cs name → IsName name → ¬VariableShaped name →
      TermText cs (.const (String.ofList name))
  /-- Parentheses around blanks hold no arguments. -/
  | bare {cs functor gap inner : List Char} : Padded cs (functor ++ gap ++ '(' :: (inner ++ [')'])) → IsName functor →
      Blank gap → Blank inner → TermText cs (.app (String.ofList functor) [])
  | compound {cs functor gap inner : List Char} {args : List Term} :
      Padded cs (functor ++ gap ++ '(' :: (inner ++ [')'])) → IsName functor → Blank gap → ArgTexts inner args →
      TermText cs (.app (String.ofList functor) args)

/-- The texts of one or more terms, with commas between them. -/
inductive ArgTexts : List Char → List Term → Prop
  | last {cs : List Char} {t : Term} : TermText cs t → ArgTexts cs [t]
  | more {cs rest : List Char} {t : Term} {ts : List Term} : TermText cs t → ArgTexts rest ts →
      ArgTexts (cs ++ ',' :: rest) (t :: ts)

end

/-- The texts of a clause. -/
inductive ClauseText : List Char → Fact → Prop
  | bare {cs first predicate : List Char} : Padded cs ('(' :: (first ++ [')'])) → Padded first predicate →
      IsName predicate → ClauseText cs ⟨String.ofList predicate, []⟩
  | withArgs {cs first predicate rest : List Char} {args : List Term} :
      Padded cs ('(' :: (first ++ ',' :: rest ++ [')'])) → Padded first predicate → IsName predicate →
      ArgTexts rest args → ClauseText cs ⟨String.ofList predicate, args⟩

section

variable {cs ds name : List Char}

theorem Blank.plain (h : Blank cs) : Plain cs := by
  intro c hc
  refine ⟨?_, ?_, ?_⟩ <;> rintro rfl <;> exact absurd (h _ hc) (by decide)

theorem Plain.append (h : Plain cs) (h' : Plain ds) : Plain (cs ++ ds) := List.forall_mem_append.mpr ⟨h, h'⟩

theorem Padded.plain (h : Padded cs name) (hn : Plain name) : Plain cs := by
  obtain ⟨before, after, hb, ha, rfl⟩ := h
  exact (hb.plain.append hn).append ha.plain

theorem getLast?_parentheses (inner : List Char) : ('(' :: (inner ++ [')'])).getLast? = some ')' := by
  rw [← List.cons_append, List.getLast?_concat]

theorem solid_parentheses (inner : List Char) : Solid ('(' :: (inner ++ [')'])) where
  head c hc := by
    cases hc
    decide
  last c hc := by
    cases hc.symm.trans (getLast?_parentheses inner)
    decide

theorem IsName.solid_compound (h : IsName name) (gap inner : List Char) :
    Solid (name ++ gap ++ '(' :: (inner ++ [')'])) where
  head c hc := by
    rw [List.append_assoc, List.head?_append_of_ne_nil _ h.nonempty] at hc
    exact h.solid.head c hc
  last c hc := by
    rw [List.getLast?_append_of_ne_nil _ (by simp)] at hc
    exact (solid_parentheses inner).last c hc

end

/-! ## The cut at commas -/

section Cut

variable {n : Nat} {c : Char} {cs ds p inner : List Char} {ps : List (List Char)}

theorem splitCommas_open (n : Nat) (cs : List Char) :
    splitCommas n ('(' :: cs) = (splitCommas (n + 1) cs).map (extendFirst '(') := by
  rw [splitCommas]

theorem splitCommas_close (n : Nat) (cs : List Char) :
    splitCommas (n + 1) (')' :: cs) = (splitCommas n cs).map (extendFirst ')') := by
  rw [splitCommas]

theorem splitCommas_comma (cs : List Char) : splitCommas 0 (',' :: cs) = (splitCommas 0 cs).map ([] :: ·) := by
  rw [splitCommas]

/-- A comma is a character like others inside parentheses. -/
theorem splitCommas_other (n : Nat) (h : c ≠ '(' ∧ c ≠ ')') (hc : c = ',' → n ≠ 0) (cs : List Char) :
    splitCommas n (c :: cs) = (splitCommas n cs).map (extendFirst c) := by
  rw [splitCommas]
  · exact h.1
  · exact fun _ => h.2
  · exact fun _ _ => h.2
  · exact fun hn hcomma => hc hcomma hn

theorem foldr_extendFirst : ∀ cs : List Char, cs.foldr extendFirst (p :: ps) = (cs ++ p) :: ps
  | [] => rfl
  | c :: cs => by rw [List.foldr_cons, foldr_extendFirst cs, extendFirst, List.cons_append]

/-- The text goes through the cut at depth `n` in one piece and leads back to that depth. -/
def Passes (n : Nat) (cs : List Char) : Prop :=
  ∀ rest, splitCommas n (cs ++ rest) = (splitCommas n rest).map (cs.foldr extendFirst ·)

theorem Passes.append (h : Passes n cs) (h' : Passes n ds) : Passes n (cs ++ ds) := by
  intro rest
  rw [List.append_assoc, h, h', Option.map_map]
  simp [Function.comp_def]

theorem passes_nil (n : Nat) : Passes n [] := fun rest => by simp

theorem passes_singleton (h : c ≠ '(' ∧ c ≠ ')') (hc : c = ',' → n ≠ 0) : Passes n [c] :=
  fun rest => splitCommas_other n h hc rest

theorem Plain.passes (h : Plain cs) (n : Nat) : Passes n cs := by
  induction cs with
  | nil => exact passes_nil n
  | cons c cs ih =>
    obtain ⟨hc, hcs⟩ := List.forall_mem_cons.mp h
    exact (passes_singleton ⟨hc.1, hc.2.1⟩ fun e => absurd e hc.2.2).append (ih hcs)

/-- Parentheses around what passes one level deeper. -/
theorem Passes.parentheses (h : Passes (n + 1) inner) : Passes n ('(' :: (inner ++ [')'])) := by
  intro rest
  have hin : splitCommas (n + 1) (inner ++ ')' :: rest) =
      ((splitCommas n rest).map (extendFirst ')')).map (inner.foldr extendFirst ·) := by
    rw [h, splitCommas_close]
  rw [List.cons_append, splitCommas_open, List.append_assoc]
  show (splitCommas (n + 1) (inner ++ ')' :: rest)).map _ = _
  rw [hin, Option.map_map, Option.map_map]
  simp [Function.comp_def]

theorem Padded.passes (h : Padded cs ds) (hp : Passes n ds) : Passes n cs := by
  obtain ⟨before, after, hb, ha, rfl⟩ := h
  exact ((hb.plain.passes n).append hp).append (ha.plain.passes n)

/-- A part between commas, which the cut leaves in one piece. -/
def IsPart (cs : List Char) : Prop := splitCommas 0 cs = some [cs]

theorem Passes.isPart (h : Passes 0 cs) : IsPart cs := by
  have hcs := h []
  rw [List.append_nil] at hcs
  rw [IsPart, hcs, splitCommas, Option.map_some, foldr_extendFirst, List.append_nil]

theorem Passes.splitCommas_append (h : Passes 0 cs) (rest : List Char) :
    splitCommas 0 (cs ++ ',' :: rest) = (splitCommas 0 rest).map (cs :: ·) := by
  rw [h, splitCommas_comma, Option.map_map]
  congr 1
  funext ps
  simp [foldr_extendFirst]

end Cut

/-! ## From texts to terms -/

section Complete

variable {cs ds name functor gap inner rest : List Char} {t : Term} {ts : List Term} {f : Fact}

mutual

theorem TermText.passes : ∀ {cs : List Char} {t : Term}, TermText cs t → ∀ n, Passes n cs
  | _, _, .var h hn _, n | _, _, .const h hn _, n => h.passes (hn.plain.passes n)
  | _, _, .bare h hn hg hi, n =>
    h.passes (((hn.plain.append hg.plain).passes n).append (Passes.parentheses (hi.plain.passes (n + 1))))
  | _, _, .compound h hn hg ha, n =>
    h.passes (((hn.plain.append hg.plain).passes n).append (Passes.parentheses (ha.passes n)))

theorem ArgTexts.passes : ∀ {cs : List Char} {ts : List Term}, ArgTexts cs ts → ∀ n, Passes (n + 1) cs
  | _, _, .last h, n => h.passes (n + 1)
  | _, _, .more h ha, n =>
    have hcomma : Passes (n + 1) [','] := passes_singleton (by decide) fun _ => Nat.succ_ne_zero n
    (h.passes (n + 1)).append (hcomma.append (ha.passes n))

end

theorem dropLast?_eq_some_iff {c : Char} : dropLast? c cs = some ds ↔ cs = ds ++ [c] := by
  rw [dropLast?]
  constructor
  · intro h
    split at h
    · next hl =>
      cases h
      exact (List.dropLast_append_getLast? c hl).symm
    · cases h
  · rintro rfl
    simp

theorem cutParenthesis_eq_some_iff : cutParenthesis cs = some (ds, rest) ↔ cs = ds ++ '(' :: rest ∧ '(' ∉ ds := by
  have happ : cs.takeWhile (· != '(') ++ cs.dropWhile (· != '(') = cs := List.takeWhile_append_dropWhile
  have hfirst := List.head?_dropWhile_not (· != '(') cs
  have hbefore : '(' ∉ cs.takeWhile (· != '(') := fun h => by simpa using List.mem_takeWhile_imp h
  constructor
  · intro h
    rw [cutParenthesis] at h
    split at h
    · cases h
    · next c _ e =>
      cases h
      rw [e] at happ hfirst
      have hc : c = '(' := by simpa using hfirst
      exact ⟨hc ▸ happ.symm, hbefore⟩
  · rintro ⟨rfl, h⟩
    have hall : ∀ c ∈ ds, (c != '(') = true := fun c hc => by simpa using fun e : c = '(' => h (e ▸ hc)
    rw [cutParenthesis, List.dropWhile_append_of_pos hall, List.takeWhile_append_of_pos hall]
    simp

theorem cutParenthesis_eq_none_iff : cutParenthesis cs = none ↔ '(' ∉ cs := by
  rw [cutParenthesis]
  constructor
  · intro h
    split at h
    · next e =>
      have hall := List.dropWhile_eq_nil_iff.mp e
      exact fun hmem => by simpa using hall _ hmem
    · cases h
  · intro h
    have hall : ∀ c ∈ cs, (c != '(') = true := fun c hc => by simpa using fun e : c = '(' => h (e ▸ hc)
    rw [List.dropWhile_eq_nil_iff.mpr hall]

theorem shape_of_name (h : Padded cs name) (hn : IsName name) : shape cs = .ok (.name name) := by
  have hcut : cutParenthesis name = none := cutParenthesis_eq_none_iff.mpr fun hc => (hn.plain _ hc).1 rfl
  have hclose : ')' ∉ name := fun hc => (hn.plain _ hc).2.1 rfl
  rw [shape, trim_of_padded h hn.solid]
  simp [hn.nonempty, hcut, hclose]

/-- A compound without arguments, or with those at which its inside is cut. -/
theorem shape_of_compound (h : Padded cs (functor ++ gap ++ '(' :: (inner ++ [')']))) (hn : IsName functor)
    (hg : Blank gap) : (trim inner = [] → shape cs = .ok (.application functor [])) ∧
      ∀ args, trim inner ≠ [] → splitCommas 0 inner = some args → shape cs = .ok (.application functor args) := by
  have htext : trim cs = functor ++ gap ++ '(' :: (inner ++ [')']) := trim_of_padded h (hn.solid_compound gap inner)
  have hcut : cutParenthesis (functor ++ gap ++ '(' :: (inner ++ [')'])) = some (functor ++ gap, inner ++ [')']) :=
    cutParenthesis_eq_some_iff.mpr ⟨rfl, fun hc => ((hn.plain.append hg.plain) _ hc).1 rfl⟩
  have hlast : dropLast? ')' (inner ++ [')']) = some inner := dropLast?_eq_some_iff.mpr rfl
  have hfunctor : trim (functor ++ gap) = functor := trim_of_padded ⟨[], gap, blank_nil, hg, rfl⟩ hn.solid
  have hne : (functor ++ gap ++ '(' :: (inner ++ [')'])).isEmpty = false := by simp
  have hfne : functor.isEmpty = false := List.isEmpty_eq_false_iff.mpr hn.nonempty
  refine ⟨fun hinner => ?_, fun args hinner hargs => ?_⟩
  · simp only [shape, htext, hne, hcut, hlast, hfunctor, hfne, hinner, List.isEmpty_nil, Bool.false_eq_true, if_false,
      if_true]
  · simp only [shape, htext, hne, hcut, hlast, hfunctor, hfne, List.isEmpty_eq_false_iff.mpr hinner, hargs,
      Bool.false_eq_true, if_false]

theorem isVariableName_iff : isVariableName name = true ↔ VariableShaped name := by
  cases name with
  | nil => simp [isVariableName, VariableShaped]
  | cons c cs => simp [isVariableName, VariableShaped]

theorem readTerm_of_name (h : shape cs = .ok (.name name)) : readTerm cs = .ok (nameTerm name) := by
  rw [readTerm]
  split
  · next e => cases h.symm.trans e; rfl
  · next e => cases h.symm.trans e
  · next e => cases h.symm.trans e

theorem readTerm_of_application {args : List (List Char)} (h : shape cs = .ok (.application functor args)) :
    readTerm cs = (readTerms args).map (.app (String.ofList functor)) := by
  rw [readTerm]
  split
  · next e => cases h.symm.trans e
  · next e => cases h.symm.trans e; rfl
  · next e => cases h.symm.trans e

theorem readTerm_of_error {e : SyntaxError} (h : shape cs = .error e) : readTerm cs = .error e := by
  rw [readTerm]
  split
  · next e => cases h.symm.trans e
  · next e => cases h.symm.trans e
  · next e => cases h.symm.trans e; rfl

/-- A term has characters that are no blanks. -/
theorem TermText.trim_ne_nil (h : TermText cs t) : trim cs ≠ [] := by
  cases h with
  | var h hn _ | const h hn _ => exact trim_of_padded h hn.solid ▸ hn.nonempty
  | bare h hn => exact trim_of_padded h (hn.solid_compound _ _) ▸ by simp
  | compound h hn => exact trim_of_padded h (hn.solid_compound _ _) ▸ by simp

theorem ArgTexts.not_blank (h : ArgTexts cs ts) : ¬Blank cs := by
  cases h with
  | last h => exact fun hb => h.trim_ne_nil (trim_of_blank hb)
  | more h _ => exact fun hb => absurd (hb ',' (by simp)) (by decide)

mutual

theorem TermText.readTerm_eq : ∀ {cs : List Char} {t : Term}, TermText cs t → readTerm cs = .ok t
  | _, _, .var h hn hv => by
    rw [readTerm_of_name (shape_of_name h hn), nameTerm, if_pos (isVariableName_iff.mpr hv)]
  | _, _, .const h hn hv => by
    rw [readTerm_of_name (shape_of_name h hn), nameTerm, if_neg (mt isVariableName_iff.mp hv)]
  | _, _, .bare h hn hg hi => by
    rw [readTerm_of_application ((shape_of_compound h hn hg).1 (trim_of_blank hi)), readTerms]
    rfl
  | _, _, @TermText.compound _ _ _ inner _ h hn hg ha => by
    obtain ⟨parts, hsplit, hread⟩ := ha.exists_parts
    have hne : trim inner ≠ [] := mt trim_eq_nil_iff.mp ha.not_blank
    rw [readTerm_of_application ((shape_of_compound h hn hg).2 parts hne hsplit), hread]
    rfl

/-- The cut finds the arguments. -/
theorem ArgTexts.exists_parts : ∀ {cs : List Char} {ts : List Term}, ArgTexts cs ts →
    ∃ parts, splitCommas 0 cs = some parts ∧ readTerms parts = .ok ts
  | cs, _, .last h => ⟨[cs], (h.passes 0).isPart, by rw [readTerms, h.readTerm_eq, readTerms]; rfl⟩
  | _, _, @ArgTexts.more cs _ _ _ h ha => by
    obtain ⟨parts, hsplit, hread⟩ := ha.exists_parts
    refine ⟨cs :: parts, ?_, ?_⟩
    · rw [(h.passes 0).splitCommas_append, hsplit]
      rfl
    · rw [readTerms, h.readTerm_eq, hread]
      rfl

end

end Complete

/-! ## From terms to texts -/

section Sound

variable {n : Nat} {cs ds name functor inner : List Char} {ps args : List (List Char)} {t : Term} {ts : List Term}

theorem intercalate_extendFirst {c : Char} {p : List Char} :
    [','].intercalate ((c :: p) :: ps) = c :: [','].intercalate (p :: ps) := by
  cases ps <;> simp [List.intercalate_cons_cons]

/-- What the cut gives are parts, and with commas between them they make up the text. -/
theorem parts_of_splitCommas (h : splitCommas n cs = some ps) : ∃ p rest, ps = p :: rest ∧
    [','].intercalate (p :: rest) = cs ∧ splitCommas n p = some [p] ∧ ∀ q ∈ rest, IsPart q := by
  fun_induction splitCommas n cs generalizing ps with
  | case1 =>
    cases h
    exact ⟨[], [], rfl, rfl, by rw [splitCommas], List.forall_mem_nil _⟩
  | case2 => cases h
  | case3 n cs ih =>
    obtain ⟨qs, hq, rfl⟩ := Option.map_eq_some_iff.mp h
    obtain ⟨p, rest, rfl, rfl, hp, hrest⟩ := ih hq
    exact ⟨'(' :: p, rest, rfl, intercalate_extendFirst, by rw [splitCommas_open, hp]; rfl, hrest⟩
  | case4 => cases h
  | case5 n cs ih =>
    obtain ⟨qs, hq, rfl⟩ := Option.map_eq_some_iff.mp h
    obtain ⟨p, rest, rfl, rfl, hp, hrest⟩ := ih hq
    exact ⟨')' :: p, rest, rfl, intercalate_extendFirst, by rw [splitCommas_close, hp]; rfl, hrest⟩
  | case6 cs ih =>
    obtain ⟨qs, hq, rfl⟩ := Option.map_eq_some_iff.mp h
    obtain ⟨p, rest, rfl, rfl, hp, hrest⟩ := ih hq
    exact ⟨[], p :: rest, rfl, List.intercalate_cons_cons, by rw [splitCommas],
      List.forall_mem_cons.mpr ⟨hp, hrest⟩⟩
  | case7 n c cs hopen hzero hsucc hcomma ih =>
    obtain ⟨qs, hq, rfl⟩ := Option.map_eq_some_iff.mp h
    obtain ⟨p, rest, rfl, rfl, hp, hrest⟩ := ih hq
    have hother : splitCommas n (c :: p) = (splitCommas n p).map (extendFirst c) := by
      rw [splitCommas] <;> assumption
    exact ⟨c :: p, rest, rfl, intercalate_extendFirst, by rw [hother, hp]; rfl, hrest⟩

theorem map_extendFirst_eq_singleton {c : Char} (h : (splitCommas n cs).map (extendFirst c) = some [c :: ds]) :
    splitCommas n cs = some [ds] := by
  obtain ⟨ps, hps, e⟩ := Option.map_eq_some_iff.mp h
  obtain ⟨p, rest, rfl, -⟩ := parts_of_splitCommas hps
  rw [hps]
  simpa [extendFirst] using e

/-- In front of its first parenthesis a part is plain. -/
theorem plain_of_isPart (h : IsPart cs) (hp : ds <+: cs) (ho : '(' ∉ ds) : Plain ds := by
  obtain ⟨rest, rfl⟩ := hp
  induction ds with
  | nil => exact nofun
  | cons c ds ih =>
    have hc : c ≠ '(' := fun e => ho (e ▸ List.mem_cons_self)
    rw [IsPart, List.cons_append] at h
    have hclose : c ≠ ')' := by
      rintro rfl
      rw [splitCommas] at h
      cases h
    have hcomma : c ≠ ',' := by
      rintro rfl
      rw [splitCommas_comma] at h
      obtain ⟨ps, -, e⟩ := Option.map_eq_some_iff.mp h
      cases e
    rw [splitCommas_other 0 ⟨hc, hclose⟩ fun e => absurd e hcomma] at h
    have hrest : Plain ds := ih (fun hm => ho (List.mem_cons_of_mem _ hm)) (map_extendFirst_eq_singleton h)
    exact List.forall_mem_cons.mpr ⟨⟨hc, hclose, hcomma⟩, hrest⟩

/-- The name around which a part has blanks only. -/
theorem isName_trim (h : IsPart cs) (hne : trim cs ≠ []) (ho : '(' ∉ trim cs) : IsName (trim cs) := by
  have hopen : '(' ∉ cs := fun hm => ho ((padded_trim cs).mem hm (by decide))
  have hplain : Plain cs := plain_of_isPart h (List.prefix_refl cs) hopen
  exact ⟨hne, solid_trim cs, fun c hc => hplain c ((padded_trim cs).subset hc)⟩

/-- **What the outermost parentheses leave**: a text without any, or a functor and what stands inside. -/
theorem shape_cases {s : Shape} (h : shape cs = .ok s) :
    (s = .name (trim cs) ∧ trim cs ≠ [] ∧ '(' ∉ trim cs) ∨
    ∃ before inner args, s = .application (trim before) args ∧ trim cs = before ++ '(' :: (inner ++ [')']) ∧
      '(' ∉ before ∧ trim before ≠ [] ∧ (Blank inner ∧ args = [] ∨ splitCommas 0 inner = some args) := by
  simp only [shape, List.isEmpty_iff] at h
  split at h
  · cases h
  next hne =>
  split at h
  · next before rest hcut =>
    obtain ⟨htext, hbefore⟩ := cutParenthesis_eq_some_iff.mp hcut
    split at h
    · next inner hlast =>
      rw [dropLast?_eq_some_iff.mp hlast] at htext
      split at h
      · cases h
      next hfunctor =>
      split at h
      · next hblank =>
        cases h
        exact Or.inr ⟨before, inner, [], rfl, htext, hbefore, hfunctor, Or.inl ⟨trim_eq_nil_iff.mp hblank, rfl⟩⟩
      split at h
      · next args hsplit =>
        cases h
        exact Or.inr ⟨before, inner, args, rfl, htext, hbefore, hfunctor, Or.inr hsplit⟩
      · cases h
    · cases h
  · next hcut =>
    split at h
    · cases h
    · cases h
      exact Or.inl ⟨rfl, hne, cutParenthesis_eq_none_iff.mp hcut⟩

theorem name_of_shape (hp : IsPart cs) (h : shape cs = .ok (.name name)) : Padded cs name ∧ IsName name := by
  rcases shape_cases h with ⟨e, hne, ho⟩ | ⟨_, _, _, e, _⟩
  · cases e
    exact ⟨padded_trim cs, isName_trim hp hne ho⟩
  · cases e

theorem application_of_shape (hp : IsPart cs) (h : shape cs = .ok (.application functor args)) : ∃ gap inner,
    Padded cs (functor ++ gap ++ '(' :: (inner ++ [')'])) ∧ IsName functor ∧ Blank gap ∧
      (Blank inner ∧ args = [] ∨ splitCommas 0 inner = some args) := by
  rcases shape_cases h with ⟨e, _⟩ | ⟨head, inner, _, e, htext, ho, hne, hargs⟩
  · cases e
  · cases e
    obtain ⟨before, after, hb, ha, e⟩ := padded_trim cs
    have hopen : '(' ∉ before ++ head := fun hm => (List.mem_append.mp hm).elim (fun hm => (hb.plain _ hm).1 rfl) ho
    have hcs : cs = before ++ head ++ ('(' :: (inner ++ [')']) ++ after) := by rw [e, htext]; simp
    have hplain : Plain (before ++ head) := plain_of_isPart hp ⟨_, hcs.symm⟩ hopen
    have hhead : Plain head := (List.forall_mem_append.mp hplain).2
    have hname : IsName (trim head) := ⟨hne, solid_trim head, fun c hc => hhead c ((padded_trim head).subset hc)⟩
    obtain ⟨left, gap, hleft, hgap, ehead⟩ := padded_trim head
    refine ⟨gap, inner, ⟨before ++ left, after, List.forall_mem_append.mpr ⟨hb, hleft⟩, ha, ?_⟩, hname, hgap, hargs⟩
    calc cs = before ++ head ++ ('(' :: (inner ++ [')']) ++ after) := hcs
      _ = before ++ (left ++ trim head ++ gap) ++ ('(' :: (inner ++ [')']) ++ after) := by rw [← ehead]
      _ = before ++ left ++ (trim head ++ gap ++ '(' :: (inner ++ [')'])) ++ after := by simp

theorem exists_of_map_eq_ok {α β ε : Type _} {g : α → β} {r : Except ε α} {b : β} (h : r.map g = .ok b) :
    ∃ a, r = .ok a ∧ g a = b := by
  cases r with
  | error e => cases h
  | ok a => exact ⟨a, rfl, Except.ok.inj h⟩

/-- **What is read is in the grammar**: terms from parts, arguments from the parts that the cut gives. -/
theorem texts_of_read : (∀ cs, IsPart cs → ∀ t, readTerm cs = .ok t → TermText cs t) ∧
    ∀ ps : List (List Char), (∀ p ∈ ps, IsPart p) → ∀ ts, readTerms ps = .ok ts →
      ps = [] ∧ ts = [] ∨ ArgTexts ([','].intercalate ps) ts := by
  refine readTerm.mutual_induct (fun cs => IsPart cs → ∀ t, readTerm cs = .ok t → TermText cs t)
    (fun ps => (∀ p ∈ ps, IsPart p) → ∀ ts, readTerms ps = .ok ts →
      ps = [] ∧ ts = [] ∨ ArgTexts ([','].intercalate ps) ts) ?name ?application ?malformed ?none ?some ?failed
  case name =>
    intro cs name hs hp t ht
    cases (readTerm_of_name hs).symm.trans ht
    obtain ⟨hpad, hname⟩ := name_of_shape hp hs
    rw [nameTerm]
    split
    · next hv => exact .var hpad hname (isVariableName_iff.mp hv)
    · next hv => exact .const hpad hname (mt isVariableName_iff.mpr hv)
  case application =>
    intro cs functor args hs ih hp t ht
    obtain ⟨ts, hts, rfl⟩ := exists_of_map_eq_ok ((readTerm_of_application hs).symm.trans ht)
    obtain ⟨gap, inner, hpad, hname, hgap, ⟨hblank, rfl⟩ | hsplit⟩ := application_of_shape hp hs
    · rw [readTerms] at hts
      cases hts
      exact .bare hpad hname hgap hblank
    · obtain ⟨p, rest, rfl, hinner, hfirst, hrest⟩ := parts_of_splitCommas hsplit
      have hargs := (ih (List.forall_mem_cons.mpr ⟨hfirst, hrest⟩) ts hts).resolve_left nofun
      exact .compound hpad hname hgap (hinner ▸ hargs)
  case malformed =>
    intro cs e hs _ t ht
    cases (readTerm_of_error hs).symm.trans ht
  case none =>
    intro _ ts h
    rw [readTerms] at h
    cases h
    exact Or.inl ⟨rfl, rfl⟩
  case some =>
    intro p ps t hread ihp ihps hparts ts h
    rw [readTerms, hread] at h
    obtain ⟨hp, hps⟩ := List.forall_mem_cons.mp hparts
    obtain ⟨ts, hts, rfl⟩ := exists_of_map_eq_ok h
    rcases ihps hps ts hts with ⟨rfl, rfl⟩ | hargs
    · exact Or.inr (by simpa using ArgTexts.last (ihp hp t hread))
    · cases ps with
      | nil =>
        rw [readTerms] at hts
        cases hts
        exact Or.inr (by simpa using ArgTexts.last (ihp hp t hread))
      | cons q ps => exact Or.inr (List.intercalate_cons_cons ▸ List.append_assoc .. ▸ .more (ihp hp t hread) hargs)
  case failed =>
    intro p ps e hread _ _ ts h
    rw [readTerms, hread] at h
    cases h

end Sound

/-! ## Clauses -/

section Clauses

variable {cs inner : List Char} {f : Fact}

theorem clauseBody?_eq_some_iff : clauseBody? cs = some inner ↔ cs = '(' :: (inner ++ [')']) := by
  constructor
  · intro h
    unfold clauseBody? at h
    split at h
    · rw [dropLast?_eq_some_iff.mp h]
    · cases h
  · rintro rfl
    exact dropLast?_eq_some_iff.mpr rfl

theorem readFact_of_parts {first predicate : List Char} {parts : List (List Char)}
    (h : Padded cs ('(' :: (inner ++ [')']))) (hsplit : splitCommas 0 inner = some (first :: parts))
    (hp : Padded first predicate) (hn : IsName predicate) :
    readFact cs = (readTerms parts).map (⟨String.ofList predicate, ·⟩) := by
  have hbody : clauseBody? ('(' :: (inner ++ [')'])) = some inner := clauseBody?_eq_some_iff.mpr rfl
  have hopen : '(' ∉ predicate := fun hc => (hn.plain _ hc).1 rfl
  have hclose : ')' ∉ predicate := fun hc => (hn.plain _ hc).2.1 rfl
  simp [readFact, trim_of_padded h (solid_parentheses inner), hbody, hsplit, trim_of_padded hp hn.solid, hn.nonempty,
    hopen, hclose]

/-- **What a clause is taken apart into**: a predicate, and the parts behind it. -/
theorem readFact_cases (h : readFact cs = .ok f) : ∃ inner first parts args, trim cs = '(' :: (inner ++ [')']) ∧
    splitCommas 0 inner = some (first :: parts) ∧ trim first ≠ [] ∧ '(' ∉ trim first ∧ readTerms parts = .ok args ∧
      f = ⟨String.ofList (trim first), args⟩ := by
  simp only [readFact] at h
  split at h
  · cases h
  next inner hbody =>
  split at h
  · cases h
  · cases h
  next first parts hsplit =>
  split at h
  · cases h
  next hne =>
  split at h
  · cases h
  next hparen =>
  obtain ⟨args, hargs, rfl⟩ := exists_of_map_eq_ok h
  exact ⟨inner, first, parts, args, clauseBody?_eq_some_iff.mp hbody, hsplit, by simpa using hne,
    fun hm => hparen (by simp [hm]), hargs, rfl⟩

theorem ClauseText.readFact_eq (h : ClauseText cs f) : readFact cs = .ok f := by
  cases h with
  | bare h hp hn =>
    rw [readFact_of_parts h ((hp.plain hn.plain).passes 0).isPart hp hn, readTerms]
    rfl
  | withArgs h hp hn ha =>
    obtain ⟨parts, hsplit, hread⟩ := ha.exists_parts
    have hcut := ((hp.plain hn.plain).passes 0).splitCommas_append
    rw [readFact_of_parts h (by rw [hcut, hsplit]; rfl) hp hn, hread]
    rfl

theorem clauseText_of_readFact (h : readFact cs = .ok f) : ClauseText cs f := by
  obtain ⟨inner, first, parts, args, htext, hsplit, hne, ho, hread, rfl⟩ := readFact_cases h
  have hpad : Padded cs ('(' :: (inner ++ [')'])) := htext ▸ padded_trim cs
  obtain ⟨_, _, e, rfl, hfirst, hparts⟩ := parts_of_splitCommas hsplit
  cases e
  have hname : IsName (trim first) := isName_trim hfirst hne ho
  rcases texts_of_read.2 parts hparts args hread with ⟨rfl, rfl⟩ | hargs
  · exact .bare (by simpa using hpad) (padded_trim first) hname
  · cases parts with
    | nil =>
      rw [readTerms] at hread
      cases hread
      exact .bare (by simpa using hpad) (padded_trim first) hname
    | cons q parts =>
      rw [List.intercalate_cons_cons] at hpad
      exact .withArgs (by simpa using hpad) (padded_trim first) hname hargs

end Clauses

/-- **What a clause is read from.** Exactly the texts of the grammar are read, each of them as the one fact that it is
a text of, and every other text is an error on the line where it stands. -/
theorem readFact_exact (n : Nat) (cs : List Char) :
    (∀ f, atLine n (readFact cs) = .ok f ↔ ClauseText cs f) ∧
    (∀ f g, ClauseText cs f ∧ ClauseText cs g → f = g) ∧
    ((¬∃ f, ClauseText cs f) ↔ ∃ e, atLine n (readFact cs) = .error (.malformed n e)) := by
  have hok : ∀ f, readFact cs = .ok f ↔ ClauseText cs f := fun f => ⟨clauseText_of_readFact, ClauseText.readFact_eq⟩
  cases hread : readFact cs with
  | ok f =>
    have htext : ∀ g, ClauseText cs g ↔ f = g := fun g => by rw [← hok, hread, Except.ok.injEq]
    refine ⟨fun g => ?_, fun g g' h => ?_, ?_⟩
    · rw [htext]
      exact ⟨Except.ok.inj, congrArg Except.ok⟩
    · exact ((htext g).mp h.1).symm.trans ((htext g').mp h.2)
    · exact ⟨fun h => absurd ⟨f, (htext f).mpr rfl⟩ h, fun ⟨_, he⟩ => nomatch he⟩
  | error e =>
    have hnone : ∀ g, ¬ClauseText cs g := fun g h => nomatch hread.symm.trans ((hok g).mpr h)
    exact ⟨fun g => ⟨nofun, fun h => absurd h (hnone g)⟩, fun g _ h => absurd h.1 (hnone g),
      fun _ => ⟨e, rfl⟩, fun _ ⟨g, h⟩ => hnone g h⟩

end LogicGrid.Puzzle
