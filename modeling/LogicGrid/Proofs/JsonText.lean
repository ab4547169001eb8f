import LogicGrid.Json.Printer
import LogicGrid.Json.Reader
import Mathlib.Data.List.Chain

/-!
# JSON text gives back its value

Writing goes from a value to tokens and from these to characters; reading goes back in the same two stages. A token is
read back from its characters (`lex_text`), but for two conditions: a natural number must not be too large, and what
follows a number must not look like more of it. In the tokens of a value only commas and ends follow a number, so the
text of a value is taken apart into its tokens (`lex_compact`). These lead from a place for a value to the place behind
it (`run_tokens`), unless too many arrays and objects are open.

* `parse?_compact` – the compact text of a value within the limits of the reader is read as this value.
-/

namespace LogicGrid.Json

/-! ## Strings -/

section Strings

variable {c : Char} {ds : List Char} {r : List CodeUnit × List Char}

theorem hexValue?_hexDigit : ∀ n < 16, hexValue? (hexDigit n) = some n := by decide

theorem hexUnit?_control (h : c.toNat < 0x20) :
    hexUnit? '0' '0' (hexDigit (c.toNat / 16)) (hexDigit (c.toNat % 16)) = some (.char c) := by
  have hzero : hexValue? '0' = some 0 := rfl
  have hvalue : 4096 * 0 + 256 * 0 + 16 * (c.toNat / 16) + c.toNat % 16 = c.toNat := by omega
  have hhalf : ¬(0xD800 ≤ c.toNat ∧ c.toNat ≤ 0xDFFF) := by omega
  simp only [hexUnit?, hzero, hexValue?_hexDigit _ (show c.toNat / 16 < 16 by omega),
    hexValue?_hexDigit _ (show c.toNat % 16 < 16 by omega), Option.bind_eq_bind, Option.bind_some, hvalue, if_neg hhalf,
    Char.ofNat_toNat, Option.pure_def]

theorem readString_short {e : Char} (he : shortEscape? e = some c) (hu : e ≠ 'u') (h : readString ds = some r) :
    readString ('\\' :: e :: ds) = some (.char c :: r.1, r.2) := by
  rw [readString.eq_4 _ _ (by simp [hu]), he, h]
  rfl

/-- A character is read back from its escape, and reading goes on behind it. -/
theorem readString_escapeChar (h : readString ds = some r) :
    readString (escapeChar c ++ ds) = some (.char c :: r.1, r.2) := by
  rw [escapeChar]
  -- the characters with a short escape
  iterate 7
    split
    · next e =>
      rw [e]
      exact readString_short rfl (by decide) h
  split
  · next hc =>
    simp only [List.cons_append, List.nil_append, readString, hexUnit?_control hc, h]
    rfl
  · next hquote hslash _ _ _ _ _ hc =>
    rw [List.singleton_append, readString.eq_5 _ _ (by simpa using hquote) (by simp [hslash]) (by simp [hslash]),
      if_neg hc, h]
    rfl

/-- String contents are read back up to the quote behind them. -/
theorem readString_escape : ∀ cs rest : List Char, readString (escape cs ++ '"' :: rest) = some (cs.map .char, rest)
  | [], rest => by rw [escape, List.flatMap_nil, List.nil_append, readString, List.map_nil]
  | c :: cs, rest => by
    rw [escape, List.flatMap_cons, ← escape, List.append_assoc, readString_escapeChar (readString_escape cs rest)]
    rfl

theorem joinHalves_map_char : ∀ cs : List Char, joinHalves (cs.map .char) = some cs
  | [] => rfl
  | c :: cs => by rw [List.map_cons, joinHalves, joinHalves_map_char cs, Option.map_some]

theorem stringToken_map_char (cs : List Char) : stringToken (cs.map .char) = .str (String.ofList cs) := by
  rw [stringToken, joinHalves_map_char]

end Strings

/-! ## Numbers -/

/-- A number ends in front of this text. -/
def Stops (rest : List Char) : Prop := ∀ c ∈ rest.head?, c.isDigit = false ∧ c ≠ '.' ∧ c ≠ 'e' ∧ c ≠ 'E'

section Numbers

variable {ds rest : List Char} {n : Nat}

theorem readDigits_append (hd : ∀ c ∈ ds, c.isDigit = true) (hne : ds ≠ []) (h : Stops rest) :
    readDigits (ds ++ rest) = some (ds, rest) := by
  have htake : rest.takeWhile Char.isDigit = [] ∧ rest.dropWhile Char.isDigit = rest := by
    cases rest with
    | nil => exact ⟨rfl, rfl⟩
    | cons c rest =>
      have hc : c.isDigit = false := (h c rfl).1
      exact ⟨List.takeWhile_cons_of_neg (by simp [hc]), List.dropWhile_cons_of_neg (by simp [hc])⟩
  rw [readDigits, List.takeWhile_append_of_pos hd, List.dropWhile_append_of_pos hd, htake.1, htake.2, List.append_nil,
    if_neg (by simpa using hne)]

theorem readFraction_of_stops (h : Stops rest) : readFraction rest = some (false, rest) := by
  cases rest with
  | nil => rfl
  | cons c rest => rw [readFraction.eq_2 _ (by simp [(h c rfl).2.1])]

theorem readExponent_of_stops (h : Stops rest) : readExponent rest = some (false, rest) := by
  cases rest with
  | nil => rfl
  | cons c rest => rw [readExponent, if_neg (by simp [(h c rfl).2.2])]

/-- Only zero is written with a zero in front. -/
theorem eq_zero_of_head?_toDigits {n : Nat} (h : (Nat.toDigits 10 n).head? = some '0') : n = 0 := by
  have hdigit : ∀ d < 10, some (Nat.digitChar d) = some '0' → d = 0 := by decide
  by_cases hn : n < 10
  · rw [Nat.toDigits_of_lt_base hn] at h
    exact hdigit n hn h
  · rw [Nat.toDigits_of_base_le (by decide) (Nat.le_of_not_lt hn),
      List.head?_append_of_ne_nil _ Nat.toDigits_ne_nil] at h
    have := eq_zero_of_head?_toDigits h
    omega
termination_by n
decreasing_by omega

theorem isDigit_of_mem_toDigits {c : Char} (h : c ∈ Nat.toDigits 10 n) : c.isDigit = true :=
  Nat.isDigit_of_mem_toDigits (by decide) (by decide) h

theorem readWhole_toDigits (h : Stops rest) :
    readWhole (Nat.toDigits 10 n ++ rest) = some (Nat.toDigits 10 n, rest) := by
  by_cases hn : n = 0
  · rw [hn, Nat.toDigits_zero]
    rfl
  · have hzero : ∀ cs, Nat.toDigits 10 n ++ rest ≠ '0' :: cs := by
      intro cs e
      have hhead := congrArg List.head? e
      rw [List.head?_append_of_ne_nil _ Nat.toDigits_ne_nil] at hhead
      exact hn (eq_zero_of_head?_toDigits hhead)
    rw [readWhole.eq_2 _ hzero, readDigits_append (fun _ => isDigit_of_mem_toDigits) Nat.toDigits_ne_nil h]

theorem ofDigits_toDigits (n : Nat) : ofDigits (Nat.toDigits 10 n) = n := Nat.ofDigitChars_ten_toDigits

theorem readUnsigned_toDigits (hn : n ≤ maxNat) (h : Stops rest) :
    readUnsigned (Nat.toDigits 10 n ++ rest) = some (.nat n, rest) := by
  simp only [readUnsigned, readWhole_toDigits h, readFraction_of_stops h, readExponent_of_stops h, ofDigits_toDigits,
    Option.bind_eq_bind, Option.bind_some, Option.pure_def, Bool.false_or, decide_eq_true_eq,
    if_neg (Nat.not_lt.mpr hn)]

theorem exists_head_toDigits (n : Nat) : ∃ c ds, Nat.toDigits 10 n = c :: ds ∧ c.isDigit = true := by
  obtain ⟨c, ds, e⟩ := List.exists_cons_of_ne_nil (Nat.toDigits_ne_nil (n := n) (b := 10))
  exact ⟨c, ds, e, isDigit_of_mem_toDigits (e ▸ List.mem_cons_self)⟩

end Numbers

/-! ## Tokens -/

section Tokens

variable {c : Char} {cs ds rest : List Char} {t : Token} {ts : List Token}

theorem lex_cons (hc : isSpace c = false) (h : lexOne c cs = some (t, rest)) :
    lex (c :: cs) = (lex rest).map (t :: ·) := by
  rw [lex, if_neg (by simp [hc])]
  split
  · next h' =>
    cases h.symm.trans h'
    rfl
  · next h' => cases h.symm.trans h'

/-- A digit starts a number. -/
theorem lexOne_of_isDigit (hc : c.isDigit = true) (cs : List Char) :
    isSpace c = false ∧ lexOne c cs = readUnsigned (c :: cs) := by
  have hne : ∀ d : Char, d.isDigit = false → c ≠ d := by
    rintro d hd rfl
    exact absurd (hc.symm.trans hd) (by decide)
  refine ⟨?_, ?_⟩
  · simp [isSpace, hne ' ' rfl, hne '\n' rfl, hne '\t' rfl, hne '\r' rfl]
  · rw [lexOne, if_neg (hne '[' rfl), if_neg (hne ']' rfl), if_neg (hne '\x7b' rfl), if_neg (hne '\x7d' rfl),
      if_neg (hne ',' rfl), if_neg (hne ':' rfl), if_neg (hne '"' rfl), if_neg (hne 'n' rfl), if_neg (hne 't' rfl),
      if_neg (hne 'f' rfl), readNumber.eq_2 _ (by simp [hne '-' rfl])]

/-- Whether a token is written as a number. -/
def Token.isNumeric : Token → Bool
  | .nat _ | .number => true
  | _ => false

/-- A token can be written and read back: a natural number must not be too large. -/
def Token.Readable : Token → Prop
  | .nat n => n ≤ maxNat
  | _ => True

instance : DecidablePred Token.Readable
  | .nat n => inferInstanceAs (Decidable (n ≤ maxNat))
  | .beginArr | .endArr | .beginObj | .endObj | .comma | .colon | .null | .bool _ | .number | .str _ | .brokenStr =>
    inferInstanceAs (Decidable True)

/-- A token is read back from its text when a number is followed by its end. -/
theorem lex_text (ht : t.Readable) (h : t.isNumeric = true → Stops rest) :
    lex (t.text.toList ++ rest) = (lex rest).map (t :: ·) := by
  cases t with
  | nat n =>
    obtain ⟨c, ds, e, hc⟩ := exists_head_toDigits n
    have hread := readUnsigned_toDigits ht (h rfl)
    have hlex := lexOne_of_isDigit hc (ds ++ rest)
    rw [e] at hread
    rw [Token.text, Nat.toList_repr, e]
    exact lex_cons hlex.1 (hlex.2.trans hread)
  | number =>
    have hmax : 1 ≤ maxNat := by decide
    have hone : readUnsigned ('1' :: rest) = some (.nat 1, rest) := readUnsigned_toDigits hmax (h rfl)
    have hread : readNumber ('-' :: '1' :: rest) = some (.number, rest) := by rw [readNumber, hone, Option.map_some]
    exact lex_cons (by decide) hread
  | str s =>
    have hread : lexOne '"' (escape s.toList ++ '"' :: rest) = some (.str s, rest) := by
      rw [← s.ofList_toList, ← stringToken_map_char, s.ofList_toList]
      exact congrArg (Option.map _) (readString_escape s.toList rest)
    rw [Token.text, quote, String.toList_ofList, List.append_assoc, List.cons_append]
    exact lex_cons (by decide) hread
  | bool b =>
    cases b with
    | true => exact lex_cons (by decide) rfl
    | false => exact lex_cons (by decide) rfl
  | null => exact lex_cons (by decide) rfl
  | brokenStr => exact lex_cons (by decide) rfl
  | beginArr => exact lex_cons (by decide) rfl
  | endArr => exact lex_cons (by decide) rfl
  | beginObj => exact lex_cons (by decide) rfl
  | endObj => exact lex_cons (by decide) rfl
  | comma => exact lex_cons (by decide) rfl
  | colon => exact lex_cons (by decide) rfl

/-- Whether a token can stand behind a number. -/
def Token.ends : Token → Bool
  | .comma | .endArr | .endObj => true
  | _ => false

/-- The tokens of a row can be told apart: what follows a number ends it. -/
def Separate : List Token → Prop := List.IsChain fun t u => t.isNumeric = true → u.ends = true

/-- The characters of a row of tokens. -/
def chars (ts : List Token) : List Char := ts.flatMap fun t => t.text.toList

theorem stops_of_ends {u : Token} (h : u.ends = true) (rest : List Char) : Stops (u.text.toList ++ rest) := by
  cases u with
  | comma | endArr | endObj =>
    rintro c ⟨⟩
    decide
  | _ => cases h

theorem lex_chars : ∀ {ts : List Token}, (∀ t ∈ ts, t.Readable) → Separate ts → lex (chars ts) = some ts
  | [], _, _ => by rw [chars, List.flatMap_nil, lex]
  | t :: ts, hr, hs => by
    have hstops : t.isNumeric = true → Stops (chars ts) := by
      intro ht
      cases ts with
      | nil => simp [Stops, chars]
      | cons u ts => exact stops_of_ends ((List.isChain_cons_cons.mp hs).1 ht) _
    rw [chars, List.flatMap_cons, ← chars, lex_text (hr t List.mem_cons_self) hstops,
      lex_chars (fun u hu => hr u (List.mem_cons_of_mem t hu)) (List.IsChain.tail hs), Option.map_some]

theorem Separate.append (h : Separate ts) {us : List Token} (h' : Separate us) (he : ∀ u ∈ us.head?, u.ends = true) :
    Separate (ts ++ us) :=
  List.IsChain.append h h' fun _ _ u hu _ => he u hu

theorem Separate.cons (h : Separate ts) (ht : t.isNumeric = false) : Separate (t :: ts) :=
  List.IsChain.cons h fun _ _ hn => absurd (ht.symm.trans hn) nofun

end Tokens

/-! ## The tokens of a value -/

mutual

theorem separate_tokens : ∀ v : Json, Separate v.tokens
  | .null | .bool _ | .nat _ | .str _ | .other => List.isChain_singleton _
  | .arr items => (separate_itemTokens items).cons rfl
  | .obj members => (separate_memberTokens members).cons rfl

theorem separate_itemTokens : ∀ items : List Json, Separate (itemTokens items)
  | [] => List.isChain_singleton _
  | [v] => (separate_tokens v).append (List.isChain_singleton _) (by simp [Token.ends])
  | v :: w :: vs =>
    (separate_tokens v).append ((separate_itemTokens (w :: vs)).cons rfl) (by simp [Token.ends])

theorem separate_memberTokens : ∀ members : List (String × Json), Separate (memberTokens members)
  | [] => List.isChain_singleton _
  | [(_, v)] =>
    (((separate_tokens v).append (List.isChain_singleton _) (by simp [Token.ends])).cons rfl).cons rfl
  | (_, v) :: m :: ms =>
    (((separate_tokens v).append ((separate_memberTokens (m :: ms)).cons rfl) (by simp [Token.ends])).cons rfl).cons rfl

end

mutual

/-- The number of arrays and objects that are open inside a value at most. -/
def depth : Json → Nat
  | .arr items => itemsDepth items + 1
  | .obj members => membersDepth members + 1
  | _ => 0

/-- The largest depth of some items. -/
def itemsDepth : List Json → Nat
  | [] => 0
  | v :: vs => max (depth v) (itemsDepth vs)

/-- The largest depth of some members. -/
def membersDepth : List (String × Json) → Nat
  | [] => 0
  | (_, v) :: ms => max (depth v) (membersDepth ms)

end

/-- The reader can take a value: it is not too deep, and no natural number in it is too large. -/
structure Fits (v : Json) : Prop where
  depth : v.depth ≤ maxDepth
  readable : ∀ t ∈ v.tokens, t.Readable

instance (v : Json) : Decidable v.Fits :=
  decidable_of_iff (v.depth ≤ maxDepth ∧ ∀ t ∈ v.tokens, t.Readable) ⟨fun h => ⟨h.1, h.2⟩, fun h => ⟨h.1, h.2⟩⟩

/-- The text of a value is taken apart into its tokens. -/
theorem lex_compact {v : Json} (h : v.Fits) : lex v.compact.toList = some v.tokens := by
  rw [compact, String.toList_join, List.flatMap_map]
  exact lex_chars h.readable (separate_tokens v)

/-! ## From tokens to values -/

section Run

variable {stack : List Frame} {rest : List Token}

theorem exists_head_tokens (v : Json) : ∃ t ts, v.tokens = t :: ts ∧ t ≠ .endArr := by
  cases v <;> exact ⟨_, _, rfl, nofun⟩

theorem step_firstItem {t : Token} (h : t ≠ .endArr) :
    State.step (.firstItem stack) t = State.step (.value (.arr [] :: stack)) t := by
  cases t with
  | endArr => exact absurd rfl h
  | _ => rfl

/-- The items of an array that is not empty start where an item can come. -/
theorem run_firstItem (v : Json) (vs : List Json) (rest : List Token) :
    (itemTokens (v :: vs) ++ rest).foldlM State.step (.firstItem stack) =
      (itemTokens (v :: vs) ++ rest).foldlM State.step (.value (.arr [] :: stack)) := by
  obtain ⟨t, ts, e, ht⟩ := exists_head_tokens v
  have hitems : ∃ us, itemTokens (v :: vs) = t :: us := by
    cases vs with
    | nil => exact ⟨ts ++ [.endArr], by rw [itemTokens, e, List.cons_append]⟩
    | cons w vs => exact ⟨ts ++ .comma :: itemTokens (w :: vs), by rw [itemTokens, e, List.cons_append]⟩
  obtain ⟨us, hus⟩ := hitems
  rw [hus, List.cons_append, List.foldlM_cons, List.foldlM_cons, step_firstItem ht]

/-- A name and a colon lead to the value of the member. -/
theorem run_name (ms : Members) (k : String) (stack : List Frame) (ts : List Token) :
    (.str k :: .colon :: ts).foldlM State.step (.name ms stack) = ts.foldlM State.step (.value (.obj ms k :: stack)) :=
  rfl

mutual

/-- The tokens of a value lead from a place for a value to the place behind it. -/
theorem run_tokens : ∀ (v : Json) (stack : List Frame) (rest : List Token), stack.length + v.depth ≤ maxDepth →
    (v.tokens ++ rest).foldlM State.step (.value stack) = rest.foldlM State.step (.after v stack)
  | .null, _, _, _ | .bool _, _, _, _ | .nat _, _, _, _ | .str _, _, _, _ | .other, _, _, _ => rfl
  | .arr items, stack, rest, h => by
    rw [depth] at h
    have hstep : State.step (.value stack) .beginArr = some (.firstItem stack) := if_pos (by omega)
    rw [tokens, List.cons_append, List.foldlM_cons, hstep, Option.bind_eq_bind, Option.bind_some]
    cases items with
    | nil => rfl
    | cons v vs =>
      rw [run_firstItem]
      exact run_itemTokens (v :: vs) [] stack rest nofun (by omega)
  | .obj members, stack, rest, h => by
    rw [depth] at h
    have hstep : State.step (.value stack) .beginObj = some (.firstName stack) := if_pos (by omega)
    rw [tokens, List.cons_append, List.foldlM_cons, hstep, Option.bind_eq_bind, Option.bind_some]
    cases members with
    | nil => rfl
    | cons m ms =>
      have hname : ∀ ts : List Token, (memberTokens (m :: ms) ++ ts).foldlM State.step (.firstName stack) =
          (memberTokens (m :: ms) ++ ts).foldlM State.step (.name .empty stack) := by
        intro ts
        cases ms <;> rfl
      rw [hname]
      exact run_memberTokens (m :: ms) .empty stack rest rfl nofun (by omega)

theorem run_itemTokens : ∀ (items done : List Json) (stack : List Frame) (rest : List Token), items ≠ [] →
    stack.length + (itemsDepth items + 1) ≤ maxDepth →
    (itemTokens items ++ rest).foldlM State.step (.value (.arr done :: stack)) =
      rest.foldlM State.step (.after (.arr (done.reverse ++ items)) stack)
  | [], _, _, _, hne, _ => absurd rfl hne
  | [v], done, stack, rest, _, h => by
    rw [itemsDepth, itemsDepth] at h
    have hv : (Frame.arr done :: stack).length + v.depth ≤ maxDepth := by
      rw [List.length_cons]
      omega
    rw [itemTokens, List.append_assoc, run_tokens v _ _ hv]
    simp [State.step]
  | v :: w :: vs, done, stack, rest, _, h => by
    rw [itemsDepth] at h
    have hv : (Frame.arr done :: stack).length + v.depth ≤ maxDepth := by
      rw [List.length_cons]
      omega
    have hcomma : State.step (.after v (.arr done :: stack)) .comma = some (.value (.arr (v :: done) :: stack)) := rfl
    rw [itemTokens, List.append_assoc, run_tokens v _ _ hv, List.cons_append, List.foldlM_cons, hcomma,
      Option.bind_eq_bind, Option.bind_some, run_itemTokens (w :: vs) (v :: done) stack rest nofun (by omega),
      List.reverse_cons, List.append_assoc, List.singleton_append]

theorem run_memberTokens : ∀ (members : List (String × Json)) (ms : Members) (stack : List Frame) (rest : List Token),
    ms.intact = true → members ≠ [] → stack.length + (membersDepth members + 1) ≤ maxDepth →
    (memberTokens members ++ rest).foldlM State.step (.name ms stack) =
      rest.foldlM State.step (.after (.obj (ms.members.reverse ++ members)) stack)
  | [], _, _, _, _, hne, _ => absurd rfl hne
  | [(k, v)], ms, stack, rest, hms, _, h => by
    rw [membersDepth, membersDepth] at h
    have hv : (Frame.obj ms k :: stack).length + v.depth ≤ maxDepth := by
      rw [List.length_cons]
      omega
    have hend : State.step (.after v (.obj ms k :: stack)) .endObj =
        some (.after (.obj (ms.members.reverse ++ [(k, v)])) stack) := by
      simp [State.step, Members.close, Members.add, hms]
    rw [memberTokens, List.cons_append, List.cons_append, List.append_assoc, List.cons_append, run_name,
      run_tokens v _ _ hv, List.singleton_append, List.foldlM_cons, hend, Option.bind_eq_bind, Option.bind_some]
  | (k, v) :: m :: members, ms, stack, rest, hms, _, h => by
    rw [membersDepth] at h
    have hv : (Frame.obj ms k :: stack).length + v.depth ≤ maxDepth := by
      rw [List.length_cons]
      omega
    have hcomma : State.step (.after v (.obj ms k :: stack)) .comma = some (.name (ms.add k v) stack) := rfl
    rw [memberTokens, List.cons_append, List.cons_append, List.append_assoc, List.cons_append, run_name,
      run_tokens v _ _ hv, List.cons_append, List.foldlM_cons, hcomma, Option.bind_eq_bind, Option.bind_some,
      run_memberTokens (m :: members) (ms.add k v) stack rest hms nofun (by omega), Members.add, List.reverse_cons,
      List.append_assoc, List.singleton_append]

end

end Run

/-- The compact text of a value is read as this value. -/
theorem parse?_compact {v : Json} (h : v.Fits) : parse? v.compact = some v := by
  have hrun : v.tokens.foldlM State.step (.value []) = some (.after v []) := by
    have hempty := run_tokens v [] [] (by rw [List.length_nil, Nat.zero_add]; exact h.depth)
    rwa [List.append_nil] at hempty
  rw [parse?, lex_compact h, Option.bind_some, ofTokens?, hrun]
  rfl

end LogicGrid.Json
