import LogicGrid.Json.Value

/-!
# JSON tokens

JSON text is a row of tokens with blanks between them. `Token.text` writes a token, `lex` takes a text apart.

* `escape` and `readString` – string contents with their escapes;
* `readNumber` – a number, of which only a natural number keeps its value;
* `lexOne` – one token; `lexOne_le` – it takes at least one character.
-/

namespace LogicGrid.Json

/-- The smallest parts of JSON text. -/
inductive Token where
  | beginArr
  | endArr
  | beginObj
  | endObj
  | comma
  | colon
  | null
  | bool (b : Bool)
  /-- A natural number up to `Json.maxNat`. -/
  | nat (n : Nat)
  /-- Any other number. -/
  | number
  | str (s : String)
  /-- A string with half a surrogate pair. -/
  | brokenStr
deriving DecidableEq, Repr

/-! ## Writing -/

/-- A hexadecimal digit, in lower case. -/
def hexDigit (n : Nat) : Char := if n < 10 then Char.ofNat (48 + n) else Char.ofNat (87 + n)

/-- A character inside a string: quotes, backslashes and control characters are escaped, all others stand as they
are. -/
def escapeChar (c : Char) : List Char :=
  if c = '"' then ['\\', '"']
  else if c = '\\' then ['\\', '\\']
  else if c = '\x08' then ['\\', 'b']
  else if c = '\x0c' then ['\\', 'f']
  else if c = '\n' then ['\\', 'n']
  else if c = '\r' then ['\\', 'r']
  else if c = '\t' then ['\\', 't']
  else if c.toNat < 0x20 then ['\\', 'u', '0', '0', hexDigit (c.toNat / 16), hexDigit (c.toNat % 16)]
  else [c]

/-- The contents of a string between its quotes. -/
def escape (cs : List Char) : List Char := cs.flatMap escapeChar

/-- A string with its quotes. -/
def quote (s : String) : String := String.ofList ('"' :: escape s.toList ++ ['"'])

/-- The text of a token. The two tokens without a value of their own stand for many texts; they are written as a number
and a string of their kind. -/
def Token.text : Token → String
  | .beginArr => "["
  | .endArr => "]"
  | .beginObj => "\x7b"
  | .endObj => "\x7d"
  | .comma => ","
  | .colon => ":"
  | .null => "null"
  | .bool true => "true"
  | .bool false => "false"
  | .nat n => n.repr
  | .number => "-1"
  | .str s => quote s
  | .brokenStr => "\"\\ud800\""

/-! ## Reading strings -/

/-- A character of a string, or half of a surrogate pair. -/
inductive CodeUnit where
  | char (c : Char)
  | half (n : Nat)

/-- The value of a hexadecimal digit in either case. -/
def hexValue? (c : Char) : Option Nat :=
  if '0' ≤ c ∧ c ≤ '9' then some (c.toNat - 48)
  else if 'a' ≤ c ∧ c ≤ 'f' then some (c.toNat - 87)
  else if 'A' ≤ c ∧ c ≤ 'F' then some (c.toNat - 55)
  else none

/-- The code unit of four hexadecimal digits. -/
def hexUnit? (a b c d : Char) : Option CodeUnit := do
  let n := 4096 * (← hexValue? a) + 256 * (← hexValue? b) + 16 * (← hexValue? c) + (← hexValue? d)
  return if 0xD800 ≤ n ∧ n ≤ 0xDFFF then .half n else .char (Char.ofNat n)

/-- The character of a short escape. -/
def shortEscape? : Char → Option Char
  | '"' => some '"'
  | '\\' => some '\\'
  | '/' => some '/'
  | 'b' => some '\x08'
  | 'f' => some '\x0c'
  | 'n' => some '\n'
  | 'r' => some '\r'
  | 't' => some '\t'
  | _ => none

/-- Reads string contents up to the closing quote, and gives what follows the quote. Control characters have to be
escaped. -/
def readString : List Char → Option (List CodeUnit × List Char)
  | [] => none
  | '"' :: cs => some ([], cs)
  | '\\' :: 'u' :: a :: b :: c :: d :: cs => do
    let u ← hexUnit? a b c d
    let (us, rest) ← readString cs
    return (u :: us, rest)
  | '\\' :: e :: cs => do
    let c ← shortEscape? e
    let (us, rest) ← readString cs
    return (.char c :: us, rest)
  | c :: cs =>
    if c.toNat < 0x20 then none
    else do
      let (us, rest) ← readString cs
      return (.char c :: us, rest)

/-- Joins surrogate pairs to characters. Half a pair alone is refused. -/
def joinHalves : List CodeUnit → Option (List Char)
  | [] => some []
  | .char c :: us => (joinHalves us).map (c :: ·)
  | .half h :: .half l :: us =>
    if h < 0xDC00 ∧ 0xDC00 ≤ l then
      (joinHalves us).map (Char.ofNat (0x10000 + (h - 0xD800) * 0x400 + (l - 0xDC00)) :: ·)
    else none
  | .half _ :: _ => none

/-- The token of string contents. -/
def stringToken (us : List CodeUnit) : Token :=
  match joinHalves us with
  | some cs => .str (String.ofList cs)
  | none => .brokenStr

theorem readString_lt {cs : List Char} {r : List CodeUnit × List Char} (h : readString cs = some r) :
    r.2.length < cs.length := by
  fun_induction readString cs generalizing r with
  | case1 => cases h
  | case2 cs => cases h; simp
  | case3 a b c d cs ih =>
    simp only [Option.bind_eq_bind, Option.bind_eq_some_iff, Option.pure_def, Option.some.injEq] at h
    obtain ⟨u, _, ⟨us, rest⟩, hr, rfl⟩ := h
    have := ih hr
    simp only [List.length_cons] at *
    omega
  | case4 e cs _ ih =>
    simp only [Option.bind_eq_bind, Option.bind_eq_some_iff, Option.pure_def, Option.some.injEq] at h
    obtain ⟨u, _, ⟨us, rest⟩, hr, rfl⟩ := h
    have := ih hr
    simp only [List.length_cons] at *
    omega
  | case5 => cases h
  | case6 c cs _ _ _ _ ih =>
    simp only [Option.bind_eq_bind, Option.bind_eq_some_iff, Option.pure_def, Option.some.injEq] at h
    obtain ⟨⟨us, rest⟩, hr, rfl⟩ := h
    have := ih hr
    simp only [List.length_cons] at *
    omega

/-! ## Reading numbers -/

/-- The value of a row of decimal digits. -/
def ofDigits (ds : List Char) : Nat := ds.foldl (fun n c => 10 * n + (c.toNat - 48)) 0

/-- At least one digit, and what follows the digits. -/
def readDigits (cs : List Char) : Option (List Char × List Char) :=
  if (cs.takeWhile Char.isDigit).isEmpty then none
  else some (cs.takeWhile Char.isDigit, cs.dropWhile Char.isDigit)

/-- The digits of a whole number: a zero alone, or digits that start with another one. -/
def readWhole : List Char → Option (List Char × List Char)
  | '0' :: cs => some (['0'], cs)
  | cs => readDigits cs

/-- Passes over a decimal fraction, if there is one, and tells whether there was. -/
def readFraction : List Char → Option (Bool × List Char)
  | '.' :: cs => (readDigits cs).map fun r => (true, r.2)
  | cs => some (false, cs)

/-- Passes over a sign in an exponent. -/
def dropSign : List Char → List Char
  | '+' :: cs => cs
  | '-' :: cs => cs
  | cs => cs

/-- Passes over an exponent, if there is one, and tells whether there was. -/
def readExponent : List Char → Option (Bool × List Char)
  | c :: cs =>
    if c = 'e' ∨ c = 'E' then (readDigits (dropSign cs)).map fun r => (true, r.2)
    else some (false, c :: cs)
  | [] => some (false, [])

/-- Reads a number without a sign. -/
def readUnsigned (cs : List Char) : Option (Token × List Char) := do
  let (ds, cs) ← readWhole cs
  let (fraction, cs) ← readFraction cs
  let (exponent, cs) ← readExponent cs
  return (if fraction || exponent || maxNat < ofDigits ds then .number else .nat (ofDigits ds), cs)

/-- Reads a number. -/
def readNumber : List Char → Option (Token × List Char)
  | '-' :: cs => (readUnsigned cs).map fun r => (.number, r.2)
  | cs => readUnsigned cs

theorem readDigits_lt {cs : List Char} {r : List Char × List Char} (h : readDigits cs = some r) :
    r.2.length < cs.length := by
  rw [readDigits] at h
  split at h
  · cases h
  · next hne =>
    cases h
    have e := congrArg List.length (List.takeWhile_append_dropWhile (p := Char.isDigit) (l := cs))
    rw [List.length_append] at e
    have := List.length_pos_iff.mpr fun h => hne (List.isEmpty_iff.mpr h)
    simp only
    omega

theorem readWhole_lt {cs : List Char} {r : List Char × List Char} (h : readWhole cs = some r) :
    r.2.length < cs.length := by
  unfold readWhole at h
  split at h
  · cases h; simp
  · exact readDigits_lt h

theorem readFraction_le {cs : List Char} {r : Bool × List Char} (h : readFraction cs = some r) :
    r.2.length ≤ cs.length := by
  unfold readFraction at h
  split at h
  · obtain ⟨s, hs, rfl⟩ := Option.map_eq_some_iff.mp h
    have := readDigits_lt hs
    simp only [List.length_cons]
    omega
  · cases h; exact Nat.le_refl _

theorem dropSign_le (cs : List Char) : (dropSign cs).length ≤ cs.length := by
  unfold dropSign
  split <;> simp

theorem readExponent_le {cs : List Char} {r : Bool × List Char} (h : readExponent cs = some r) :
    r.2.length ≤ cs.length := by
  unfold readExponent at h
  split at h
  · next c cs =>
    split at h
    · obtain ⟨s, hs, rfl⟩ := Option.map_eq_some_iff.mp h
      have := readDigits_lt hs
      have := dropSign_le cs
      simp only [List.length_cons]
      omega
    · cases h; exact Nat.le_refl _
  · cases h; exact Nat.le_refl _

theorem readUnsigned_lt {cs : List Char} {r : Token × List Char} (h : readUnsigned cs = some r) :
    r.2.length < cs.length := by
  simp only [readUnsigned, Option.bind_eq_bind, Option.bind_eq_some_iff, Option.pure_def,
    Option.some.injEq] at h
  obtain ⟨⟨ds, cs₁⟩, h₁, ⟨fr, cs₂⟩, h₂, ⟨ex, cs₃⟩, h₃, rfl⟩ := h
  have := readWhole_lt h₁
  have := readFraction_le h₂
  have := readExponent_le h₃
  simp only at *
  omega

theorem readNumber_lt {cs : List Char} {r : Token × List Char} (h : readNumber cs = some r) :
    r.2.length < cs.length := by
  unfold readNumber at h
  split at h
  · obtain ⟨s, hs, rfl⟩ := Option.map_eq_some_iff.mp h
    have := readUnsigned_lt hs
    simp only [List.length_cons]
    omega
  · exact readUnsigned_lt h

/-! ## Taking a text apart -/

/-- The characters that may stand between tokens. -/
def isSpace (c : Char) : Bool := c = ' ' || c = '\n' || c = '\t' || c = '\r'

/-- What follows a given row of characters. -/
def dropText? : List Char → List Char → Option (List Char)
  | [], cs => some cs
  | _ :: _, [] => none
  | t :: ts, c :: cs => if t = c then dropText? ts cs else none

/-- Reads the token that starts with the character `c`. -/
def lexOne (c : Char) (cs : List Char) : Option (Token × List Char) :=
  if c = '[' then some (.beginArr, cs)
  else if c = ']' then some (.endArr, cs)
  else if c = '\x7b' then some (.beginObj, cs)
  else if c = '\x7d' then some (.endObj, cs)
  else if c = ',' then some (.comma, cs)
  else if c = ':' then some (.colon, cs)
  else if c = '"' then (readString cs).map fun r => (stringToken r.1, r.2)
  else if c = 'n' then (dropText? ['u', 'l', 'l'] cs).map (.null, ·)
  else if c = 't' then (dropText? ['r', 'u', 'e'] cs).map (.bool true, ·)
  else if c = 'f' then (dropText? ['a', 'l', 's', 'e'] cs).map (.bool false, ·)
  else readNumber (c :: cs)

theorem dropText?_le : ∀ {ts cs rest : List Char}, dropText? ts cs = some rest → rest.length ≤ cs.length
  | [], _, _, h => by cases h; exact Nat.le_refl _
  | _ :: _, [], _, h => by cases h
  | t :: ts, c :: cs, rest, h => by
    rw [dropText?] at h
    split at h
    · exact Nat.le_succ_of_le (dropText?_le h)
    · cases h

theorem lexOne_le {c : Char} {cs : List Char} {r : Token × List Char} (h : lexOne c cs = some r) :
    r.2.length ≤ cs.length := by
  unfold lexOne at h
  iterate 6
    split at h
    · cases h; exact Nat.le_refl _
  split at h
  · obtain ⟨s, hs, rfl⟩ := Option.map_eq_some_iff.mp h
    exact Nat.le_of_lt (readString_lt hs)
  iterate 3
    split at h
    · obtain ⟨s, hs, rfl⟩ := Option.map_eq_some_iff.mp h
      exact dropText?_le hs
  exact Nat.le_of_lt_succ (readNumber_lt h)

/-- The tokens of a text. -/
def lex : List Char → Option (List Token)
  | [] => some []
  | c :: cs =>
    if isSpace c then lex cs
    else
      match _h : lexOne c cs with
      | some (t, rest) => (lex rest).map (t :: ·)
      | none => none
termination_by cs => cs.length
decreasing_by
  · exact Nat.lt_succ_self _
  · exact Nat.lt_succ_of_le (lexOne_le _h)

end LogicGrid.Json
