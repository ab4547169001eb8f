/-!
# Distinct elements

`List.eraseDups` keeps the first occurrence of every element. Main statements: the result has no duplicates
(`nodup_eraseDups`), a list over fewer elements has a shorter one (`length_eraseDups_le`, `length_eraseDups_lt`), and a
filter may come before or after (`filter_eraseDups`). Rows of lists may be stripped of repetitions part by part
(`eraseDups_flatMap_congr`), which a search for a first result does not notice (`findSome?_eraseDups`).
-/

namespace LogicGrid

variable {α : Type _}

/-- Elements without a result may be left out of a search. -/
theorem findSome?_filter_of_none {β : Type _} {p : α → Bool} {g : α → Option β} : ∀ {l : List α},
    (∀ a ∈ l, p a = false → g a = none) → (l.filter p).findSome? g = l.findSome? g
  | [], _ => rfl
  | a :: l, h => by
    obtain ⟨ha, hl⟩ := List.forall_mem_cons.mp h
    cases hp : p a with
    | true => rw [List.filter_cons_of_pos hp, List.findSome?_cons, List.findSome?_cons, findSome?_filter_of_none hl]
    | false =>
      rw [List.filter_cons_of_neg (Bool.eq_false_iff.mp hp), List.findSome?_cons, ha hp, findSome?_filter_of_none hl]

variable [BEq α]

/-- Induction along `eraseDups`, which goes on behind an element without its repetitions. -/
theorem eraseDups_induction {motive : List α → Prop} (nil : motive [])
    (cons : ∀ a l, motive (l.filter (!· == a)) → motive (a :: l)) (l : List α) : motive l := by
  generalize h : l.length = n
  induction n using Nat.strongRecOn generalizing l with
  | _ n ih =>
    cases l with
    | nil => exact nil
    | cons a l =>
      refine cons a l (ih _ ?_ _ rfl)
      rw [← h, List.length_cons]
      exact Nat.lt_succ_of_le (List.length_filter_le _ _)

variable [LawfulBEq α]

theorem nodup_eraseDups (l : List α) : l.eraseDups.Nodup := by
  induction l using eraseDups_induction with
  | nil => simp
  | cons a l ih =>
    rw [List.eraseDups_cons, List.nodup_cons]
    exact ⟨by simp [List.mem_eraseDups], ih⟩

/-- A test may be made before repetitions are dropped or after. -/
theorem filter_eraseDups (p : α → Bool) (l : List α) : l.eraseDups.filter p = (l.filter p).eraseDups := by
  induction l using eraseDups_induction with
  | nil => rfl
  | cons a l ih =>
    rw [List.eraseDups_cons]
    by_cases ha : p a = true
    · rw [List.filter_cons_of_pos ha, List.filter_cons_of_pos ha, List.eraseDups_cons, ih, List.filter_filter,
        List.filter_filter]
      simp only [Bool.and_comm]
    · have hskip : ∀ b ∈ l, (p b && !b == a) = p b := fun b _ => by
        by_cases hb : b = a <;> simp [hb, ha]
      rw [List.filter_cons_of_neg ha, List.filter_cons_of_neg ha, ih, List.filter_filter, List.filter_congr hskip]

/-! ## Rows of lists -/

section Rows

variable {β : Type _} {as as' bs bs' : List α}

theorem eraseDups_append_congr (ha : as.eraseDups = as'.eraseDups) (hb : bs.eraseDups = bs'.eraseDups) :
    (as ++ bs).eraseDups = (as' ++ bs').eraseDups := by
  have hmem : ∀ b, b ∈ as ↔ b ∈ as' := fun b => by rw [← List.mem_eraseDups, ha, List.mem_eraseDups]
  have hrest : (fun b => !as.elem b) = fun b => !as'.elem b := by
    funext b
    rw [Bool.eq_iff_iff, Bool.not_eq_true', Bool.not_eq_true', ← Bool.not_eq_true, ← Bool.not_eq_true]
    simp only [List.elem_eq_mem, decide_eq_true_iff, hmem]
  rw [List.eraseDups_append, List.eraseDups_append, ha, List.removeAll, List.removeAll, ← filter_eraseDups,
    ← filter_eraseDups, hb, hrest]

/-- What repeats earlier elements is dropped. -/
theorem eraseDups_append_of_subset (h : bs ⊆ as) : (as ++ bs).eraseDups = as.eraseDups := by
  have hnil : bs.removeAll as = [] := List.filter_eq_nil_iff.mpr fun b hb => by simpa using h hb
  rw [List.eraseDups_append, hnil, List.eraseDups_nil, List.append_nil]

theorem eraseDups_flatMap_congr {f g : β → List α} : ∀ {l : List β},
    (∀ b ∈ l, (f b).eraseDups = (g b).eraseDups) → (l.flatMap f).eraseDups = (l.flatMap g).eraseDups
  | [], _ => rfl
  | b :: l, h => by
    obtain ⟨hb, hl⟩ := List.forall_mem_cons.mp h
    rw [List.flatMap_cons, List.flatMap_cons]
    exact eraseDups_append_congr hb (eraseDups_flatMap_congr hl)

/-- A list that is repeated counts once. -/
theorem eraseDups_flatMap_const {l : List β} (hl : l ≠ []) (as : List α) :
    (l.flatMap fun _ => as).eraseDups = as.eraseDups := by
  obtain ⟨b, l, rfl⟩ := List.exists_cons_of_ne_nil hl
  refine eraseDups_append_of_subset fun a ha => ?_
  obtain ⟨_, _, ha⟩ := List.mem_flatMap.mp ha
  exact ha

/-- A first result does not depend on repetitions. -/
theorem findSome?_eraseDups (g : α → Option β) (l : List α) : l.eraseDups.findSome? g = l.findSome? g := by
  induction l using eraseDups_induction with
  | nil => rfl
  | cons a l ih =>
    rw [List.eraseDups_cons, List.findSome?_cons, List.findSome?_cons, ih]
    cases ha : g a with
    | some b => rfl
    | none =>
      refine findSome?_filter_of_none fun b _ hb => ?_
      rw [show b = a by simpa using hb, ha]

end Rows

/-! ## Lengths -/

theorem length_eraseDups_le {l m : List α} (h : l ⊆ m) : l.eraseDups.length ≤ m.eraseDups.length :=
  (nodup_eraseDups l).length_le_of_subset fun _ ha => List.mem_eraseDups.mpr (h (List.mem_eraseDups.mp ha))

/-- Strictly fewer elements, strictly shorter. -/
theorem length_eraseDups_lt {l m : List α} {a : α} (h : l ⊆ m) (ha : a ∈ m) (hl : a ∉ l) :
    l.eraseDups.length < m.eraseDups.length := by
  have hn : (a :: l.eraseDups).Nodup :=
    List.nodup_cons.mpr ⟨fun h => hl (List.mem_eraseDups.mp h), nodup_eraseDups l⟩
  refine hn.length_le_of_subset fun b hb => List.mem_eraseDups.mpr ?_
  rcases List.mem_cons.mp hb with rfl | hb
  · exact ha
  · exact h (List.mem_eraseDups.mp hb)

end LogicGrid
