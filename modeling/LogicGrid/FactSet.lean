import LogicGrid.Fact

/-!
# Fact sets

Facts without repetition, in the order in which they came in. A fact that is there already is not taken in again and
keeps its place.

* `FactSet.mem_insert`, `FactSet.toList_prefix_insertAll`, `FactSet.toList_insertAll` – what insertion does to membership
  and to order.
-/

namespace LogicGrid

/-- Distinct facts in the order of their insertion. -/
structure FactSet where
  toList : List Fact
  nodup : toList.Nodup
deriving DecidableEq, Repr

namespace FactSet

/-- No facts. -/
def empty : FactSet := ⟨[], .nil⟩

instance : Inhabited FactSet := ⟨empty⟩

instance : Membership Fact FactSet := ⟨fun s f => f ∈ s.toList⟩

theorem mem_def {f : Fact} {s : FactSet} : f ∈ s ↔ f ∈ s.toList := Iff.rfl

instance (f : Fact) (s : FactSet) : Decidable (f ∈ s) := inferInstanceAs (Decidable (f ∈ s.toList))

@[ext] theorem ext_toList {s s' : FactSet} (h : s.toList = s'.toList) : s = s' := by
  cases s; cases s'; simp_all

/-- The number of facts. -/
def size (s : FactSet) : Nat := s.toList.length

/-- Whether there are no facts. -/
def isEmpty (s : FactSet) : Bool := s.toList.isEmpty

/-- Puts a fact at the end, unless it is there. -/
def insert (s : FactSet) (f : Fact) : FactSet :=
  if h : f ∈ s.toList then s
  else ⟨s.toList ++ [f], List.nodup_append.mpr ⟨s.nodup, by simp, fun a ha b hb e =>
    h (List.mem_singleton.mp hb ▸ e ▸ ha)⟩⟩

/-- Inserts facts one after another. -/
def insertAll (s : FactSet) (fs : List Fact) : FactSet := fs.foldl insert s

/-- The set of the facts of a list. -/
def ofList (fs : List Fact) : FactSet := empty.insertAll fs

/-- The facts that pass a test, in their order. -/
def filter (s : FactSet) (p : Fact → Bool) : FactSet := ⟨s.toList.filter p, s.nodup.filter p⟩

theorem mem_filter {s : FactSet} {p : Fact → Bool} {f : Fact} : f ∈ s.filter p ↔ f ∈ s ∧ p f = true := List.mem_filter

/-! ## Insertion -/

theorem toList_insert_of_mem {s : FactSet} {f : Fact} (h : f ∈ s) : (s.insert f).toList = s.toList := by
  rw [insert, dif_pos (mem_def.mp h)]

theorem toList_insert_of_not_mem {s : FactSet} {f : Fact} (h : f ∉ s) :
    (s.insert f).toList = s.toList ++ [f] := by
  rw [insert, dif_neg (mt mem_def.mpr h)]

@[simp] theorem mem_insert {s : FactSet} {f g : Fact} : g ∈ s.insert f ↔ g ∈ s ∨ g = f := by
  by_cases h : f ∈ s
  · rw [mem_def, toList_insert_of_mem h, ← mem_def]
    exact ⟨Or.inl, fun e => e.elim id fun e => e ▸ h⟩
  · rw [mem_def, toList_insert_of_not_mem h, List.mem_append, List.mem_singleton, ← mem_def]

@[simp] theorem mem_insertAll {g : Fact} : ∀ {fs : List Fact} {s : FactSet}, g ∈ s.insertAll fs ↔ g ∈ s ∨ g ∈ fs
  | [], _ => by simp [insertAll]
  | f :: fs, s => by
    rw [insertAll, List.foldl_cons, ← insertAll, mem_insertAll, mem_insert, List.mem_cons, or_assoc]

@[simp] theorem mem_ofList {g : Fact} {fs : List Fact} : g ∈ ofList fs ↔ g ∈ fs := by
  rw [ofList, mem_insertAll]
  exact ⟨fun h => h.elim (fun h => absurd h List.not_mem_nil) id, Or.inr⟩

/-- The facts of before stay in front. -/
theorem toList_prefix_insert (s : FactSet) (f : Fact) : s.toList <+: (s.insert f).toList := by
  by_cases h : f ∈ s
  · exact (toList_insert_of_mem h).symm ▸ List.prefix_refl _
  · exact (toList_insert_of_not_mem h).symm ▸ List.prefix_append _ _

theorem toList_prefix_insertAll : ∀ (fs : List Fact) (s : FactSet), s.toList <+: (s.insertAll fs).toList
  | [], _ => List.prefix_refl _
  | f :: fs, s => (toList_prefix_insert s f).trans (toList_prefix_insertAll fs (s.insert f))

/-- What is new comes in behind the facts of before, each fact where it occurs first. -/
theorem toList_insertAll : ∀ (fs : List Fact) (s : FactSet),
    (s.insertAll fs).toList = s.toList ++ (fs.filter (· ∉ s)).eraseDups
  | [], s => (List.append_nil s.toList).symm
  | f :: fs, s => by
    rw [insertAll, List.foldl_cons, ← insertAll, toList_insertAll fs (s.insert f)]
    by_cases hf : f ∈ s
    · have hsame : s.insert f = s := ext_toList (toList_insert_of_mem hf)
      rw [hsame, List.filter_cons_of_neg (by simpa using hf)]
    · have hboth : ∀ g ∈ fs, decide (g ∉ s.insert f) = (!(g == f) && decide (g ∉ s)) := fun g _ => by
        rw [Bool.eq_iff_iff]
        simp [and_comm]
      rw [toList_insert_of_not_mem hf, List.filter_cons_of_pos (by simpa using hf), List.eraseDups_cons,
        List.filter_filter, List.filter_congr hboth, List.append_assoc, List.singleton_append]

/-- Distinct facts that are not there all come in, in their order. -/
theorem toList_insertAll_of_nodup : ∀ {fs : List Fact} {s : FactSet}, (s.toList ++ fs).Nodup →
    (s.insertAll fs).toList = s.toList ++ fs
  | [], s, _ => (List.append_nil s.toList).symm
  | f :: fs, s, h => by
    have hf : f ∉ s := fun hf => (List.nodup_append.mp h).2.2 f (mem_def.mp hf) f List.mem_cons_self rfl
    rw [List.append_cons, ← toList_insert_of_not_mem hf] at h ⊢
    exact toList_insertAll_of_nodup h

end FactSet

end LogicGrid
