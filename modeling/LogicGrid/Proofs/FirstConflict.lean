import LogicGrid.Proofs.Checker

/-!
# The conflict that is reported

Of all conflicts in a sequence of facts the scan reports one that is complete earliest: the facts in front of its second
fact are free of conflicts, and its first fact is the first ground one that claimed the determining argument.

The scan passes over facts with variables, so what it finds among the ground facts is carried back to the places in the
whole sequence (`exists_places_of_filter`).

* `findConflict_earliest` – where the two facts of a conflict stand, what they break, and what stands before them.
-/

namespace LogicGrid

/-- In the direction from `source` to `target`, in which the constraint holds, two facts to which it applies have the
same argument `k` and different arguments determined by it. -/
structure Constraint.Breaks (c : Constraint) (source target : Nat) (k : Term) (f g : Fact) : Prop where
  direction : source = c.key ∧ target = c.value ∨ c.bijective = true ∧ source = c.value ∧ target = c.key
  applies_first : c.appliesTo f = true
  applies_second : c.appliesTo g = true
  agrees_first : f.args[source]? = some k
  agrees_second : g.args[source]? = some k
  differ : ∃ a b, f.args[target]? = some a ∧ g.args[target]? = some b ∧ a ≠ b

section

variable {t : ConstraintTable} {d : Dependency} {c : Conflict} {fs before after seen : List Fact} {f g : Fact}

/-- The determined arguments of facts under a valid constraint are there. -/
theorem ConstraintTable.exists_target (hd : d ∈ t.dependencies) (hf : d.constraint.appliesTo f = true) :
    ∃ a, f.args[d.target]? = some a := by
  have hvalid := (mem_dependencies_iff.mp hd).2.1
  have hlt : d.target < f.args.length :=
    Nat.lt_of_lt_of_eq ((Constraint.isValid_iff.mp hvalid).1 _ (mem_positions hd).2)
      (Constraint.arity_eq_of_appliesTo hf).symm
  exact ⟨_, List.getElem?_eq_getElem hlt⟩

/-- What is reported in a direction that is checked. -/
theorem Dependency.Reports.breaks (h : d.Reports seen c) (hd : d ∈ t.dependencies) :
    ∃ k, seen.find? (d.claims k) = some c.first ∧ d.constraint.Breaks d.source d.target k c.first c.second := by
  obtain ⟨-, k, hfind, hsecond, hne⟩ := h
  have hfirst : d.claims k c.first = true := List.find?_some (p := d.claims k) hfind
  rw [claims_iff] at hfirst hsecond
  obtain ⟨a, ha⟩ := ConstraintTable.exists_target hd hfirst.1
  obtain ⟨b, hb⟩ := ConstraintTable.exists_target hd hsecond.1
  have hab : a ≠ b := fun e => hne (by rw [ha, hb, e])
  exact ⟨k, hfind, (ConstraintTable.mem_dependencies_iff.mp hd).2.2, hfirst.1, hsecond.1, hfirst.2, hsecond.2,
    a, b, ha, hb, hab⟩

/-- **What the scan finds among the ground facts.** -/
theorem ConstraintTable.exists_of_findConflict (h : t.findConflict fs = some c) : ∃ before after,
    fs.filter Fact.isGround = before ++ c.second :: after ∧ (∀ f ∈ before, ∀ g ∈ before, ¬t.Forbids f g) ∧
      ∃ d ∈ t.dependencies, d.Reports before c := by
  obtain ⟨before, after, e, hfree, l, hl, hrep⟩ := reports_of_scanFacts (fun _ => tracks_start) h
  rw [List.nil_append] at hfree hrep
  obtain ⟨d, hd, rfl⟩ := List.mem_map.mp hl
  refine ⟨before, after, e, fun f hf g hg hforb => ?_, d, hd, hrep⟩
  obtain ⟨d', hd', hbr⟩ := forbids_iff.mp hforb
  exact hfree ⟨d', []⟩ (List.mem_map_of_mem hd') f hf g hg hbr

/-- The places of two elements that pass a test, the first of which is the first one with `q` among those that do. -/
theorem exists_places_of_filter {α : Type} {p q : α → Bool} {l before after : List α} {a b : α}
    (h : l.filter p = before ++ b :: after) (hfind : before.find? q = some a) :
    ∃ i j, i < j ∧ l[i]? = some a ∧ l[j]? = some b ∧ (l.take j).filter p = before ∧
      ∀ i' < i, ∀ x, l[i']? = some x → p x = true → q x = false := by
  obtain ⟨front, back, rfl, hfront, hback⟩ := List.filter_eq_append_iff.mp h
  obtain ⟨skipped, rest, rfl, hskipped, -, -⟩ := List.filter_eq_cons_iff.mp hback
  have hnone : skipped.filter p = [] := List.filter_eq_nil_iff.mpr hskipped
  rw [← hfront, List.find?_filter, List.find?_eq_some_iff_append] at hfind
  obtain ⟨-, older, newer, rfl, holder⟩ := hfind
  refine ⟨older.length, (older ++ a :: newer ++ skipped).length, ?_, ?_, ?_, ?_, fun i' hi' x hx hpx => ?_⟩
  · simp only [List.length_append, List.length_cons]
    omega
  · simp
  · rw [← List.append_assoc, List.getElem?_append_right (Nat.le_refl _), Nat.sub_self]
    rfl
  · rw [← List.append_assoc, List.take_left, List.filter_append, hfront, hnone, List.append_nil]
  · have hmem : x ∈ older := by
      rw [List.append_assoc, List.getElem?_append_left hi'] at hx
      exact List.mem_of_getElem? hx
    simpa [hpx] using holder x hmem

end

/-- **The reported conflict is genuine, and it is the earliest.** Its facts stand at two places of the sequence and are
ground. They break a valid constraint of the reported name in a direction in which it holds: it applies to both, and the
same argument goes with different ones. No two ground facts in front of the second one are forbidden together, and no
ground fact in front of the first one has that argument under the constraint. -/
theorem findConflict_earliest (t : ConstraintTable) (fs : List Fact) (c : Conflict) (h : t.findConflict fs = some c) :
    ∃ i j, i < j ∧ fs[i]? = some c.first ∧ fs[j]? = some c.second ∧
      c.first.isGround = true ∧ c.second.isGround = true ∧
      (∃ con ∈ t.constraints, con.isValid = true ∧ con.name = c.constraint ∧ ∃ source target k,
        con.Breaks source target k c.first c.second ∧
        ∀ i' < i, ∀ f, fs[i']? = some f → f.isGround = true → con.appliesTo f = true → f.args[source]? ≠ some k) ∧
      ∀ f ∈ fs.take j, ∀ g ∈ fs.take j, f.isGround = true → g.isGround = true → ¬t.Forbids f g := by
  obtain ⟨before, after, e, hfree, d, hd, hrep⟩ := ConstraintTable.exists_of_findConflict h
  obtain ⟨k, hfind, hbreaks⟩ := hrep.breaks hd
  obtain ⟨i, j, hij, hi, hj, hbefore, hearlier⟩ := exists_places_of_filter e hfind
  obtain ⟨hcon, hvalid, -⟩ := ConstraintTable.mem_dependencies_iff.mp hd
  have hground : ∀ f ∈ before ++ c.second :: after, f.isGround = true := fun f hf => (List.mem_filter.mp (e ▸ hf)).2
  have hfirst : c.first.isGround = true := hground _ (List.mem_append_left _ hrep.mem)
  have hsecond : c.second.isGround = true := hground _ (List.mem_append_right _ List.mem_cons_self)
  refine ⟨i, j, hij, hi, hj, hfirst, hsecond, ⟨d.constraint, hcon, hvalid, hrep.1.symm, d.source, d.target, k, hbreaks,
    fun i' hi' f hf hg ha hk => ?_⟩, fun f hf g hg hfg hgg => ?_⟩
  · have hclaims : d.claims k f = true := Dependency.claims_iff.mpr ⟨ha, hk⟩
    exact absurd (hearlier i' hi' f hf hg) (by simp [hclaims])
  · have hmem : ∀ f ∈ fs.take j, f.isGround = true → f ∈ before := fun f hf hfg =>
      hbefore ▸ List.mem_filter.mpr ⟨hf, hfg⟩
    exact hfree f (hmem f hf hfg) g (hmem g hg hgg)

/-- One person has a nationality twice, another one may have any, and then the first one has a second one. -/
def restless : List Fact := [⟨"es", [.const "juan", .const "ingles"]⟩, ⟨"es", [.const "ana", .var "N"]⟩,
  ⟨"es", [.const "juan", .const "ingles"]⟩, ⟨"es", [.const "juan", .const "noruego"]⟩,
  ⟨"es", [.const "juan", .const "danes"]⟩]

/-- The third nationality comes too late to be reported. -/
theorem findConflict_restless : ∃ i j, i < j ∧ restless[i]? = some ⟨"es", [.const "juan", .const "ingles"]⟩ ∧
    restless[j]? = some ⟨"es", [.const "juan", .const "noruego"]⟩ ∧
    ∀ f ∈ restless.take j, ∀ g ∈ restless.take j, f.isGround = true → g.isGround = true →
      ¬ConstraintTable.people.Forbids f g := by
  have hfound : ConstraintTable.people.findConflict restless = some ⟨"nationality",
      ⟨"es", [.const "juan", .const "ingles"]⟩, ⟨"es", [.const "juan", .const "noruego"]⟩⟩ := by decide
  obtain ⟨i, j, hij, hi, hj, -, -, -, hfree⟩ := findConflict_earliest _ _ _ hfound
  exact ⟨i, j, hij, hi, hj, hfree⟩

end LogicGrid
