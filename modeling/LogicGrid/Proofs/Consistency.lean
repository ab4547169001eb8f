import LogicGrid.Search.Backtracking

/-!
# The scan for conflicts is exact

Two facts *disagree* from one position to another when they have the same argument at the first and different ones at
the second. A table forbids two facts when one of its valid constraints applies to both and they disagree in a
direction in which it holds.

A scan keeps one ledger for each direction. After the facts `seen`, a ledger `Tracks` them: under each determining
argument it holds the first fact that claimed it, and no two facts seen disagree. One fact keeps this
(`Ledger.tracks_record`) or disagrees with the first fact that claimed its argument (`Ledger.reports_record`), so a scan
stops at the first fact that disagrees with an earlier one (`reports_of_scanFacts`), hence

* `findConflict_eq_none_iff` – a conflict is found exactly when two ground facts are forbidden together.
-/

namespace LogicGrid

/-- The same argument at `i`, and different ones at `j`. -/
def Fact.Disagree (i j : Nat) (f g : Fact) : Prop :=
  ∃ k, f.args[i]? = some k ∧ g.args[i]? = some k ∧ f.args[j]? ≠ g.args[j]?

/-- The constraint applies to both facts, and they disagree in a direction in which it holds. -/
def Constraint.Violates (c : Constraint) (f g : Fact) : Prop :=
  c.appliesTo f = true ∧ c.appliesTo g = true ∧
    (Fact.Disagree c.key c.value f g ∨ c.bijective = true ∧ Fact.Disagree c.value c.key f g)

/-- Some valid constraint of the table is violated. -/
def ConstraintTable.Forbids (t : ConstraintTable) (f g : Fact) : Prop :=
  ∃ c ∈ t.constraints, c.isValid = true ∧ c.Violates f g

/-! ## One direction of a constraint -/

namespace Dependency

variable {d : Dependency} {f g : Fact} {k : Term}

/-- Both facts are under the constraint and disagree from its source to its target. -/
def Broken (d : Dependency) (f g : Fact) : Prop :=
  d.constraint.appliesTo f = true ∧ d.constraint.appliesTo g = true ∧ Fact.Disagree d.source d.target f g

/-- Whether a fact has the determining argument `k`. -/
def claims (d : Dependency) (k : Term) (f : Fact) : Bool :=
  d.constraint.appliesTo f && f.args[d.source]? == some k

theorem claims_iff : d.claims k f = true ↔ d.constraint.appliesTo f = true ∧ f.args[d.source]? = some k := by
  simp [claims]

theorem broken_iff : d.Broken f g ↔
    ∃ k, d.claims k f = true ∧ d.claims k g = true ∧ f.args[d.target]? ≠ g.args[d.target]? := by
  simp only [Broken, Fact.Disagree, claims_iff]
  constructor
  · rintro ⟨hf, hg, k, hkf, hkg, hne⟩
    exact ⟨k, ⟨hf, hkf⟩, ⟨hg, hkg⟩, hne⟩
  · rintro ⟨k, ⟨hf, hkf⟩, ⟨hg, hkg⟩, hne⟩
    exact ⟨hf, hg, k, hkf, hkg, hne⟩

theorem Broken.symm (h : d.Broken f g) : d.Broken g f := by
  obtain ⟨hf, hg, k, hkf, hkg, hne⟩ := h
  exact ⟨hg, hf, k, hkg, hkf, hne.symm⟩

theorem not_broken_self (d : Dependency) (f : Fact) : ¬d.Broken f f := fun ⟨_, _, _, _, _, hne⟩ => hne rfl

/-- A fact claims one argument. -/
theorem claims_inj {k' : Term} (h : d.claims k f = true) (h' : d.claims k' f = true) : k = k' :=
  Option.some.inj ((claims_iff.mp h).2.symm.trans (claims_iff.mp h').2)

/-- The conflict is one in this direction, between the first of the facts `seen` that claimed the argument and another
one. -/
def Reports (d : Dependency) (seen : List Fact) (c : Conflict) : Prop :=
  c.constraint = d.constraint.name ∧ ∃ k, seen.find? (d.claims k) = some c.first ∧ d.claims k c.second = true ∧
    c.first.args[d.target]? ≠ c.second.args[d.target]?

section Reports

variable {seen : List Fact} {c : Conflict}

theorem Reports.mem (h : d.Reports seen c) : c.first ∈ seen := by
  obtain ⟨-, k, hfind, -, -⟩ := h
  exact List.mem_of_find?_eq_some hfind

theorem Reports.broken (h : d.Reports seen c) : d.Broken c.first c.second := by
  obtain ⟨-, k, hfind, hk, hne⟩ := h
  exact broken_iff.mpr ⟨k, List.find?_some (p := d.claims k) hfind, hk, hne⟩

end Reports

end Dependency

namespace ConstraintTable

variable {t : ConstraintTable} {d : Dependency} {f g : Fact}

/-- A direction that is checked is one in which a valid constraint holds. -/
theorem mem_dependencies_iff : d ∈ t.dependencies ↔ d.constraint ∈ t.constraints ∧ d.constraint.isValid = true ∧
    (d.source = d.constraint.key ∧ d.target = d.constraint.value ∨
      d.constraint.bijective = true ∧ d.source = d.constraint.value ∧ d.target = d.constraint.key) := by
  obtain ⟨c, source, target⟩ := d
  simp only [dependencies, enforced, List.mem_flatMap, List.mem_filter, Constraint.dependencies, List.mem_cons,
    Dependency.mk.injEq]
  constructor
  · rintro ⟨c', ⟨hc, hv⟩, ⟨rfl, rfl, rfl⟩ | h⟩
    · exact ⟨hc, hv, .inl ⟨rfl, rfl⟩⟩
    · by_cases hb : c'.bijective = true
      · rw [if_pos hb, List.mem_singleton] at h
        cases h
        exact ⟨hc, hv, .inr ⟨hb, rfl, rfl⟩⟩
      · rw [if_neg hb] at h
        cases h
  · rintro ⟨hc, hv, ⟨rfl, rfl⟩ | ⟨hb, rfl, rfl⟩⟩
    · exact ⟨c, ⟨hc, hv⟩, .inl ⟨rfl, rfl, rfl⟩⟩
    · exact ⟨c, ⟨hc, hv⟩, .inr (by rw [if_pos hb]; exact List.mem_singleton.mpr rfl)⟩

/-- The positions of a direction are positions of its constraint. -/
theorem mem_positions (hd : d ∈ t.dependencies) :
    d.source ∈ d.constraint.positions ∧ d.target ∈ d.constraint.positions := by
  obtain ⟨-, -, ⟨hs, ht⟩ | ⟨-, hs, ht⟩⟩ := mem_dependencies_iff.mp hd <;> simp [hs, ht, Constraint.positions]

theorem forbids_iff : t.Forbids f g ↔ ∃ d ∈ t.dependencies, d.Broken f g := by
  constructor
  · rintro ⟨c, hc, hv, hf, hg, h | ⟨hb, h⟩⟩
    · exact ⟨⟨c, c.key, c.value⟩, mem_dependencies_iff.mpr ⟨hc, hv, .inl ⟨rfl, rfl⟩⟩, hf, hg, h⟩
    · exact ⟨⟨c, c.value, c.key⟩, mem_dependencies_iff.mpr ⟨hc, hv, .inr ⟨hb, rfl, rfl⟩⟩, hf, hg, h⟩
  · rintro ⟨d, hd, hf, hg, h⟩
    obtain ⟨hc, hv, ⟨hs, ht⟩ | ⟨hb, hs, ht⟩⟩ := mem_dependencies_iff.mp hd
    · exact ⟨d.constraint, hc, hv, hf, hg, .inl (hs ▸ ht ▸ h)⟩
    · exact ⟨d.constraint, hc, hv, hf, hg, .inr ⟨hb, hs ▸ ht ▸ h⟩⟩

end ConstraintTable

/-! ## One ledger -/

namespace Ledger

variable {l l' : Ledger} {f : Fact} {seen : List Fact} {c : Conflict}

/-- Each claim is held by the first fact that made it, and no two facts are in conflict. -/
structure Tracks (l : Ledger) (seen : List Fact) : Prop where
  lookup (k : Term) : l.claims.lookup k = seen.find? (l.dependency.claims k)
  consistent : ∀ f ∈ seen, ∀ g ∈ seen, ¬l.dependency.Broken f g

/-- What entering a fact can do. -/
theorem record_cases (l : Ledger) (f : Fact) :
    ((∀ k, l.dependency.claims k f = false) ∧ l.record f = .ok l) ∨
      ∃ k, l.dependency.claims k f = true ∧
        (l.claims.lookup k = none ∧ l.record f = .ok { l with claims := (k, f) :: l.claims } ∨
        ∃ prior, l.claims.lookup k = some prior ∧
          (prior.args[l.dependency.target]? = f.args[l.dependency.target]? ∧ l.record f = .ok l ∨
          prior.args[l.dependency.target]? ≠ f.args[l.dependency.target]? ∧
            l.record f = .error ⟨l.dependency.constraint.name, prior, f⟩)) := by
  unfold record
  by_cases ha : l.dependency.constraint.appliesTo f = true
  · rw [if_pos ha]
    cases hk : f.args[l.dependency.source]? with
    | none => exact Or.inl ⟨fun k => by simp [Dependency.claims, hk], rfl⟩
    | some k =>
      refine Or.inr ⟨k, Dependency.claims_iff.mpr ⟨ha, hk⟩, ?_⟩
      simp only []
      cases hp : l.claims.lookup k with
      | none => exact Or.inl ⟨rfl, rfl⟩
      | some prior =>
        refine Or.inr ⟨prior, rfl, ?_⟩
        by_cases he : prior.args[l.dependency.target]? = f.args[l.dependency.target]?
        · exact Or.inl ⟨he, if_pos he⟩
        · exact Or.inr ⟨he, if_neg he⟩
  · rw [if_neg ha]
    exact Or.inl ⟨fun k => by simp [Dependency.claims, ha], rfl⟩

theorem dependency_record (h : l.record f = .ok l') : l'.dependency = l.dependency := by
  obtain ⟨_, e⟩ | ⟨k, _, ⟨_, e⟩ | ⟨prior, _, ⟨_, e⟩ | ⟨_, e⟩⟩⟩ := record_cases l f <;> rw [e] at h <;> cases h <;> rfl

/-- Facts of before stay consistent with one that agrees with them all. -/
theorem consistent_concat (ht : l.Tracks seen) (h : ∀ g ∈ seen, ¬l.dependency.Broken g f) :
    ∀ a ∈ seen ++ [f], ∀ b ∈ seen ++ [f], ¬l.dependency.Broken a b := by
  intro a ha b hb
  rcases List.mem_append.mp ha with ha | ha <;> rcases List.mem_append.mp hb with hb | hb
  · exact ht.consistent a ha b hb
  · exact List.mem_singleton.mp hb ▸ h a ha
  · exact fun hbr => h b hb (List.mem_singleton.mp ha ▸ hbr.symm)
  · rw [List.mem_singleton.mp ha, List.mem_singleton.mp hb]
    exact Dependency.not_broken_self _ f

/-- A fact that is entered is tracked as well. -/
theorem tracks_record (ht : l.Tracks seen) (h : l.record f = .ok l') : l'.Tracks (seen ++ [f]) := by
  obtain ⟨hno, e⟩ | ⟨k, hk, ⟨hnone, e⟩ | ⟨prior, hsome, ⟨he, e⟩ | ⟨_, e⟩⟩⟩ := record_cases l f
  -- the fact claims nothing
  · cases e.symm.trans h
    refine ⟨fun k => ?_, consistent_concat ht fun g _ hbr => ?_⟩
    · rw [ht.lookup k, List.find?_append, List.find?_cons_of_neg (by simp [hno k]), List.find?_nil, Option.or_none]
    · obtain ⟨k, _, hkf, _⟩ := Dependency.broken_iff.mp hbr
      exact absurd (hno k) (by simp [hkf])
  -- the fact is the first to claim `k`
  · cases e.symm.trans h
    rw [ht.lookup k, List.find?_eq_none] at hnone
    refine ⟨fun k' => ?_, consistent_concat (l := l) ht fun g hg hbr => ?_⟩
    · rw [List.find?_append, List.lookup_cons]
      by_cases hk' : k' = k
      · subst hk'
        rw [BEq.rfl, List.find?_eq_none.mpr hnone, List.find?_cons_of_pos hk]
        rfl
      · have hf : l.dependency.claims k' f = false := by simpa using mt (Dependency.claims_inj · hk) hk'
        rw [beq_eq_false_iff_ne.mpr hk', ht.lookup k', List.find?_cons_of_neg (by simp [hf]), List.find?_nil,
          Option.or_none]
    · obtain ⟨k', hkg, hkf, _⟩ := Dependency.broken_iff.mp hbr
      exact hnone g hg (Dependency.claims_inj hkf hk ▸ hkg)
  -- the fact agrees with the one that claimed `k`
  · cases e.symm.trans h
    rw [ht.lookup k] at hsome
    have hp : prior ∈ seen ∧ l.dependency.claims k prior = true :=
      ⟨List.mem_of_find?_eq_some hsome, List.find?_some hsome⟩
    refine ⟨fun k' => ?_, consistent_concat ht fun g hg hbr => ?_⟩
    · rw [ht.lookup k', List.find?_append]
      by_cases hk' : k' = k
      · subst hk'
        rw [hsome]
        rfl
      · have hf : l.dependency.claims k' f = false := by simpa using mt (Dependency.claims_inj · hk) hk'
        rw [List.find?_cons_of_neg (by simp [hf]), List.find?_nil, Option.or_none]
    · obtain ⟨k', hkg, hkf, hne⟩ := Dependency.broken_iff.mp hbr
      have hkg : l.dependency.claims k g = true := Dependency.claims_inj hkf hk ▸ hkg
      exact ht.consistent g hg prior hp.1 (Dependency.broken_iff.mpr ⟨k, hkg, hp.2, he.symm ▸ hne⟩)
  · cases e.symm.trans h

/-- A fact that is refused disagrees with the first one that claimed its argument. -/
theorem reports_record (ht : l.Tracks seen) (h : l.record f = .error c) :
    c.second = f ∧ l.dependency.Reports seen c := by
  obtain ⟨_, e⟩ | ⟨k, hk, ⟨_, e⟩ | ⟨prior, hsome, ⟨_, e⟩ | ⟨hne, e⟩⟩⟩ := record_cases l f <;> rw [e] at h <;> cases h
  exact ⟨rfl, rfl, k, (ht.lookup k).symm.trans hsome, hk, hne⟩

end Ledger

/-! ## All ledgers -/

section Scan

variable {ls ls' : List Ledger} {f : Fact} {fs seen : List Fact} {c : Conflict}

/-- All ledgers take a fact when each of them does. -/
theorem mapM_record_ok : ∀ {ls ls' : List Ledger}, ls.mapM (·.record f) = .ok ls' →
    (∀ l ∈ ls, ∃ l' ∈ ls', l.record f = .ok l') ∧ ∀ l' ∈ ls', ∃ l ∈ ls, l.record f = .ok l'
  | [], ls', h => by
    cases h
    simp
  | l :: ls, ls', h => by
    rw [List.mapM_cons] at h
    cases hl : l.record f with
    | error e => rw [hl] at h; cases h
    | ok l₁ =>
      cases hls : ls.mapM (·.record f) with
      | error e => rw [hl, hls] at h; cases h
      | ok ls₁ =>
        rw [hl, hls] at h
        cases h
        obtain ⟨h₁, h₂⟩ := mapM_record_ok hls
        refine ⟨List.forall_mem_cons.mpr ⟨⟨l₁, List.mem_cons_self, hl⟩, fun a ha => ?_⟩,
          List.forall_mem_cons.mpr ⟨⟨l, List.mem_cons_self, hl⟩, fun b hb => ?_⟩⟩
        · exact (h₁ a ha).imp fun _ e => ⟨List.mem_cons_of_mem _ e.1, e.2⟩
        · exact (h₂ b hb).imp fun _ e => ⟨List.mem_cons_of_mem _ e.1, e.2⟩

theorem mapM_record_error : ∀ {ls : List Ledger}, ls.mapM (·.record f) = .error c → ∃ l ∈ ls, l.record f = .error c
  | [], h => by cases h
  | l :: ls, h => by
    rw [List.mapM_cons] at h
    cases hl : l.record f with
    | error e =>
      rw [hl] at h
      cases h
      exact ⟨l, List.mem_cons_self, hl⟩
    | ok l₁ =>
      cases hls : ls.mapM (·.record f) with
      | error e =>
        rw [hl, hls] at h
        cases h
        exact (mapM_record_error hls).imp fun _ e => ⟨List.mem_cons_of_mem _ e.1, e.2⟩
      | ok ls₁ => rw [hl, hls] at h; cases h

/-- A scan that finds nothing saw no two facts in conflict. -/
theorem not_broken_of_scanFacts : ∀ {fs seen : List Fact} {ls : List Ledger}, (∀ l ∈ ls, l.Tracks seen) →
    scanFacts ls fs = none → ∀ l ∈ ls, ∀ f ∈ seen ++ fs, ∀ g ∈ seen ++ fs, ¬l.dependency.Broken f g
  | [], seen, ls, ht, _ => fun l hl => by
    rw [List.append_nil]
    exact (ht l hl).consistent
  | f :: fs, seen, ls, ht, h => fun l hl => by
    rw [scanFacts] at h
    split at h
    · next ls' hls =>
      obtain ⟨h₁, h₂⟩ := mapM_record_ok hls
      obtain ⟨l', hl', hr⟩ := h₁ l hl
      have ht' : ∀ l' ∈ ls', l'.Tracks (seen ++ [f]) := fun l' hl' =>
        (h₂ l' hl').elim fun l e => Ledger.tracks_record (ht l e.1) e.2
      rw [← Ledger.dependency_record hr, List.append_cons]
      exact not_broken_of_scanFacts ht' h l' hl'
    · cases h

/-- A scan stops at the first fact that is in conflict with an earlier one. -/
theorem reports_of_scanFacts : ∀ {fs seen : List Fact} {ls : List Ledger}, (∀ l ∈ ls, l.Tracks seen) →
    scanFacts ls fs = some c → ∃ before after, fs = before ++ c.second :: after ∧
      (∀ l ∈ ls, ∀ f ∈ seen ++ before, ∀ g ∈ seen ++ before, ¬l.dependency.Broken f g) ∧
      ∃ l ∈ ls, l.dependency.Reports (seen ++ before) c
  | [], _, _, _, h => by cases h
  | f :: fs, seen, ls, ht, h => by
    rw [scanFacts] at h
    split at h
    · next ls' hls =>
      obtain ⟨h₁, h₂⟩ := mapM_record_ok hls
      have ht' : ∀ l' ∈ ls', l'.Tracks (seen ++ [f]) := fun l' hl' =>
        (h₂ l' hl').elim fun l e => Ledger.tracks_record (ht l e.1) e.2
      obtain ⟨before, after, rfl, hfree, l', hl', hrep⟩ := reports_of_scanFacts ht' h
      rw [List.append_assoc, List.singleton_append] at hfree hrep
      refine ⟨f :: before, after, rfl, fun l hl => ?_, ?_⟩
      · obtain ⟨l', hl', hr⟩ := h₁ l hl
        exact Ledger.dependency_record hr ▸ hfree l' hl'
      · obtain ⟨l, hl, hr⟩ := h₂ l' hl'
        exact ⟨l, hl, Ledger.dependency_record hr ▸ hrep⟩
    · next c' hls =>
      cases h
      obtain ⟨l, hl, hr⟩ := mapM_record_error hls
      obtain ⟨rfl, hrep⟩ := Ledger.reports_record (ht l hl) hr
      rw [← List.append_nil seen] at hrep
      exact ⟨[], fs, rfl, fun l hl => (List.append_nil seen).symm ▸ (ht l hl).consistent, l, hl, hrep⟩

end Scan

namespace ConstraintTable

variable {t : ConstraintTable} {fs : List Fact}

theorem tracks_start {l : Ledger} (hl : l ∈ t.dependencies.map (⟨·, []⟩)) : l.Tracks [] := by
  obtain ⟨d, _, rfl⟩ := List.mem_map.mp hl
  exact ⟨fun _ => rfl, fun f hf => absurd hf List.not_mem_nil⟩

/-- **The scan is exact.** -/
theorem findConflict_eq_none_iff : t.findConflict fs = none ↔
    ∀ f ∈ fs, ∀ g ∈ fs, f.isGround = true → g.isGround = true → ¬t.Forbids f g := by
  constructor
  · intro h f hf g hg hfg hgg hforb
    obtain ⟨d, hd, hbr⟩ := forbids_iff.mp hforb
    exact not_broken_of_scanFacts (fun _ => tracks_start) h ⟨d, []⟩ (List.mem_map_of_mem hd) f
      (List.mem_filter.mpr ⟨hf, hfg⟩) g (List.mem_filter.mpr ⟨hg, hgg⟩) hbr
  · intro h
    cases hc : t.findConflict fs with
    | none => rfl
    | some c =>
      obtain ⟨before, after, e, -, l, hl, hrep⟩ := reports_of_scanFacts (fun _ => tracks_start) hc
      obtain ⟨d, hd, rfl⟩ := List.mem_map.mp hl
      have hfirst : c.first ∈ fs.filter Fact.isGround := e ▸ List.mem_append_left _ hrep.mem
      have hsecond : c.second ∈ fs.filter Fact.isGround := e ▸ List.mem_append_right _ List.mem_cons_self
      obtain ⟨hf, hfg⟩ := List.mem_filter.mp hfirst
      obtain ⟨hg, hgg⟩ := List.mem_filter.mp hsecond
      exact absurd (forbids_iff.mpr ⟨d, hd, hrep.broken⟩) (h _ hf _ hg hfg hgg)

end ConstraintTable

end LogicGrid
