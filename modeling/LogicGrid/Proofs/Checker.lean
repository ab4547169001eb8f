import LogicGrid.Proofs.Consistency

/-!
# The check for conflicts is exact

The scan looks arguments up and would pass over a position that is not there. The *strict* scan gives up instead: it
reads the same arguments of the same facts in the same order, and has no result as soon as one is missing. A ledger is
`Sound` when the positions of its constraint are below the arity and so are the arities of the facts that it holds; a
strict entry into a sound ledger succeeds (`Ledger.recordStrict_eq`) and leaves it sound (`Ledger.sound_record`).

* `strictConflict_eq` – the strict scan never gives up, and finds what the scan finds;
* `findConflict_exact` – a conflict is found exactly when two ground facts break a constraint that can be enforced, so
  the order and the multiplicity of the facts do not matter.
-/

namespace LogicGrid

/-! ## The strict scan -/

/-- Whether the constraint applies, without a result when the fact has no argument at the position of the tag. -/
def Constraint.appliesToStrict (c : Constraint) (f : Fact) : Option Bool :=
  if f.predicate = c.predicate ∧ f.arity = c.arity then
    match c.tag with
    | some tag => f.args[tag.position]?.map (· = .const tag.value)
    | none => some true
  else some false

/-- Enters a fact, without a result when an argument that is to be read is not there. -/
def Ledger.recordStrict (l : Ledger) (f : Fact) : Option (Except Conflict Ledger) := do
  if ← l.dependency.constraint.appliesToStrict f then
    let k ← f.args[l.dependency.source]?
    match l.claims.lookup k with
    | some prior =>
      let a ← prior.args[l.dependency.target]?
      let b ← f.args[l.dependency.target]?
      return if a = b then .ok l else .error ⟨l.dependency.constraint.name, prior, f⟩
    | none => return .ok { l with claims := (k, f) :: l.claims }
  else return .ok l

/-- Enters a fact in all ledgers, up to the first conflict. -/
def enterStrict (f : Fact) : List Ledger → Option (Except Conflict (List Ledger))
  | [] => some (.ok [])
  | l :: ls => do
    match ← l.recordStrict f with
    | .ok l' => return (← enterStrict f ls).map (l' :: ·)
    | .error c => return .error c

/-- Enters each fact in all ledgers, up to the first conflict. -/
def scanStrict : List Ledger → List Fact → Option (Option Conflict)
  | _, [] => some none
  | ls, f :: fs => do
    match ← enterStrict f ls with
    | .ok ls' => scanStrict ls' fs
    | .error c => return some c

/-- The first conflict among the ground facts of a list, without a result when an argument is missing. -/
def ConstraintTable.strictConflict (t : ConstraintTable) (fs : List Fact) : Option (Option Conflict) :=
  scanStrict (t.dependencies.map (⟨·, []⟩)) (fs.filter Fact.isGround)

/-! ## Nothing is missing -/

namespace Constraint

variable {c : Constraint} {f : Fact}

theorem arity_eq_of_appliesTo (h : c.appliesTo f = true) : f.arity = c.arity := by
  simp only [appliesTo, Bool.and_eq_true, decide_eq_true_eq] at h
  exact h.1.2

/-- The tag of a fact with the arity of the constraint is there. -/
theorem appliesToStrict_eq (hc : ∀ p ∈ c.positions, p < c.arity) (f : Fact) :
    c.appliesToStrict f = some (c.appliesTo f) := by
  unfold appliesToStrict appliesTo
  by_cases h : f.predicate = c.predicate ∧ f.arity = c.arity
  · rw [if_pos h]
    cases ht : c.tag with
    | none => simp [h.1, h.2]
    | some tag =>
      have hlt : tag.position < f.args.length :=
        Nat.lt_of_lt_of_eq (hc tag.position (by simp [positions, ht])) h.2.symm
      simp [h.1, h.2, List.getElem?_eq_getElem hlt]
  · rw [if_neg h]
    by_cases hp : f.predicate = c.predicate
    · have ha : f.arity ≠ c.arity := fun e => h ⟨hp, e⟩
      simp [ha]
    · simp [hp]

end Constraint

namespace Ledger

variable {l l' : Ledger} {f : Fact}

/-- All positions of the constraint are below its arity, the two of the direction among them, and every fact that holds
a claim has that arity. -/
structure Sound (l : Ledger) : Prop where
  positions : ∀ p ∈ l.dependency.constraint.positions, p < l.dependency.constraint.arity
  source : l.dependency.source ∈ l.dependency.constraint.positions
  target : l.dependency.target ∈ l.dependency.constraint.positions
  claims : ∀ p ∈ l.claims, p.2.arity = l.dependency.constraint.arity

theorem recordStrict_eq (h : l.Sound) (f : Fact) : l.recordStrict f = some (l.record f) := by
  unfold recordStrict record
  rw [Constraint.appliesToStrict_eq h.positions]
  cases ha : l.dependency.constraint.appliesTo f with
  | false => rfl
  | true =>
    have hf : f.args.length = l.dependency.constraint.arity := Constraint.arity_eq_of_appliesTo ha
    have hsource : l.dependency.source < f.args.length := hf ▸ h.positions _ h.source
    have htarget : l.dependency.target < f.args.length := hf ▸ h.positions _ h.target
    cases hp : l.claims.lookup f.args[l.dependency.source] with
    | none => simp [List.getElem?_eq_getElem hsource, hp]
    | some prior =>
      have hprior : l.dependency.target < prior.args.length := by
        obtain ⟨before, after, e, _⟩ := List.lookup_eq_some_iff.mp hp
        have hmem : (f.args[l.dependency.source], prior) ∈ l.claims := by simp [e]
        exact Nat.lt_of_lt_of_eq (h.positions _ h.target) (h.claims _ hmem).symm
      simp [List.getElem?_eq_getElem hsource, List.getElem?_eq_getElem htarget, List.getElem?_eq_getElem hprior, hp]

/-- A fact that is entered has the arity of the constraint when it makes a claim. -/
theorem sound_record (h : l.Sound) (hr : l.record f = .ok l') : l'.Sound := by
  obtain ⟨_, e⟩ | ⟨k, hk, ⟨_, e⟩ | ⟨prior, _, ⟨_, e⟩ | ⟨_, e⟩⟩⟩ := record_cases l f <;> cases e.symm.trans hr
  · exact h
  · have hf := Constraint.arity_eq_of_appliesTo (Dependency.claims_iff.mp hk).1
    exact ⟨h.positions, h.source, h.target, List.forall_mem_cons.mpr ⟨hf, h.claims⟩⟩
  · exact h

end Ledger

section Scan

variable {f : Fact}

theorem enterStrict_eq : ∀ {ls : List Ledger}, (∀ l ∈ ls, l.Sound) → enterStrict f ls = some (ls.mapM (·.record f))
  | [], _ => rfl
  | l :: ls, h => by
    obtain ⟨hl, hls⟩ := List.forall_mem_cons.mp h
    rw [enterStrict, Ledger.recordStrict_eq hl, List.mapM_cons]
    cases l.record f with
    | error c => rfl
    | ok l' =>
      rw [enterStrict_eq hls]
      cases ls.mapM (·.record f) <;> rfl

/-- Over sound ledgers no argument is missing. -/
theorem scanStrict_eq : ∀ {fs : List Fact} {ls : List Ledger}, (∀ l ∈ ls, l.Sound) →
    scanStrict ls fs = some (scanFacts ls fs)
  | [], _, _ => rfl
  | f :: fs, ls, h => by
    rw [scanStrict, scanFacts, enterStrict_eq h]
    cases hls : ls.mapM (·.record f) with
    | error c => rfl
    | ok ls' =>
      have h' : ∀ l' ∈ ls', l'.Sound := fun l' hl' =>
        ((mapM_record_ok hls).2 l' hl').elim fun l e => Ledger.sound_record (h l e.1) e.2
      exact scanStrict_eq h'

end Scan

namespace ConstraintTable

variable {t : ConstraintTable}

/-- Only constraints whose positions are below their arity are scanned. -/
theorem sound_start {l : Ledger} (hl : l ∈ t.dependencies.map (⟨·, []⟩)) : l.Sound := by
  obtain ⟨d, hd, rfl⟩ := List.mem_map.mp hl
  obtain ⟨hsource, htarget⟩ := mem_positions hd
  have hvalid := (mem_dependencies_iff.mp hd).2.1
  exact ⟨(Constraint.isValid_iff.mp hvalid).1, hsource, htarget, List.forall_mem_nil _⟩

theorem strictConflict_eq (t : ConstraintTable) (fs : List Fact) : t.strictConflict fs = some (t.findConflict fs) :=
  scanStrict_eq fun _ => sound_start

/-! ## What the check depends on -/

/-- Whether facts are consistent is a matter of which facts there are. -/
theorem isConsistent_iff {fs : List Fact} : t.isConsistent fs = true ↔
    ∀ f ∈ fs, ∀ g ∈ fs, f.isGround = true → g.isGround = true → ¬t.Forbids f g := by
  rw [isConsistent, Option.isNone_iff_eq_none, findConflict_eq_none_iff]

theorem isConsistent_of_subset {fs gs : List Fact} (h : fs ⊆ gs) (hgs : t.isConsistent gs = true) :
    t.isConsistent fs = true :=
  isConsistent_iff.mpr fun f hf g hg => isConsistent_iff.mp hgs f (h hf) g (h hg)

theorem isConsistent_congr {fs gs : List Fact} (h : ∀ f, f ∈ fs ↔ f ∈ gs) : t.isConsistent fs = t.isConsistent gs :=
  Bool.eq_iff_iff.mpr ⟨isConsistent_of_subset fun f hf => (h f).mpr hf, isConsistent_of_subset fun f hf => (h f).mp hf⟩

end ConstraintTable

/-- **The check is exact**, for constraints that can be enforced and those that cannot. No argument that it reads is
missing. It finds a conflict exactly when two ground facts break a constraint whose positions are below its arity and
whose key and value are at different ones. It depends on the members of the list only, and a part of consistent facts
is consistent. -/
theorem findConflict_exact (t : ConstraintTable) :
    (∀ fs, t.strictConflict fs = some (t.findConflict fs)) ∧
    (∀ fs, (t.findConflict fs).isSome = true ↔ ∃ f ∈ fs, ∃ g ∈ fs, f.isGround = true ∧ g.isGround = true ∧
      ∃ c ∈ t.constraints, ((∀ p ∈ c.positions, p < c.arity) ∧ c.key ≠ c.value) ∧ c.Violates f g) ∧
    (∀ fs gs : List Fact, (∀ f, f ∈ fs ↔ f ∈ gs) → t.isConsistent fs = t.isConsistent gs) ∧
    (∀ fs gs : List Fact, fs ⊆ gs → t.isConsistent gs = true → t.isConsistent fs = true) := by
  refine ⟨t.strictConflict_eq, fun fs => ?_, fun _ _ => ConstraintTable.isConsistent_congr,
    fun _ _ => ConstraintTable.isConsistent_of_subset⟩
  rw [Option.isSome_iff_ne_none, Ne, ConstraintTable.findConflict_eq_none_iff]
  simp only [ConstraintTable.Forbids, Constraint.isValid_iff, Classical.not_forall, Classical.not_not, exists_prop]

end LogicGrid
