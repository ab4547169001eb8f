import LogicGrid.Proofs.JsonText
import LogicGrid.Wire.Constraints
import LogicGrid.Wire.Solution

/-!
# What is written is read back

Every kind of value that is both written and read comes back from its own JSON value: arrays item by item
(`Json.list?_map`), records field by field (`Json.record?_obj`), and the collections without repetition because nothing
in them is repeated (`FactSet.ofList_toList`, `PrefixTable.ofList_entries`). With `Json.parse?_compact` they come back
from their text too.

* `roundTrips` – the text of a value is read as this value, and a constraint table from text is checked on top of that.
-/

namespace LogicGrid

/-! ## Arrays and records -/

/-- What can be read item by item makes up an array that can be read. -/
theorem mapM_map_eq_some {α β γ : Type _} {read : β → Option γ} {write : α → β} {value : α → γ} : ∀ {as : List α},
    (∀ a ∈ as, read (write a) = some (value a)) → (as.map write).mapM read = some (as.map value)
  | [], _ => rfl
  | a :: as, h => by
    rw [List.map_cons, List.mapM_cons, h a List.mem_cons_self,
      mapM_map_eq_some fun b hb => h b (List.mem_cons_of_mem a hb)]
    rfl

namespace Json

variable {members : List (String × Json)}

theorem list?_map {α : Type _} {read : Json → Option α} {write : α → Json} {as : List α}
    (h : ∀ a ∈ as, read (write a) = some a) : list? read (.arr (as.map write)) = some as := by
  rw [list?, mapM_map_eq_some h, List.map_id']

theorem strings?_ofStrings (ss : List String) : strings? (.ofStrings ss) = some ss := by
  rw [ofStrings, strings?]
  refine (mapM_map_eq_some ?_).trans (congrArg some (List.map_id ss))
  exact fun _ _ => rfl

/-- Where no name is repeated, a name leads to one member only. -/
theorem filter_name_eq : ∀ {members : List (String × Json)} {m : String × Json}, (members.map (·.1)).Nodup →
    m ∈ members → members.filter (·.1 == m.1) = [m]
  | [], _, _, hm => absurd hm List.not_mem_nil
  | a :: as, m, h, hm => by
    obtain ⟨ha, has⟩ := List.nodup_cons.mp h
    rcases List.mem_cons.mp hm with rfl | hm
    · have hothers : as.filter (·.1 == m.1) = [] := List.filter_eq_nil_iff.mpr fun b hb e =>
        ha (List.mem_map.mpr ⟨b, hb, beq_iff_eq.mp e⟩)
      rw [List.filter_cons, if_pos (beq_self_eq_true m.1), hothers]
    · have hne : ¬(a.1 == m.1) = true := fun e => ha (List.mem_map.mpr ⟨m, hm, (beq_iff_eq.mp e).symm⟩)
      rw [List.filter_cons, if_neg hne, filter_name_eq has hm]

/-- An object with the fields of a record in their order. -/
theorem record?_obj {names : List String} (hn : members.map (·.1) = names) (h : names.Nodup) :
    (obj members).record? names = some (members.map fun m => some m.2) := by
  have hmember : ∀ m ∈ members, member? members m.1 = some (some m.2) := by
    intro m hm
    rw [member?, filter_name_eq (hn ▸ h) hm]
  rw [← hn, record?, mapM_map_eq_some hmember]

end Json

/-! ## Terms, facts and rules -/

mutual

theorem Term.ofJson?_toJson : ∀ t : Term, Term.ofJson? t.toJson = some t
  | .const c => by
    rw [toJson, ofJson?, if_pos rfl]
  | .var x => by
    rw [toJson, ofJson?, if_neg (by decide), if_pos rfl]
  | .app f args => by
    rw [toJson, ofJson?, if_pos rfl, Term.argsOfJson?_argsToJson args, Option.map_some]

theorem Term.argsOfJson?_argsToJson : ∀ ts : List Term, Term.argsOfJson? (Term.argsToJson ts) = some ts
  | [] => by
    rw [argsToJson, argsOfJson?]
  | t :: ts => by
    rw [argsToJson, argsOfJson?, Term.ofJson?_toJson t, Term.argsOfJson?_argsToJson ts]

end

theorem Fact.ofJson?_toJson (f : Fact) : Fact.ofJson? f.toJson = some f := by
  have hrecord : f.toJson.record? ["predicate", "args"] =
      some [some (.str f.predicate), some (.arr (f.args.map Term.toJson))] := Json.record?_obj rfl (by decide)
  simp only [ofJson?, hrecord, Json.list?_map fun t _ => Term.ofJson?_toJson t, Option.map_some]

theorem Rule.ofJson?_toJson (r : Rule) : Rule.ofJson? r.toJson = some r := by
  have hrecord : r.toJson.record? ["antecedents", "consequent"] =
      some [some (.arr (r.antecedents.map Fact.toJson)), some r.consequent.toJson] :=
    Json.record?_obj rfl (by decide)
  simp only [ofJson?, hrecord, Json.list?_map fun f _ => Fact.ofJson?_toJson f, Fact.ofJson?_toJson]
  rfl

/-! ## Knowledge bases -/

theorem FactSet.ofList_toList (s : FactSet) : ofList s.toList = s :=
  FactSet.ext_toList (toList_insertAll_of_nodup s.nodup)

theorem FactSet.ofJson?_toJson (s : FactSet) : FactSet.ofJson? s.toJson = some s := by
  rw [ofJson?, toJson, Json.list?_map fun f _ => Fact.ofJson?_toJson f, Option.map_some, ofList_toList]

theorem KnowledgeBase.ofJson?_toJson (kb : KnowledgeBase) : KnowledgeBase.ofJson? kb.toJson = some kb := by
  have hrecord : kb.toJson.record? ["facts", "rules", "max_facts"] =
      some [some kb.facts.toJson, some (.arr (kb.rules.map Rule.toJson)), some (.nat kb.maxFacts)] :=
    Json.record?_obj rfl (by decide)
  simp only [ofJson?, hrecord, FactSet.ofJson?_toJson, Json.list?_map fun r _ => Rule.ofJson?_toJson r]
  rfl

/-! ## Constraint tables -/

theorem Tag.ofJson?_toJson (t : Tag) : Tag.ofJson? t.toJson = some t := by
  have hrecord : t.toJson.record? ["position", "value"] = some [some (.nat t.position), some (.str t.value)] :=
    Json.record?_obj rfl (by decide)
  simp only [ofJson?, hrecord]

theorem Tag.optional?_toJson : ∀ t : Option Tag, Tag.optional? (some ((t.map Tag.toJson).getD .null)) = some t
  | none => rfl
  | some t => by
    rw [Option.map_some, Option.getD_some]
    exact congrArg (Option.map some) (Tag.ofJson?_toJson t)

theorem Constraint.ofJson?_toJson (c : Constraint) : Constraint.ofJson? c.toJson = some c := by
  have hrecord : c.toJson.record? ["name", "predicate", "arity", "tag", "key", "value", "bijective"] =
      some [some (.str c.name), some (.str c.predicate), some (.nat c.arity), some ((c.tag.map Tag.toJson).getD .null),
        some (.nat c.key), some (.nat c.value), some (.bool c.bijective)] := Json.record?_obj rfl (by decide)
  simp only [ofJson?, hrecord, Tag.optional?_toJson]
  rfl

theorem ConstraintTable.ofJson?_toJson (t : ConstraintTable) : ConstraintTable.ofJson? t.toJson = some t := by
  have hrecord : t.toJson.record? ["name", "constraints"] =
      some [some (.str t.name), some (.arr (t.constraints.map Constraint.toJson))] := Json.record?_obj rfl (by decide)
  simp only [ofJson?, hrecord, Json.list?_map fun c _ => Constraint.ofJson?_toJson c, Option.map_some]

/-! ## Configurations -/

theorem SearchLimits.ofJson?_toJson (l : SearchLimits) : SearchLimits.ofJson? l.toJson = some l := by
  have hrecord : l.toJson.record? ["max_free_variables", "max_domain_size", "truncated_variables",
      "truncated_domain_size", "fallback_domain_size"] =
        some [some (.nat l.maxFreeVariables), some (.nat l.maxDomainSize), some (.nat l.truncatedVariables),
          some (.nat l.truncatedDomainSize), some (.nat l.fallbackDomainSize)] := Json.record?_obj rfl (by decide)
  simp only [ofJson?, hrecord]

theorem PrefixTable.entries_foldl_insert : ∀ {es : List (String × String)} {t : PrefixTable},
    ((t.entries ++ es).map (·.1)).Nodup → (es.foldl (fun t e => t.insert e.1 e.2) t).entries = t.entries ++ es
  | [], t, _ => (List.append_nil t.entries).symm
  | e :: es, t, h => by
    have he : e.1 ∉ t.entries.map (·.1) := by
      rw [List.map_append] at h
      exact fun he => (List.nodup_append.mp h).2.2 e.1 he e.1 List.mem_cons_self rfl
    have hinsert : (t.insert e.1 e.2).entries = t.entries ++ [e] := by rw [insert, dif_neg he]
    rw [List.append_cons, ← hinsert] at h ⊢
    exact entries_foldl_insert h

theorem PrefixTable.ofList_entries (t : PrefixTable) : ofList t.entries = t := by
  have hentries : (ofList t.entries).entries = t.entries := entries_foldl_insert t.nodup
  cases ht : ofList t.entries
  rw [ht] at hentries
  cases t
  cases hentries
  rfl

theorem PrefixTable.ofJson?_toJson (t : PrefixTable) : PrefixTable.ofJson? t.toJson = some t := by
  have hmembers : (t.entries.map fun e => (e.1, Json.str e.2)).mapM PrefixTable.ofJson?.entry? = some t.entries := by
    refine (mapM_map_eq_some ?_).trans (congrArg some (List.map_id t.entries))
    exact fun _ _ => rfl
  rw [toJson, ofJson?, hmembers, Option.map_some, ofList_entries]

theorem Vocabulary.ofJson?_toJson (d : Vocabulary) : Vocabulary.ofJson? d.toJson = some d := by
  have hrecord : d.toJson.record? ["house_marker", "colors", "nationalities", "prefixes"] =
      some [some (.str d.houseMarker), some (.ofStrings d.colors), some (.ofStrings d.nationalities),
        some d.namePrefixes.toJson] := Json.record?_obj rfl (by decide)
  simp only [ofJson?, hrecord, Json.strings?_ofStrings, PrefixTable.ofJson?_toJson]
  rfl

theorem SolverConfig.ofJson?_toJson (c : SolverConfig) : SolverConfig.ofJson? c.toJson = some c := by
  have hrecord : c.toJson.record? ["max_facts", "max_steps", "search", "domains"] =
      some [some (.nat c.maxFacts), some (.nat c.maxSteps), some c.search.toJson, some c.domains.toJson] :=
    Json.record?_obj rfl (by decide)
  simp only [ofJson?, hrecord, SearchLimits.ofJson?_toJson, Vocabulary.ofJson?_toJson]
  rfl

/-! ## Solutions and statistics -/

theorem Solution.ofJson?_toJson (s : Solution) : Solution.ofJson? s.toJson = some s := by
  have hrecord : s.toJson.record? ["facts", "inference_steps"] =
      some [some s.facts.toJson, some (.nat s.inferenceSteps)] := Json.record?_obj rfl (by decide)
  simp only [ofJson?, hrecord, FactSet.ofJson?_toJson, Option.map_some]

theorem SolveStats.ofJson?_toJson (s : SolveStats) : SolveStats.ofJson? s.toJson = some s := by
  have hrecord : s.toJson.record? ["passes", "derived_facts", "searched", "search_branches", "leaves_evaluated",
      "contradictions", "step_limit_hit", "fact_limit_hit", "search_truncated"] =
        some [some (.nat s.passes), some (.nat s.derivedFacts), some (.bool s.searched), some (.nat s.searchBranches),
          some (.nat s.leavesEvaluated), some (.nat s.contradictions), some (.bool s.stepLimitHit),
          some (.bool s.factLimitHit), some (.bool s.searchTruncated)] := Json.record?_obj rfl (by decide)
  simp only [ofJson?, hrecord]

/-! ## Text -/

/-- Whatever fits into JSON text is read back from its text. -/
def RoundTrips {α : Type _} (write : α → Json) (read : Json → Option α) : Prop :=
  ∀ a, (write a).Fits → Json.decode read (write a).compact = .ok a

theorem roundTrips_of_read_write {α : Type _} {write : α → Json} {read : Json → Option α}
    (h : ∀ a, read (write a) = some a) : RoundTrips write read := by
  intro a ha
  rw [Json.decode, Json.parse?_compact ha, Option.bind_some, h a]

namespace ConstraintTable

theorem validate_cases (t : ConstraintTable) : t.validate = .ok () ∨ ∃ e, t.validate = .error (.config e) := by
  rw [validate, List.forM_eq_forM]
  induction t.constraints with
  | nil => exact .inl rfl
  | cons c cs ih =>
    rw [List.forM_cons]
    cases hc : c.validate with
    | ok u => exact ih
    | error e =>
      rw [Constraint.validate] at hc
      split at hc
      · cases hc
        exact .inr ⟨_, rfl⟩
      · split at hc
        · cases hc
          exact .inr ⟨_, rfl⟩
        · cases hc

/-- The text of a table is read as this table when it passes its check, and refused with the error of the check
otherwise. -/
theorem ofText_compact {t : ConstraintTable} (h : t.toJson.Fits) :
    ofText t.toJson.compact = t.validate.map fun _ => t := by
  rw [ofText, roundTrips_of_read_write ofJson?_toJson t h]
  show (t.validate >>= fun _ => pure t) = t.validate.map fun _ => t
  cases t.validate <;> rfl

end ConstraintTable

/-- Every kind of value that is written as JSON comes back from its text as it was, with all lists in their order. From
text, a constraint table is accepted exactly when it passes its check, and any other is refused as an invalid
configuration. -/
theorem roundTrips :
    RoundTrips Term.toJson Term.ofJson? ∧ RoundTrips Fact.toJson Fact.ofJson? ∧ RoundTrips Rule.toJson Rule.ofJson? ∧
    RoundTrips KnowledgeBase.toJson KnowledgeBase.ofJson? ∧
    RoundTrips ConstraintTable.toJson ConstraintTable.ofJson? ∧
    RoundTrips SolverConfig.toJson SolverConfig.ofJson? ∧ RoundTrips Solution.toJson Solution.ofJson? ∧
    RoundTrips SolveStats.toJson SolveStats.ofJson? ∧
    ∀ t : ConstraintTable, t.toJson.Fits →
      t.validate = .ok () ∧ ConstraintTable.ofText t.toJson.compact = .ok t ∨
      ∃ e, t.validate = .error (.config e) ∧ ConstraintTable.ofText t.toJson.compact = .error (.config e) := by
  refine ⟨roundTrips_of_read_write Term.ofJson?_toJson, roundTrips_of_read_write Fact.ofJson?_toJson,
    roundTrips_of_read_write Rule.ofJson?_toJson, roundTrips_of_read_write KnowledgeBase.ofJson?_toJson,
    roundTrips_of_read_write ConstraintTable.ofJson?_toJson, roundTrips_of_read_write SolverConfig.ofJson?_toJson,
    roundTrips_of_read_write Solution.ofJson?_toJson, roundTrips_of_read_write SolveStats.ofJson?_toJson, ?_⟩
  intro t ht
  rw [ConstraintTable.ofText_compact ht]
  rcases t.validate_cases with h | ⟨e, h⟩
  · exact .inl ⟨h, by rw [h]; rfl⟩
  · exact .inr ⟨e, h, by rw [h]; rfl⟩

theorem ofText_quoted_houses :
    let t : ConstraintTable := ⟨"\"casas\"\té\n", ConstraintTable.houses.constraints⟩
    t.toJson.Fits ∧ ConstraintTable.ofText t.toJson.compact = .ok t := by
  intro t
  have hfits : t.toJson.Fits := by decide +kernel
  have hvalid : t.validate = .ok () := by decide
  refine ⟨hfits, ?_⟩
  rcases roundTrips.2.2.2.2.2.2.2.2 t hfits with ⟨-, h⟩ | ⟨e, h, -⟩
  · exact h
  · cases hvalid.symm.trans h

end LogicGrid
