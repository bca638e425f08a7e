import OData.Proofs.Filter.Quoted
import OData.Proofs.Gateway.Document

/-!
# The structure of filters from requests

A request may hold any document in the place of a value.

* **Which values keep the structure** (`keepsStructure_iff`): the filter of clauses ends outside
  literals with one parenthesis open for each group that was opened and not closed, for all clauses
  with values of some kind, exactly if every value of that kind is self-contained. All values but
  objects are, and so are objects with their texts between single quotes.
* **An object that does not** (`not_keepsStructure_of_object`).
-/

namespace OData

/-- Well-typed calls are made one after another. -/
theorem Filter.exists_replay_of_wellTyped {f : Filter} (hf : f.Tracked) {calls : List Call}
    (h : ∀ call ∈ calls, call.WellTyped) : ∃ g, f.replay calls = .ok g := by
  induction calls generalizing f with
  | nil => exact ⟨f, rfl⟩
  | cons call rest ih =>
    rw [List.forall_mem_cons] at h
    obtain ⟨hrun, -, htracked⟩ := written_of_wellTyped hf h.1
    obtain ⟨g, hg⟩ := ih htracked h.2
    exact ⟨g, bind_eq_ok_iff.2 ⟨_, hrun, hg⟩⟩

namespace Gateway

namespace Clause

/-! ## Clauses -/

/-- Whether a clause is what the checks make of an object in a document. -/
def Accepted (c : Clause) : Prop :=
  ∃ members, (Value.object members).showable = true ∧ ofMembers members = .ok c

/-- The texts of a clause that are no values. -/
def words (c : Clause) : List String :=
  c.field.toList ++ c.operator.toList ++ [c.logical, c.relation, c.comparison] ++
    (c.conditions.getD []).flatMap fun f => [f.field, f.operator]

/-- Whether no such text holds a single quote or a parenthesis. -/
def Unmarked (c : Clause) : Prop :=
  ∀ s ∈ c.words, '\x27' ∉ s.toList ∧ '(' ∉ s.toList ∧ ')' ∉ s.toList

/-- The conditions that a group lists are those of the clause. -/
theorem conditions_items (forms : List ConditionForm) :
    (Subject.items (forms.map fun f => .condition f.condition)).conditions =
      forms.map ConditionForm.condition := by
  unfold Subject.conditions Subject.elements
  dsimp only
  rw [List.filterMap_map]
  exact congrFun (List.filterMap_eq_map (f := ConditionForm.condition)) forms

/-- What stands for the texts that a clause lacks. -/
def substitutes : List String := ["", "None", "and", "le"]

/-- The names of a call are texts of its clause, or stand for missing ones. -/
theorem names_subset (c : Clause) : c.call.names ⊆ c.words ++ substitutes := by
  have hfield : c.field.getD "" ∈ c.words ++ substitutes := by
    cases h : c.field <;> simp [words, substitutes, h]
  have hoperator : ((c.operator.map Value.text).getD .null).plain ∈ c.words ++ substitutes := by
    cases h : c.operator with
    | none => simp [words, substitutes, Value.plain, Value.quoted]
    | some word => simp [words, h, Value.plain]
  have hdistance : c.distanceOperator ∈ c.words ++ substitutes := by
    unfold distanceOperator
    split
    · simp [substitutes]
    · simp [substitutes]
    · rename_i word _ h
      simp [words, h]
  have hlogical : c.logical ∈ c.words ++ substitutes := by simp [words]
  have hand : "and" ∈ c.words ++ substitutes := by simp [substitutes]
  have hnone : [] ⊆ c.words ++ substitutes := List.nil_subset _
  have htwo {a b : String} (ha : a ∈ c.words ++ substitutes) (hb : b ∈ c.words ++ substitutes) :
      [a, b] ⊆ c.words ++ substitutes :=
    List.cons_subset.2 ⟨ha, List.cons_subset.2 ⟨hb, hnone⟩⟩
  unfold call
  split
  · exact List.cons_subset.2 ⟨hfield, htwo hoperator hlogical⟩
  · refine List.cons_subset.2 ⟨hlogical, List.cons_subset.2 ⟨hand, fun name hname => ?_⟩⟩
    rw [conditions_items] at hname
    obtain ⟨d, hd, hname⟩ := List.mem_flatMap.1 hname
    obtain ⟨f, hf, rfl⟩ := List.mem_map.1 hd
    have hlisted : name ∈ [f.field, f.operator] := hname
    refine List.mem_append_left _ (List.mem_append_right _ ?_)
    exact List.mem_flatMap.2 ⟨f, hf, hlisted⟩
  · exact htwo hlogical hfield
  · exact htwo hlogical hfield
  · exact htwo hlogical hfield
  · exact List.cons_subset.2 ⟨by simp [words, Value.plain], htwo hlogical hfield⟩
  · exact List.cons_subset.2 ⟨hdistance, htwo hlogical hfield⟩
  · exact List.cons_subset.2 ⟨by simp [words, Value.plain], hnone⟩
  · exact hnone

/-- The names of an unmarked clause hold no quote and close what they open. -/
theorem Unmarked.names {c : Clause} (h : c.Unmarked) {name : String} (hname : name ∈ c.call.names) :
    '\x27' ∉ name.toList ∧ Text.depth name.toList = 0 := by
  rcases List.mem_append.1 (c.names_subset hname) with hword | hsubstitute
  · obtain ⟨hquote, hopen, hclose⟩ := h name hword
    exact ⟨hquote, Text.depth_eq_zero hopen hclose⟩
  · have hall : ∀ s ∈ substitutes, '\x27' ∉ s.toList ∧ Text.depth s.toList = 0 := by decide
    exact hall name hsubstitute

/-- The call of an accepted clause is well-typed. -/
theorem Accepted.wellTyped {c : Clause} (h : c.Accepted) : c.call.WellTyped := by
  obtain ⟨members, hshown, hc⟩ := h
  exact wellTyped_call (shown_of_ofMembers hshown hc)

/-- The parentheses that a clause opens or closes are those of its call. -/
theorem depth_call (c : Clause) :
    c.call.depth = (if c.operation = .openGroup then 1 else 0) -
      (if c.operation = .closeGroup then 1 else 0) := by
  unfold call
  cases c.operation <;> rfl

end Clause

/-- The clauses that open a group, less those that close one. -/
def openGroups (clauses : List Clause) : Int :=
  clauses.countP (fun c => decide (c.operation = .openGroup)) -
    clauses.countP fun c => decide (c.operation = .closeGroup)

/-- The parentheses that clauses open are those of the groups that they open. -/
theorem sum_depth_call (clauses : List Clause) :
    ((clauses.map Clause.call).map Filter.Call.depth).sum = openGroups clauses := by
  induction clauses with
  | nil => rfl
  | cons c rest ih =>
    unfold openGroups at ih ⊢
    rw [List.map_cons, List.map_cons, List.sum_cons, ih, Clause.depth_call, List.countP_cons,
      List.countP_cons]
    simp only [decide_eq_true_eq]
    split <;> split <;> omega

/-- Whether the filter of clauses ends outside literals, with one parenthesis open there for each
group that was opened and not closed. -/
def KeepsStructure (clauses : List Clause) : Prop :=
  ∃ f, Filter.empty.replay (clauses.map Clause.call) = .ok f ∧
    (Filter.scan f.expression).mode = .outside ∧
    (Filter.scan f.expression).depth = openGroups clauses

/-- Clauses with values that are self-contained keep their structure. -/
theorem keepsStructure_of_selfContained {clauses : List Clause}
    (h : ∀ c ∈ clauses, c.Accepted ∧ c.Unmarked ∧ ∀ v ∈ c.call.values, v.SelfContained) :
    KeepsStructure clauses := by
  have hwell : ∀ call ∈ clauses.map Clause.call, call.WellTyped := by
    intro call hcall
    obtain ⟨c, hc, rfl⟩ := List.mem_map.1 hcall
    exact (h c hc).1.wellTyped
  have hnames : ∀ name ∈ (clauses.map Clause.call).flatMap Filter.Call.names,
      '\x27' ∉ name.toList ∧ Text.depth name.toList = 0 := by
    intro name hname
    obtain ⟨call, hcall, hname⟩ := List.mem_flatMap.1 hname
    obtain ⟨c, hc, rfl⟩ := List.mem_map.1 hcall
    exact (h c hc).2.1.names hname
  have hvalues : ∀ call ∈ clauses.map Clause.call, ∀ v ∈ call.values, v.SelfContained := by
    intro call hcall
    obtain ⟨c, hc, rfl⟩ := List.mem_map.1 hcall
    exact (h c hc).2.2
  have hempty : Filter.empty.Tracked := Or.inl rfl
  obtain ⟨f, hf⟩ := Filter.exists_replay_of_wellTyped hempty hwell
  obtain ⟨hmode, hdepth⟩ := Filter.opens_replay hf hnames hvalues
  exact ⟨f, hf, hmode, hdepth.trans (sum_depth_call clauses)⟩

/-! ## One comparison -/

/-- A clause that compares `f` with a value. -/
def comparing (v : Value) : Clause :=
  ⟨.compare, some "f", some "eq", v, none, none, "and", "AND", "eq", none, none⟩

/-- A comparison with a value that can be shown is accepted. -/
theorem accepted_comparing {v : Value} (h : v.showable = true) : (comparing v).Accepted := by
  refine ⟨[("op", .text "where"), ("field", .text "f"), ("operator", .text "eq"), ("value", v)],
    ?_, rfl⟩
  rw [Value.showable_object_iff]
  simp only [List.forall_mem_cons]
  exact ⟨rfl, rfl, rfl, h, fun _ hm => absurd hm List.not_mem_nil⟩

/-- A comparison keeps its structure exactly if its value is self-contained. -/
theorem keepsStructure_comparing_iff {v : Value} (h : v.showable = true) :
    KeepsStructure [comparing v] ↔ v.SelfContained := by
  have hpart : ∃ written, Part.condition (.value (.text "f")) (.text "eq") v (.text "and") =
      .ok ⟨Condition.comparison "f" "eq" (.literal v), .text "and", written⟩ := by
    unfold Part.condition
    rw [Value.piece_of_showable h]
    exact ⟨_, rfl⟩
  obtain ⟨written, hpart⟩ := hpart
  have hreplay : Filter.empty.replay ([comparing v].map Clause.call) =
      .ok ⟨"f eq " ++ v.literal, .null, false⟩ := by
    have heffect : (comparing v).call.effect = .ok (.append
        ⟨Condition.comparison "f" "eq" (.literal v), .text "and", written⟩) := by
      show (Part.condition (.value (.text "f")) (.text "eq") v (.text "and")).map
        Filter.Effect.append = _
      rw [hpart]
      rfl
    have htext : "" ++ Part.text ⟨Condition.comparison "f" "eq" (.literal v), .text "and",
        written⟩ = "f eq " ++ v.literal := by
      simp [Part.text, Condition.comparison]
    rw [List.map_singleton, Filter.replay_singleton, Filter.run_of_effect heffect]
    show Filter.append _ _ = _
    rw [Filter.append_of_atStart rfl]
    show Except.ok (Filter.mk ("" ++ _) _ _) = _
    rw [htext]
    rfl
  have hopens : Filter.Opens "f eq " 0 := by decide
  unfold KeepsStructure Value.SelfContained
  rw [hreplay, ← Filter.opens_append_iff hopens]
  constructor
  · rintro ⟨f, hf, hkeeps⟩
    rw [← Except.ok.inj hf] at hkeeps
    exact hkeeps
  · exact fun hkeeps => ⟨_, rfl, hkeeps⟩

/-- **When filters from requests keep their structure.** They do for all clauses whose values are of
some kind, exactly if every value of that kind is self-contained. Every value is that is no object
or has all of its texts between single quotes. -/
theorem keepsStructure_iff (allowed : Value → Prop) :
    ((∀ clauses : List Clause,
        (∀ c ∈ clauses, c.Accepted ∧ c.Unmarked ∧ ∀ v ∈ c.call.values, allowed v) →
          KeepsStructure clauses) ↔
      ∀ v : Value, v.showable = true → allowed v → v.SelfContained) ∧
    (∀ v : Value, v.isDatum = true → v.SelfContained) ∧
    ∀ v : Value, v.inSingleQuotes = true → v.SelfContained := by
  refine ⟨⟨fun h v hv hallowed => ?_, fun h clauses hclauses => ?_⟩,
    fun _ => Value.selfContained_of_isDatum, fun _ => Value.selfContained_of_inSingleQuotes⟩
  · rw [← keepsStructure_comparing_iff hv]
    have hunmarked : (comparing v).Unmarked := by
      have hall : ∀ s ∈ ["f", "eq", "and", "AND", "eq"],
          '\x27' ∉ s.toList ∧ '(' ∉ s.toList ∧ ')' ∉ s.toList := by decide
      exact hall
    have hvalues : ∀ w ∈ (comparing v).call.values, allowed w :=
      List.forall_mem_singleton.2 hallowed
    exact h [comparing v]
      (List.forall_mem_singleton.2 ⟨accepted_comparing hv, hunmarked, hvalues⟩)
  · apply keepsStructure_of_selfContained
    intro c hc
    obtain ⟨haccepted, hunmarked, hvalues⟩ := hclauses c hc
    refine ⟨haccepted, hunmarked, fun v hv => ?_⟩
    exact h v (haccepted.wellTyped.showable_values v hv) (hvalues v hv)

/-- A comparison with an object whose text holds a single quote. The scan of the filter ends inside
a literal. -/
theorem not_keepsStructure_of_object :
    let c := comparing (.object [("a", .text "\x27")])
    c.Accepted ∧ c.Unmarked ∧ ¬ KeepsStructure [c] := by
  intro c
  have hshown : (Value.object [("a", .text "\x27")]).showable = true := by decide
  refine ⟨accepted_comparing hshown, by unfold Clause.Unmarked; decide, ?_⟩
  rw [keepsStructure_comparing_iff hshown]
  decide +kernel

end Gateway

end OData
