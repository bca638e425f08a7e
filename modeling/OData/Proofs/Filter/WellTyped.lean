import OData.Proofs.Filter.Added
import OData.Proofs.Filter.Mask

/-!
# Well-typed calls

A call is well-typed if its names are texts, its lists are lists and its values can be shown.

* **Never refused** (`exists_append_of_wellTyped`, `exists_added_append`): a well-typed call that is
  neither idle nor a group has a part to append, and every filter whose relation is a text
  (`Tracked`) takes that part.
* **All values are written** (`writtenAll_of_wellTyped`): a sequence of well-typed calls writes all
  of its values; only a distance from a point that names none of its parts writes nothing.
-/

namespace OData

/-- A value that can be shown has a piece. -/
theorem Value.piece_of_showable {v : Value} (h : v.showable = true) :
    v.piece = .ok (.literal v) := by
  rw [piece_eq, if_pos h]

/-- Values that can be shown have pieces. -/
theorem Value.exists_pieces {vs : List Value} (h : ∀ v ∈ vs, v.showable = true) :
    ∃ ps, pieces vs = .ok ps := by
  induction vs with
  | nil => exact ⟨[], rfl⟩
  | cons v rest ih =>
    obtain ⟨ps, hps⟩ := ih fun w hw => h w (List.mem_cons_of_mem v hw)
    refine ⟨.literal v :: ps, ?_⟩
    rw [pieces, piece_of_showable (h v List.mem_cons_self), hps]
    rfl

/-- Whether a condition compares a text with a value that can be shown, by a text. -/
def Condition.WellTyped (c : Condition) : Prop :=
  ∃ field operator, c.field = .text field ∧ c.operator = .text operator ∧
    c.value.showable = true

/-- A well-typed condition has pieces. -/
theorem Condition.exists_pieces {c : Condition} (h : c.WellTyped) : ∃ ps, c.pieces = .ok ps := by
  obtain ⟨field, operator, hfield, hoperator, hvalue⟩ := h
  unfold pieces
  rw [hfield, hoperator, Value.piece_of_showable hvalue]
  exact ⟨_, rfl⟩

/-- Items that stand for well-typed conditions have pieces. -/
theorem Item.exists_piecesAll {items : List Item}
    (h : ∀ i ∈ items, ∃ c, i.toCondition = .ok c ∧ c.WellTyped) :
    ∃ runs, piecesAll items = .ok runs := by
  induction items with
  | nil => exact ⟨[], rfl⟩
  | cons i rest ih =>
    obtain ⟨c, hc, hwell⟩ := h i List.mem_cons_self
    obtain ⟨run, hrun⟩ := c.exists_pieces hwell
    obtain ⟨runs, hruns⟩ := ih fun j hj => h j (List.mem_cons_of_mem i hj)
    refine ⟨run :: runs, ?_⟩
    rw [piecesAll, hc]
    show (do let run ← c.pieces; let runs ← piecesAll rest; Except.ok (run :: runs)) = _
    rw [hrun, hruns]
    rfl

/-- Whether a subject lists well-typed conditions and is no text. -/
def Subject.ListsConditions (s : Subject) : Prop :=
  (∀ name, s ≠ .value (.text name)) ∧
    ∃ listed, s.elements = .ok listed ∧ ∀ i ∈ listed, ∃ c, i.toCondition = .ok c ∧ c.WellTyped

/-! ## Parts -/

/-- What stands for an operator is a text, if the operator is missing or a text. -/
theorem Value.exists_orElse_text {given : Value} (h : given = .null ∨ ∃ s, given = .text s) :
    ∃ s, given.orElse (.text "") = .text s := by
  rcases h with rfl | ⟨s, rfl⟩
  · exact ⟨"", rfl⟩
  · unfold orElse
    split
    · exact ⟨s, rfl⟩
    · exact ⟨"", rfl⟩

namespace Part

variable {name operator : String}

/-- A comparison with a value that can be shown is made. -/
theorem exists_condition {value : Value} (h : value.showable = true) (logical : Value) :
    ∃ part, condition (.value (.text name)) (.text operator) value logical = .ok part ∧
      part.logical = logical := by
  unfold condition
  rw [Value.piece_of_showable h]
  exact ⟨_, rfl, rfl⟩

/-- A list of well-typed conditions is made. -/
theorem exists_group {conditions : Subject} (h : conditions.ListsConditions) (word : String)
    (join : Value) :
    ∃ part, group conditions (.text word) join = .ok part ∧ part.logical = join := by
  obtain ⟨-, listed, hlisted, hitems⟩ := h
  obtain ⟨runs, hruns⟩ := Item.exists_piecesAll hitems
  unfold group
  rw [hlisted]
  simp only [bind, Except.bind, hruns, Value.showPlain_text]
  exact ⟨_, rfl, rfl⟩

/-- A comparison of a field is made, whether or not it has an operator. -/
theorem exists_compare_text {given value : Value} (hgiven : given = .null ∨ ∃ s, given = .text s)
    (hvalue : value.showable = true) (logical : Value) :
    ∃ part, compare (.value (.text name)) given value logical = .ok part ∧
      part.logical = logical := by
  obtain ⟨s, hs⟩ := Value.exists_orElse_text hgiven
  show ∃ part, condition _ (given.orElse (.text "")) value logical = .ok part ∧ _
  rw [hs]
  exact exists_condition hvalue logical

/-- A list of well-typed conditions given with or without an operator is made, and it is joined by
a text. -/
theorem exists_compare_group {conditions : Subject} (h : conditions.ListsConditions)
    {given : Value} (hgiven : given = .null ∨ ∃ s, given = .text s) (value : Value)
    (word : String) :
    ∃ part, compare conditions given value (.text word) = .ok part ∧
      ∃ other, part.logical = .text other := by
  have hand : ∃ part, group conditions (.text word) (.text "and") = .ok part ∧
      ∃ other, part.logical = .text other := by
    obtain ⟨part, hpart, hlogical⟩ := exists_group h word (.text "and")
    exact ⟨part, hpart, "and", hlogical⟩
  rw [compare_eq_group h.1]
  rcases hgiven with rfl | ⟨s, rfl⟩
  · exact hand
  · by_cases hjoin : isJoinWord s = true
    · obtain ⟨part, hpart, hlogical⟩ := exists_group h s (.text word)
      simp only [if_pos hjoin]
      exact ⟨part, hpart, word, hlogical⟩
    · simp only [if_neg hjoin]
      exact hand

/-- A test for membership in a list of values that can be shown is made. -/
theorem exists_oneOf {values : Value} {items : List Value} (hvalues : values.elements = .ok items)
    (hitems : ∀ v ∈ items, v.showable = true) (logical : Value) :
    ∃ part, oneOf (.value (.text name)) values logical = .ok part ∧ part.logical = logical := by
  obtain ⟨literals, hliterals⟩ := Value.exists_pieces hitems
  unfold oneOf
  rw [hvalues]
  simp only [bind, Except.bind, hliterals]
  exact ⟨_, rfl, rfl⟩

/-- A text function of a value that can be shown is made. -/
theorem exists_textFunction {value : Value} (h : value.showable = true) (function : String)
    (logical : Value) :
    ∃ part, textFunction function (.value (.text name)) value logical = .ok part ∧
      part.logical = logical := by
  unfold textFunction
  rw [Value.piece_of_showable h]
  exact ⟨_, rfl, rfl⟩

/-- The text function whose value comes first is made if the value can be shown. -/
theorem exists_substringOf {value : Value} (h : value.showable = true) (logical : Value) :
    ∃ part, substringOf value (.value (.text name)) logical = .ok part ∧
      part.logical = logical := by
  unfold substringOf
  rw [Value.piece_of_showable h]
  exact ⟨_, rfl, rfl⟩

/-- A comparison of a length with an integer that can be shown is made. -/
theorem exists_length {count : Value} {n : Int} (hcount : count.toInt = .ok n)
    (hshown : showableInteger n = true) (logical : Value) :
    ∃ part, length (.value (.text name)) count (.text operator) logical = .ok part ∧
      part.logical = logical := by
  unfold length showInteger
  rw [hcount]
  simp only [bind, Except.bind, hshown]
  exact ⟨_, rfl, rfl⟩

/-- A comparison of a distance from a point whose parts can be shown is made. -/
theorem exists_distance {point : Members}
    (h : ∀ k, ((point.lookup k).getD .null).showable = true) (logical : Value) :
    ∃ part, distance (.value (.text name)) (.text operator) point logical = .ok part ∧
      part.logical = logical := by
  unfold distance
  simp only [Value.piece_of_showable (h _)]
  exact ⟨_, rfl, rfl⟩

end Part

/-! ## Calls -/

namespace Filter

/-- A call whose names are texts, whose lists are lists and whose values can be shown. -/
inductive Call.WellTyped : Call → Prop where
  /-- A comparison of a field, in which the operator may be missing. -/
  | compare {name word : String} {operator value : Value}
      (hoperator : operator = .null ∨ ∃ s, operator = .text s) (hvalue : value.showable = true) :
      WellTyped (.compare (.value (.text name)) operator value (.text word))
  /-- A list of comparisons, with or without an operator. -/
  | compareAll {field : Subject} {word : String} {operator value : Value}
      (hfield : field.ListsConditions) (hoperator : operator = .null ∨ ∃ s, operator = .text s) :
      WellTyped (.compare field operator value (.text word))
  /-- A comparison of a field. -/
  | condition {name operator word : String} {value : Value} (hvalue : value.showable = true) :
      WellTyped (.condition (.value (.text name)) (.text operator) value (.text word))
  /-- A parenthesized list of comparisons. -/
  | group {conditions : Subject} {word join : String} (hfield : conditions.ListsConditions) :
      WellTyped (.group conditions (.text word) (.text join))
  /-- A test for membership. -/
  | oneOf {name word : String} {values : Value} {items : List Value}
      (hvalues : values.elements = .ok items) (hitems : ∀ v ∈ items, v.showable = true) :
      WellTyped (.oneOf (.value (.text name)) values (.text word))
  /-- A text function. -/
  | textFunction {function : TextFunction} {name word : String} {value : Value}
      (hvalue : value.showable = true) :
      WellTyped (.textFunction function (.value (.text name)) value (.text word))
  /-- The text function whose value comes first. -/
  | substringOf {name word : String} {part : Value} (hpart : part.showable = true) :
      WellTyped (.substringOf part (.value (.text name)) (.text word))
  /-- A comparison of a length with an integer. -/
  | length {name comparison word : String} {count : Value} {n : Int}
      (hcount : count.toInt = .ok n) (hshown : showableInteger n = true) :
      WellTyped (.length (.value (.text name)) count (.text comparison) (.text word))
  /-- A comparison of a distance from a point. -/
  | distance {name operator word : String} {point : Members}
      (hpoint : ∀ k, ((point.lookup k).getD .null).showable = true) :
      WellTyped (.distance (.value (.text name)) (.text operator) (.object point) (.text word))
  /-- The opening of a group. -/
  | openGroup {relation : String} : WellTyped (.openGroup (.text relation))
  /-- The closing of a group. -/
  | closeGroup : WellTyped .closeGroup

/-- The values of listed conditions that are well-typed can be shown. -/
theorem showable_of_listsConditions {s : Subject} (h : s.ListsConditions) :
    ∀ v ∈ s.conditions.map Condition.value, v.showable = true := by
  obtain ⟨-, listed, hlisted, hitems⟩ := h
  intro v hv
  obtain ⟨c, hc, rfl⟩ := List.mem_map.1 hv
  unfold Subject.conditions at hc
  rw [hlisted] at hc
  obtain ⟨i, hi, hfound⟩ := List.mem_filterMap.1 hc
  obtain ⟨d, hd, hwell⟩ := hitems i hi
  rw [hd] at hfound
  obtain rfl : d = c := Option.some.inj hfound
  obtain ⟨-, -, -, -, hvalue⟩ := hwell
  exact hvalue

/-- The values of a well-typed call can be shown. -/
theorem Call.WellTyped.showable_values {call : Call} (h : call.WellTyped) :
    ∀ v ∈ call.values, v.showable = true := by
  cases h with
  | compare _ hvalue => exact List.forall_mem_singleton.2 hvalue
  | compareAll hfield =>
    rw [Call.values_compare hfield.1]
    exact showable_of_listsConditions hfield
  | condition hvalue => exact List.forall_mem_singleton.2 hvalue
  | group hfield => exact showable_of_listsConditions hfield
  | @oneOf name word values items hvalues hitems =>
    show ∀ v ∈ values.elements.toOption.getD [], v.showable = true
    rw [hvalues]
    exact hitems
  | textFunction hvalue => exact List.forall_mem_singleton.2 hvalue
  | substringOf hpart => exact List.forall_mem_singleton.2 hpart
  | length => exact fun _ hv => absurd hv List.not_mem_nil
  | @distance name operator word point hpoint =>
    intro v hv
    obtain ⟨k, -, rfl⟩ := List.mem_map.1 hv
    exact hpoint k
  | openGroup => exact fun _ hv => absurd hv List.not_mem_nil
  | closeGroup => exact fun _ hv => absurd hv List.not_mem_nil

/-- A part that is made is appended. -/
theorem exists_append {made : Except Fault Part} {word : String}
    (h : ∃ part, made = .ok part ∧ part.logical = .text word) :
    ∃ part, made.map Effect.append = .ok (.append part) ∧ ∃ word, part.logical = .text word := by
  obtain ⟨part, rfl, hlogical⟩ := h
  exact ⟨part, rfl, word, hlogical⟩

/-- A well-typed call that is not idle and opens or closes no group appends a part, which is joined
by a text. -/
theorem exists_append_of_wellTyped {call : Call} (h : call.WellTyped) (hidle : call.isIdle = false)
    (hopen : ∀ relation, call ≠ .openGroup relation) (hclose : call ≠ .closeGroup) :
    ∃ part, call.effect = .ok (.append part) ∧ ∃ word, part.logical = .text word := by
  cases h with
  | compare hoperator hvalue => exact exists_append (Part.exists_compare_text hoperator hvalue _)
  | @compareAll field word operator value hfield hoperator =>
    obtain ⟨part, hpart, hlogical⟩ := Part.exists_compare_group hfield hoperator value word
    refine ⟨part, ?_, hlogical⟩
    simp only [Call.effect, hpart]
    rfl
  | condition hvalue => exact exists_append (Part.exists_condition hvalue _)
  | group hfield => exact exists_append (Part.exists_group hfield _ _)
  | oneOf hvalues hitems => exact exists_append (Part.exists_oneOf hvalues hitems _)
  | textFunction hvalue => exact exists_append (Part.exists_textFunction hvalue _ _)
  | substringOf hpart => exact exists_append (Part.exists_substringOf hpart _)
  | length hcount hshown => exact exists_append (Part.exists_length hcount hshown _)
  | @distance name operator word point hpoint =>
    have hnamed : Part.namesPart (.object point) = .ok true := by
      cases hn : Part.namesPart (.object point) with
      | error cause => cases hn
      | ok named =>
        unfold Call.isIdle at hidle
        simp only [hn] at hidle
        cases named with
        | false => cases hidle
        | true => rfl
    have heffect : (Call.distance (.value (.text name)) (.text operator) (.object point)
        (.text word)).effect = (Part.distance (.value (.text name)) (.text operator) point
        (.text word)).map .append := by
      simp only [Call.effect, hnamed]
      rfl
    rw [heffect]
    exact exists_append (Part.exists_distance hpoint _)
  | openGroup => exact absurd rfl (hopen _)
  | closeGroup => exact absurd rfl hclose

/-- Whether no group was opened, or one whose relation is a text. -/
def Tracked (f : Filter) : Prop :=
  f.relation = .null ∨ ∃ s, f.relation = .text s

/-- Only the relation decides whether a filter is tracked. -/
theorem Tracked.of_relation_eq {f g : Filter} (hf : f.Tracked) (h : g.relation = f.relation) :
    g.Tracked := by
  unfold Tracked
  rw [h]
  exact hf

/-- A filter takes a part that is joined by a text. -/
theorem exists_added_append {f : Filter} (hf : f.Tracked) {part : Part} {word : String}
    (h : part.logical = .text word) : ∃ ps, (Effect.append part).added f = .ok ps := by
  rw [Effect.added]
  split
  · exact ⟨_, rfl⟩
  · unfold joinWord
    rcases hf with hnone | ⟨s, hs⟩
    · rw [hnone, h]
      exact ⟨_, rfl⟩
    · rw [hs]
      exact ⟨_, rfl⟩

/-- **A well-typed call is not refused**: it writes its values, unless it is idle. -/
theorem written_of_wellTyped {f : Filter} (hf : f.Tracked) {call : Call} (h : call.WellTyped) :
    f.run call = .ok (f.after call) ∧
      f.written call = (if call.isIdle then [] else call.values) ∧ (f.after call).Tracked := by
  by_cases hidle : call.isIdle = true
  · have heffect : call.effect = .ok .nothing := effect_of_isIdle hidle
    have hafter : f.after call = f := by
      unfold after
      rw [run_of_isIdle hidle]
      rfl
    rw [hafter]
    refine ⟨run_of_isIdle hidle f, ?_, hf⟩
    unfold written
    rw [heffect, if_pos hidle]
  · by_cases hopen : ∃ relation, call = .openGroup relation
    · obtain ⟨relation, rfl⟩ := hopen
      cases h with
      | @openGroup word => exact ⟨rfl, rfl, Or.inr ⟨word, rfl⟩⟩
    · by_cases hclose : call = .closeGroup
      · subst hclose
        exact ⟨rfl, rfl, hf⟩
      · obtain ⟨part, heffect, word, hlogical⟩ := exists_append_of_wellTyped h
          (by simpa using hidle) (fun relation heq => hopen ⟨relation, heq⟩) hclose
        obtain ⟨ps, hps⟩ := exists_added_append hf hlogical
        obtain ⟨hrun, hafter⟩ := run_after heffect hps
        refine ⟨hrun, ?_, hf.of_relation_eq (by rw [hafter]; rfl)⟩
        unfold written
        rw [heffect, hrun, if_neg hidle]

/-- **Well-typed calls are never refused**: they write all of their values, but those of the idle
ones. -/
theorem writtenAll_of_wellTyped {f : Filter} (hf : f.Tracked) {calls : List Call}
    (h : ∀ call ∈ calls, call.WellTyped) :
    f.writtenAll calls = calls.flatMap fun call => if call.isIdle then [] else call.values := by
  induction calls generalizing f with
  | nil => rfl
  | cons call rest ih =>
    obtain ⟨-, hwritten, hafter⟩ := written_of_wellTyped hf (h call List.mem_cons_self)
    rw [writtenAll, List.flatMap_cons, hwritten,
      ih hafter fun other hother => h other (List.mem_cons_of_mem call hother)]

end Filter

end OData
