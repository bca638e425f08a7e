import OData.Proofs.Filter.WellTyped

/-!
# When a call on a filter is refused

A call on a filter may be given any values.

* **Calls** (`exists_run_iff`): a call with its other arguments of the kinds that it is declared
  with (`Typed`) is refused exactly if a value that it has to show cannot be shown, whatever calls
  came before it.
* **Operations** (`exists_effect_iff`): a call has an effect exactly if the values that it has to
  show can be shown, by a lemma for each operation.
-/

namespace OData

/-- A value has a piece exactly if it can be shown. -/
theorem Value.exists_piece_iff {v : Value} : (∃ p, v.piece = .ok p) ↔ v.showable = true := by
  rw [piece_eq]
  split
  · rename_i h
    exact iff_of_true ⟨_, rfl⟩ h
  · rename_i h
    exact iff_of_false (fun ⟨_, hp⟩ => nomatch hp) h

/-- A value has a plain form exactly if it can be shown. -/
theorem Value.exists_showPlain_iff {v : Value} :
    (∃ s, v.showPlain = .ok s) ↔ v.showable = true := by
  unfold showPlain shownAs
  split
  · rename_i h
    exact iff_of_true ⟨_, rfl⟩ h
  · rename_i h
    exact iff_of_false (fun ⟨_, hp⟩ => nomatch hp) h

/-- Values have pieces exactly if all of them can be shown. -/
theorem Value.exists_pieces_iff {vs : List Value} :
    (∃ ps, pieces vs = .ok ps) ↔ ∀ v ∈ vs, v.showable = true := by
  refine ⟨?_, exists_pieces⟩
  induction vs with
  | nil => exact fun _ v hv => absurd hv List.not_mem_nil
  | cons v rest ih =>
    rintro ⟨ps, hps⟩
    obtain ⟨p, hp, hps⟩ := bind_eq_ok_iff.1 hps
    obtain ⟨others, hothers, -⟩ := bind_eq_ok_iff.1 hps
    exact List.forall_mem_cons.2 ⟨exists_piece_iff.1 ⟨p, hp⟩, ih ⟨others, hothers⟩⟩

/-! ## Conditions -/

/-- The three parts of a condition. -/
def Condition.parts (c : Condition) : List Value :=
  [c.field, c.operator, c.value]

/-- A condition has pieces exactly if its parts can be shown. -/
theorem Condition.exists_pieces_iff {c : Condition} :
    (∃ ps, c.pieces = .ok ps) ↔ ∀ v ∈ c.parts, v.showable = true := by
  unfold parts
  simp only [List.forall_mem_cons, ← Value.exists_showPlain_iff]
  constructor
  · rintro ⟨ps, hps⟩
    obtain ⟨field, hfield, hps⟩ := bind_eq_ok_iff.1 hps
    obtain ⟨operator, hoperator, hps⟩ := bind_eq_ok_iff.1 hps
    obtain ⟨literal, hliteral, -⟩ := bind_eq_ok_iff.1 hps
    have hvalue := Value.exists_showPlain_iff.2 (Value.exists_piece_iff.1 ⟨literal, hliteral⟩)
    exact ⟨⟨field, hfield⟩, ⟨operator, hoperator⟩, hvalue, fun _ hv => absurd hv List.not_mem_nil⟩
  · rintro ⟨⟨field, hfield⟩, ⟨operator, hoperator⟩, hvalue, -⟩
    obtain ⟨literal, hliteral⟩ := Value.exists_piece_iff.2 (Value.exists_showPlain_iff.1 hvalue)
    unfold pieces
    rw [hfield, hoperator, hliteral]
    exact ⟨_, rfl⟩

/-- An item that is a condition about a text, or an object that describes a condition. -/
inductive Item.Describes : Item → Prop where
  /-- A condition. -/
  | condition {c : Condition} {field operator : String} (hfield : c.field = .text field)
      (hoperator : c.operator = .text operator) : Describes (.condition c)
  /-- An object. -/
  | mapping (members : Members) : Describes (.value (.object members))

/-- An item that describes a condition is taken as one. -/
theorem Item.Describes.exists_toCondition {i : Item} (h : i.Describes) :
    ∃ c, i.toCondition = .ok c := by
  cases h with
  | condition => exact ⟨_, rfl⟩
  | mapping members => exact ⟨_, rfl⟩

/-- Items that describe conditions have pieces exactly if the parts of these can be shown. -/
theorem Item.exists_piecesAll_iff {items : List Item} (h : ∀ i ∈ items, i.Describes) :
    (∃ runs, piecesAll items = .ok runs) ↔
      ∀ v ∈ (items.filterMap fun i => i.toCondition.toOption).flatMap Condition.parts,
        v.showable = true := by
  induction items with
  | nil => exact iff_of_true ⟨[], rfl⟩ fun _ hv => absurd hv List.not_mem_nil
  | cons i rest ih =>
    rw [List.forall_mem_cons] at h
    obtain ⟨c, hc⟩ := h.1.exists_toCondition
    have hconditions : ((i :: rest).filterMap fun i => i.toCondition.toOption) =
        c :: rest.filterMap fun i => i.toCondition.toOption := by
      rw [List.filterMap_cons, hc]
      rfl
    rw [hconditions, List.flatMap_cons, List.forall_mem_append, ← ih h.2,
      ← Condition.exists_pieces_iff]
    constructor
    · rintro ⟨runs, hruns⟩
      obtain ⟨found, hfound, hruns⟩ := bind_eq_ok_iff.1 hruns
      obtain rfl : c = found := Except.ok.inj (hc.symm.trans hfound)
      obtain ⟨run, hrun, hruns⟩ := bind_eq_ok_iff.1 hruns
      obtain ⟨others, hothers, -⟩ := bind_eq_ok_iff.1 hruns
      exact ⟨⟨run, hrun⟩, others, hothers⟩
    · rintro ⟨⟨run, hrun⟩, runs, hruns⟩
      refine ⟨run :: runs, bind_eq_ok_iff.2 ⟨c, hc, bind_eq_ok_iff.2 ⟨run, hrun, ?_⟩⟩⟩
      exact bind_eq_ok_iff.2 ⟨runs, hruns, rfl⟩

/-- Whether a subject is a list of conditions and no text. -/
def Subject.DescribesAll (s : Subject) : Prop :=
  (∀ name, s ≠ .value (.text name)) ∧
    ∃ items, s.elements = .ok items ∧ ∀ i ∈ items, i.Describes

/-! ## Parts -/

namespace Part

variable {name operator : String}

/-- A comparison is made exactly if its value can be shown. -/
theorem exists_condition_iff {value logical : Value} :
    (∃ part, condition (.value (.text name)) (.text operator) value logical = .ok part) ↔
      value.showable = true := by
  constructor
  · rintro ⟨part, hpart⟩
    obtain ⟨field, -, hpart⟩ := bind_eq_ok_iff.1 hpart
    obtain ⟨operator, -, hpart⟩ := bind_eq_ok_iff.1 hpart
    obtain ⟨literal, hliteral, -⟩ := bind_eq_ok_iff.1 hpart
    exact Value.exists_piece_iff.1 ⟨literal, hliteral⟩
  · intro h
    obtain ⟨part, hpart, -⟩ := exists_condition h logical
    exact ⟨part, hpart⟩

/-- A list of comparisons is made exactly if the parts of the conditions can be shown. -/
theorem exists_group_iff {conditions : Subject} (h : conditions.DescribesAll) {word : String}
    {join : Value} :
    (∃ part, group conditions (.text word) join = .ok part) ↔
      ∀ v ∈ conditions.conditions.flatMap Condition.parts, v.showable = true := by
  obtain ⟨-, items, hitems, hdescribes⟩ := h
  have hconditions : conditions.conditions = items.filterMap fun i => i.toCondition.toOption := by
    unfold Subject.conditions
    rw [hitems]
  rw [hconditions, ← Item.exists_piecesAll_iff hdescribes]
  constructor
  · rintro ⟨part, hpart⟩
    obtain ⟨found, hfound, hpart⟩ := bind_eq_ok_iff.1 hpart
    obtain rfl : items = found := Except.ok.inj (hitems.symm.trans hfound)
    obtain ⟨runs, hruns, -⟩ := bind_eq_ok_iff.1 hpart
    exact ⟨runs, hruns⟩
  · rintro ⟨runs, hruns⟩
    unfold group
    rw [hitems]
    exact ⟨_, bind_eq_ok_iff.2 ⟨items, rfl, bind_eq_ok_iff.2 ⟨runs, hruns, rfl⟩⟩⟩

/-- A comparison of a field, with or without an operator, is made exactly if its value can be
shown. -/
theorem exists_compare_text_iff {given value logical : Value}
    (hgiven : given = .null ∨ ∃ s, given = .text s) :
    (∃ part, compare (.value (.text name)) given value logical = .ok part) ↔
      value.showable = true := by
  obtain ⟨s, hs⟩ := Value.exists_orElse_text hgiven
  show (∃ part, condition _ (given.orElse (.text "")) value logical = .ok part) ↔ _
  rw [hs]
  exact exists_condition_iff

/-- A list of comparisons given with or without an operator is made exactly if the parts of the
conditions can be shown. -/
theorem exists_compare_group_iff {conditions : Subject} (h : conditions.DescribesAll)
    {given value : Value} {word : String} (hgiven : given = .null ∨ ∃ s, given = .text s) :
    (∃ part, compare conditions given value (.text word) = .ok part) ↔
      ∀ v ∈ conditions.conditions.flatMap Condition.parts, v.showable = true := by
  rw [compare_eq_group h.1]
  rcases hgiven with rfl | ⟨s, rfl⟩
  · exact exists_group_iff h
  · dsimp only
    split
    · exact exists_group_iff h
    · exact exists_group_iff h

/-- A test for membership is made exactly if the values of its list can be shown. -/
theorem exists_oneOf_iff {values logical : Value} {items : List Value}
    (hvalues : values.elements = .ok items) :
    (∃ part, oneOf (.value (.text name)) values logical = .ok part) ↔
      ∀ v ∈ items, v.showable = true := by
  constructor
  · rintro ⟨part, hpart⟩
    obtain ⟨found, hfound, hpart⟩ := bind_eq_ok_iff.1 hpart
    obtain rfl : items = found := Except.ok.inj (hvalues.symm.trans hfound)
    obtain ⟨literals, hliterals, -⟩ := bind_eq_ok_iff.1 hpart
    exact Value.exists_pieces_iff.1 ⟨literals, hliterals⟩
  · intro h
    obtain ⟨part, hpart, -⟩ := exists_oneOf hvalues h logical
    exact ⟨part, hpart⟩

/-- A text function is made exactly if its value can be shown. -/
theorem exists_textFunction_iff {function : String} {value logical : Value} :
    (∃ part, textFunction function (.value (.text name)) value logical = .ok part) ↔
      value.showable = true := by
  constructor
  · rintro ⟨part, hpart⟩
    obtain ⟨field, -, hpart⟩ := bind_eq_ok_iff.1 hpart
    obtain ⟨literal, hliteral, -⟩ := bind_eq_ok_iff.1 hpart
    exact Value.exists_piece_iff.1 ⟨literal, hliteral⟩
  · intro h
    obtain ⟨part, hpart, -⟩ := exists_textFunction h function logical
    exact ⟨part, hpart⟩

/-- The text function whose value comes first is made exactly if the value can be shown. -/
theorem exists_substringOf_iff {value logical : Value} :
    (∃ part, substringOf value (.value (.text name)) logical = .ok part) ↔
      value.showable = true := by
  constructor
  · rintro ⟨part, hpart⟩
    obtain ⟨literal, hliteral, -⟩ := bind_eq_ok_iff.1 hpart
    exact Value.exists_piece_iff.1 ⟨literal, hliteral⟩
  · intro h
    obtain ⟨part, hpart, -⟩ := exists_substringOf h logical
    exact ⟨part, hpart⟩

/-- A comparison of a length with an integer is made exactly if that can be shown. -/
theorem exists_length_iff {n : Int} {logical : Value} :
    (∃ part, length (.value (.text name)) (.int n) (.text operator) logical = .ok part) ↔
      (Value.int n).showable = true := by
  constructor
  · rintro ⟨part, hpart⟩
    obtain ⟨field, -, hpart⟩ := bind_eq_ok_iff.1 hpart
    obtain ⟨comparison, -, hpart⟩ := bind_eq_ok_iff.1 hpart
    obtain ⟨count, hcount, hpart⟩ := bind_eq_ok_iff.1 hpart
    obtain rfl : n = count := Except.ok.inj hcount
    obtain ⟨digits, hdigits, -⟩ := bind_eq_ok_iff.1 hpart
    exact Value.exists_showPlain_iff.1 ⟨digits, hdigits⟩
  · intro h
    have hcount : (Value.int n).toInt = .ok n := rfl
    obtain ⟨part, hpart, -⟩ := exists_length hcount h logical
    exact ⟨part, hpart⟩

/-- A comparison of a distance is made exactly if the parts of its point can be shown. -/
theorem exists_distance_iff {point : Members} {logical : Value} :
    (∃ part, distance (.value (.text name)) (.text operator) point logical = .ok part) ↔
      ∀ k ∈ ["long", "lat", "radius"], ((point.lookup k).getD .null).showable = true := by
  simp only [← Value.exists_piece_iff, List.forall_mem_cons]
  constructor
  · rintro ⟨part, hpart⟩
    obtain ⟨latitude, hlatitude, hpart⟩ := bind_eq_ok_iff.1 hpart
    obtain ⟨longitude, hlongitude, hpart⟩ := bind_eq_ok_iff.1 hpart
    obtain ⟨radius, hradius, -⟩ := bind_eq_ok_iff.1 hpart
    exact ⟨⟨longitude, hlongitude⟩, ⟨latitude, hlatitude⟩, ⟨radius, hradius⟩,
      fun _ hk => absurd hk List.not_mem_nil⟩
  · rintro ⟨⟨longitude, hlongitude⟩, ⟨latitude, hlatitude⟩, ⟨radius, hradius⟩, -⟩
    unfold distance
    simp only [hlongitude, hlatitude, hradius]
    exact ⟨_, rfl⟩

end Part

/-! ## Calls -/

namespace Filter

/-- A call whose arguments are of the kinds that it is declared with: names, operators and words are
texts, conditions are listed, a length is an integer and a point is an object. Values can be any. -/
inductive Call.Typed : Call → Prop where
  /-- A comparison of a field, in which the operator may be missing. -/
  | compare {name word : String} {operator value : Value}
      (hoperator : operator = .null ∨ ∃ s, operator = .text s) :
      Typed (.compare (.value (.text name)) operator value (.text word))
  /-- A list of comparisons, with or without an operator. -/
  | compareAll {field : Subject} {word : String} {operator value : Value}
      (hfield : field.DescribesAll) (hoperator : operator = .null ∨ ∃ s, operator = .text s) :
      Typed (.compare field operator value (.text word))
  /-- A comparison of a field. -/
  | condition {name operator word : String} {value : Value} :
      Typed (.condition (.value (.text name)) (.text operator) value (.text word))
  /-- A parenthesized list of comparisons. -/
  | group {conditions : Subject} {word join : String} (hconditions : conditions.DescribesAll) :
      Typed (.group conditions (.text word) (.text join))
  /-- A test for membership in what can be walked through. -/
  | oneOf {name word : String} {values : Value} {items : List Value}
      (hvalues : values.elements = .ok items) :
      Typed (.oneOf (.value (.text name)) values (.text word))
  /-- A text function. -/
  | textFunction {function : TextFunction} {name word : String} {value : Value} :
      Typed (.textFunction function (.value (.text name)) value (.text word))
  /-- The text function whose value comes first. -/
  | substringOf {name word : String} {part : Value} :
      Typed (.substringOf part (.value (.text name)) (.text word))
  /-- A comparison of a length with an integer. -/
  | length {name comparison word : String} {n : Int} :
      Typed (.length (.value (.text name)) (.int n) (.text comparison) (.text word))
  /-- A comparison of a distance from a point. -/
  | distance {name operator word : String} {point : Members} :
      Typed (.distance (.value (.text name)) (.text operator) (.object point) (.text word))
  /-- The opening of a group. -/
  | openGroup {relation : String} : Typed (.openGroup (.text relation))
  /-- The closing of a group. -/
  | closeGroup : Typed .closeGroup

/-- The values that a call has to show. Of a condition these are all three parts, since an object
may have anything in the place of a field. -/
def Call.shown : Call → List Value
  | .compare (.value (.text _)) _ value _ => [value]
  | .compare field _ _ _ => field.conditions.flatMap Condition.parts
  | .condition _ _ value _ => [value]
  | .group conditions _ _ => conditions.conditions.flatMap Condition.parts
  | .oneOf _ values _ => values.elements.toOption.getD []
  | .textFunction _ _ value _ => [value]
  | .substringOf part _ _ => [part]
  | .length _ count _ _ => [count]
  | .distance field operator point logical =>
    if (Call.distance field operator point logical).isIdle then []
    else ["long", "lat", "radius"].map fun k => (point.get? k).getD .null
  | .openGroup _ => []
  | .closeGroup => []

/-- What a list of comparisons has to show. -/
theorem Call.shown_compare {field : Subject} (h : ∀ name, field ≠ .value (.text name))
    (operator value logical : Value) :
    (Call.compare field operator value logical).shown =
      field.conditions.flatMap Condition.parts := by
  unfold Call.shown
  split <;> simp_all

/-- A part is appended exactly if it is made. -/
theorem exists_map_append_iff {made : Except Fault Part} :
    (∃ effect, made.map Effect.append = .ok effect) ↔ ∃ part, made = .ok part := by
  cases made with
  | error cause => exact iff_of_false (fun ⟨_, h⟩ => nomatch h) (fun ⟨_, h⟩ => nomatch h)
  | ok part => exact iff_of_true ⟨_, rfl⟩ ⟨_, rfl⟩

/-- A call that appends a part with one value has an effect exactly if the value can be shown. -/
theorem exists_effect_of_one {call : Call} {made : Except Fault Part} {v : Value}
    (heffect : call.effect = made.map .append) (hshown : call.shown = [v])
    (hmade : (∃ part, made = .ok part) ↔ v.showable = true) :
    (∃ effect, call.effect = .ok effect) ↔ ∀ w ∈ call.shown, w.showable = true := by
  rw [heffect, hshown, exists_map_append_iff, hmade, List.forall_mem_singleton]

/-- A distance that is not idle appends its part. -/
theorem effect_distance_of_busy {field : Subject} {operator logical : Value} {point : Members}
    (h : ¬ (Call.distance field operator (.object point) logical).isIdle = true) :
    (Call.distance field operator (.object point) logical).effect =
      (Part.distance field operator point logical).map .append := by
  unfold Call.isIdle at h
  cases hnamed : Part.namesPart (.object point) with
  | error cause => cases hnamed
  | ok named =>
    have htrue : named = true := by simpa [hnamed] using h
    simp only [Call.effect, hnamed, htrue]
    rfl

/-- A distance has an effect exactly if it is idle or the parts of its point can be shown. -/
theorem exists_effect_distance_iff {name operator word : String} {point : Members} :
    (∃ effect, (Call.distance (.value (.text name)) (.text operator) (.object point)
        (.text word)).effect = .ok effect) ↔
      ∀ v ∈ (Call.distance (.value (.text name)) (.text operator) (.object point)
        (.text word)).shown, v.showable = true := by
  by_cases hidle : (Call.distance (.value (.text name)) (.text operator) (.object point)
      (.text word)).isIdle = true
  · have hshown : (Call.distance (.value (.text name)) (.text operator) (.object point)
        (.text word)).shown = [] := if_pos hidle
    rw [hshown]
    exact iff_of_true ⟨.nothing, effect_of_isIdle hidle⟩ fun _ hv => absurd hv List.not_mem_nil
  · have hshown : (Call.distance (.value (.text name)) (.text operator) (.object point)
        (.text word)).shown = ["long", "lat", "radius"].map fun k =>
          (point.lookup k).getD .null := if_neg hidle
    rw [hshown, effect_distance_of_busy hidle, exists_map_append_iff, Part.exists_distance_iff,
      List.forall_mem_map]

/-- **When a call has an effect**: exactly if the values that it has to show can be shown. -/
theorem exists_effect_iff {call : Call} (h : call.Typed) :
    (∃ effect, call.effect = .ok effect) ↔ ∀ v ∈ call.shown, v.showable = true := by
  cases h with
  | compare hoperator => exact exists_effect_of_one rfl rfl (Part.exists_compare_text_iff hoperator)
  | compareAll hfield hoperator =>
    rw [Call.shown_compare hfield.1]
    exact exists_map_append_iff.trans (Part.exists_compare_group_iff hfield hoperator)
  | condition => exact exists_effect_of_one rfl rfl Part.exists_condition_iff
  | group hconditions => exact exists_map_append_iff.trans (Part.exists_group_iff hconditions)
  | @oneOf name word values items hvalues =>
    have hshown : (Call.oneOf (.value (.text name)) values (.text word)).shown = items := by
      show values.elements.toOption.getD [] = items
      rw [hvalues]
      rfl
    rw [hshown]
    exact exists_map_append_iff.trans (Part.exists_oneOf_iff hvalues)
  | textFunction => exact exists_effect_of_one rfl rfl Part.exists_textFunction_iff
  | substringOf => exact exists_effect_of_one rfl rfl Part.exists_substringOf_iff
  | length => exact exists_effect_of_one rfl rfl Part.exists_length_iff
  | distance => exact exists_effect_distance_iff
  | openGroup => exact iff_of_true ⟨_, rfl⟩ fun _ hv => absurd hv List.not_mem_nil
  | closeGroup => exact iff_of_true ⟨_, rfl⟩ fun _ hv => absurd hv List.not_mem_nil

/-! ## Filters -/

/-- Whether an effect joins and relates by texts. -/
def Effect.Worded : Effect → Prop
  | .append part => ∃ word, part.logical = .text word
  | .nothing => True
  | .openGroup relation => ∃ word, relation = .text word
  | .closeGroup => True

/-- A part that was made is joined by its word. -/
theorem worded_of_made {made : Except Fault Part} {effect : Effect} {word : String}
    (h : made.map Effect.append = .ok effect)
    (hlogical : ∀ part, made = .ok part → part.logical = .text word) : effect.Worded := by
  obtain ⟨part, hpart, rfl⟩ := map_eq_ok_iff.1 h
  exact ⟨word, hlogical part hpart⟩

/-- The effect of a typed call joins and relates by texts. -/
theorem worded_of_typed {call : Call} {effect : Effect} (h : call.Typed)
    (heffect : call.effect = .ok effect) : effect.Worded := by
  cases h with
  | compare => exact worded_of_made heffect fun _ hpart => (writes_compare_text hpart).2
  | compareAll hfield =>
    obtain ⟨part, hpart, rfl⟩ := map_eq_ok_iff.1 heffect
    rcases (writes_compare_group hfield.1 hpart).2 with hlogical | hlogical
    · exact ⟨_, hlogical⟩
    · exact ⟨_, hlogical⟩
  | condition => exact worded_of_made heffect fun _ hpart => (writes_condition hpart).2
  | group => exact worded_of_made heffect fun _ hpart => (writes_group hpart).2
  | oneOf => exact worded_of_made heffect fun _ hpart => (writes_oneOf hpart).2
  | textFunction => exact worded_of_made heffect fun _ hpart => (writes_textFunction hpart).2
  | substringOf => exact worded_of_made heffect fun _ hpart => (writes_substringOf hpart).2
  | length => exact worded_of_made heffect fun _ hpart => (writes_length hpart).2
  | @distance name operator word point =>
    by_cases hidle : (Call.distance (.value (.text name)) (.text operator) (.object point)
        (.text word)).isIdle = true
    · obtain rfl := Except.ok.inj ((effect_of_isIdle hidle).symm.trans heffect)
      trivial
    · rw [effect_distance_of_busy hidle] at heffect
      exact worded_of_made heffect fun _ hpart => (writes_distance hpart).2
  | @openGroup relation =>
    obtain rfl := Except.ok.inj heffect
    exact ⟨relation, rfl⟩
  | closeGroup =>
    obtain rfl := Except.ok.inj heffect
    trivial

/-- An effect that joins and relates by texts is had on every filter whose relation is one. -/
theorem exists_apply_of_worded {f : Filter} (hf : f.Tracked) {effect : Effect}
    (h : effect.Worded) : ∃ g, f.apply effect = .ok g ∧ g.Tracked := by
  cases effect with
  | append part =>
    obtain ⟨word, hword⟩ := h
    obtain ⟨ps, hps⟩ := exists_added_append hf hword
    refine ⟨⟨f.expression ++ Piece.join ps, f.relation, false⟩, ?_, hf⟩
    rw [apply_eq, hps]
    rfl
  | nothing => exact ⟨f, rfl, hf⟩
  | openGroup relation => exact ⟨f.openGroup relation, rfl, Or.inr h⟩
  | closeGroup => exact ⟨f.closeGroup, rfl, hf⟩

/-- **When a call is made**: exactly if the values that it has to show can be shown. -/
theorem exists_run_iff {f : Filter} (hf : f.Tracked) {call : Call} (h : call.Typed) :
    (∃ g, f.run call = .ok g ∧ g.Tracked) ↔ ∀ v ∈ call.shown, v.showable = true := by
  rw [← exists_effect_iff h]
  constructor
  · rintro ⟨g, hrun, -⟩
    obtain ⟨effect, heffect, -⟩ := bind_eq_ok_iff.1 hrun
    exact ⟨effect, heffect⟩
  · rintro ⟨effect, heffect⟩
    rw [run_of_effect heffect]
    exact exists_apply_of_worded hf (worded_of_typed h heffect)

end Filter

end OData
