import OData.Proofs.Filter.Forest
import OData.Proofs.Filter.Refusal

/-!
# Groups in one call and in many

A parenthesized list of comparisons can be appended by one call, or member by member inside a group
that is opened and closed around them.

* **Both ways agree** (`group_agrees_with_members`): on every filter they write the same text after
  the word that joins it, or both are refused for the same reason; they differ in that word and in
  the relation that they leave behind.
* **The text** (`groupText`): a list of conditions joined by the relation. The one call has it by
  `text_group`; the calls of the members are those of siblings in a forest, and have it by
  `siblings_members`.
-/

namespace OData

/-! ## Comparisons -/

/-- A comparison in a list of them: a condition, or an object that describes one. -/
inductive Comparison where
  /-- A condition. -/
  | given (c : Condition)
  /-- An object, in which every part may be missing. -/
  | described (members : Members)

namespace Comparison

/-- The comparison as an item of a list. -/
def item : Comparison → Item
  | .given c => .condition c
  | .described members => .value (.object members)

/-- The condition that is meant: a field or comparison that is missing is empty, a missing value
absent. -/
def condition : Comparison → Condition
  | .given c => c
  | .described members =>
    ⟨(members.lookup "field").getD (.text ""), (members.lookup "operator").getD (.text ""),
      (members.lookup "value").getD .null⟩

theorem toCondition_item (c : Comparison) : c.item.toCondition = .ok c.condition := by
  cases c <;> rfl

end Comparison

/-- Steps over a list give a result exactly if each of them does. -/
theorem exists_mapM_iff {ε α β : Type} {step : α → Except ε β} {xs : List α} :
    (∃ ys, xs.mapM step = .ok ys) ↔ ∀ x ∈ xs, ∃ y, step x = .ok y := by
  induction xs with
  | nil => simp [pure, Except.pure]
  | cons x rest ih =>
    rw [List.forall_mem_cons, ← ih, List.mapM_cons]
    simp only [bind_eq_ok_iff]
    constructor
    · rintro ⟨_, y, hy, ys, hys, -⟩
      exact ⟨⟨y, hy⟩, ys, hys⟩
    · rintro ⟨⟨y, hy⟩, ys, hys⟩
      exact ⟨y :: ys, y, hy, ys, hys, rfl⟩

/-- The text of a condition is that of its pieces. -/
theorem Condition.render_eq (c : Condition) : c.render = c.pieces.map Piece.join := by
  unfold render
  cases c.pieces <;> rfl

/-- The texts of the conditions that items are or describe are those of their pieces. -/
theorem Comparison.render_all (cs : List Comparison) :
    (cs.map condition).mapM Condition.render =
      (Item.piecesAll (cs.map item)).map (List.map Piece.join) := by
  induction cs with
  | nil => rfl
  | cons c rest ih =>
    rw [List.map_cons, List.map_cons, List.mapM_cons, ih, Condition.render_eq, Item.piecesAll,
      toCondition_item]
    cases hpieces : c.condition.pieces with
    | error cause => simp [hpieces, Except.map, bind, Except.bind]
    | ok run =>
      cases hruns : Item.piecesAll (rest.map item) with
      | error cause => simp [hpieces, Except.map, bind, Except.bind]
      | ok runs => simp [hpieces, Except.map, bind, Except.bind, pure, Except.pure]

/-- Pieces between others are texts between others. -/
theorem Piece.join_between (separator : String) (runs : List (List Piece)) :
    join (between separator runs) = String.intercalate separator (runs.map join) := by
  induction runs with
  | nil => simp [between]
  | cons run rest ih =>
    cases rest with
    | nil => simp [between]
    | cons next rest =>
      unfold between at ih ⊢
      rw [List.intercalate_cons_cons, join_append, join_append, ih, List.map_cons, List.map_cons,
        List.map_cons, String.intercalate_cons_cons]
      simp

namespace Filter

/-! ## The text of a group -/

/-- The text of conditions in parentheses, joined by a relation. -/
def groupText (relation : String) (conditions : List Condition) : Except Fault String :=
  (conditions.mapM Condition.render).map fun texts =>
    "(" ++ String.intercalate (" " ++ relation ++ " ") texts ++ ")"

/-- The part of a list of comparisons has the text of their group. -/
theorem text_group (cs : List Comparison) (relation : String) (join : Value) :
    (Part.group (.items (cs.map Comparison.item)) (.text relation) join).map Part.text =
        groupText relation (cs.map Comparison.condition) ∧
      ∀ part, Part.group (.items (cs.map Comparison.item)) (.text relation) join = .ok part →
        part.logical = join := by
  refine ⟨?_, fun part hpart => (writes_group hpart).2⟩
  rw [groupText, Comparison.render_all]
  unfold Part.group
  simp only [Subject.elements, Value.showPlain_text]
  cases hruns : Item.piecesAll (cs.map Comparison.item) with
  | error cause => simp [hruns, Except.map, bind, Except.bind]
  | ok runs =>
    simp [hruns, Except.map, bind, Except.bind, Part.text, Piece.join_between,
      String.append_assoc]

/-- What is written before a part: nothing at the start, and elsewhere the joining word between
spaces. -/
def lead (f : Filter) (logical : Value) : Except Fault String :=
  if f.atStart then .ok ""
  else (f.joinWord logical).showPlain.map fun word => " " ++ word ++ " "

/-- The lead has the tracked relation if there is one, and the given word otherwise. -/
theorem lead_of_tracked {f : Filter} {last : Option String} (h : f.relation = Node.tracked last)
    (join : String) :
    f.lead (.text join) = .ok (if f.atStart then "" else " " ++ last.getD join ++ " ") := by
  unfold lead
  rw [Node.joinWord_of_tracked h]
  cases f.atStart with
  | true => rfl
  | false => cases last <;> rfl

/-- A part is written after its lead. -/
theorem append_eq_lead (f : Filter) (part : Part) :
    f.append part = (f.lead part.logical).map fun lead =>
      ⟨f.expression ++ lead ++ part.text, f.relation, false⟩ := by
  unfold lead
  cases hf : f.atStart with
  | true => simp [append_of_atStart hf, Except.map]
  | false =>
    rw [append_of_not_atStart hf, if_neg Bool.false_ne_true]
    cases (f.joinWord part.logical).showPlain with
    | error cause => rfl
    | ok word => simp [Except.map, String.append_assoc]

/-- The one call writes the text of the group after the lead. -/
theorem run_group (f : Filter) (cs : List Comparison) (relation : String) (join : Value) :
    f.run (.group (.items (cs.map Comparison.item)) (.text relation) join) = (do
      let text ← groupText relation (cs.map Comparison.condition)
      let lead ← f.lead join
      .ok ⟨f.expression ++ lead ++ text, f.relation, false⟩) := by
  obtain ⟨htext, hlogical⟩ := text_group cs relation join
  rw [← htext]
  cases hpart : Part.group (.items (cs.map Comparison.item)) (.text relation) join with
  | error cause => exact run_of_refused (by simp only [Call.effect, hpart]; rfl) f
  | ok part =>
    rw [run_of_effect (by simp only [Call.effect, hpart]; rfl) f]
    show f.append part = _
    rw [append_eq_lead, hlogical part hpart]
    cases f.lead join <;> rfl

/-! ## The calls of the members -/

/-- A comparison appended by itself, with any word to join it. -/
def single (m : Comparison × Value) : Call :=
  .condition (.value m.1.condition.field) m.1.condition.operator m.1.condition.value m.2

/-- The calls that open a group, append its members one by one and close it. -/
def spelledOut (relation : String) (members : List (Comparison × Value)) : List Call :=
  .openGroup (.text relation) :: (members.map single ++ [.closeGroup])

/-- A comparison as a member of a forest. -/
def Node.single (m : Comparison × Value) : Node :=
  .condition (Filter.single m) (Part.condition (.value m.1.condition.field) m.1.condition.operator
    m.1.condition.value m.2) rfl

namespace Node

/-- The calls of comparisons are theirs as members of a forest. -/
theorem callsOf_members (members : List (Comparison × Value)) :
    callsOf (members.map Node.single) = members.map Filter.single := by
  induction members with
  | nil => rfl
  | cons m rest ih =>
    rw [List.map_cons, List.map_cons, callsOf, ih]
    rfl

/-- Comparisons open no group. -/
theorem lastRelationOf_members (last : Option String) (members : List (Comparison × Value)) :
    lastRelationOf last (members.map Node.single) = last := by
  induction members with
  | nil => rfl
  | cons m rest ih => exact ih

/-- The text of a member is that of its condition. -/
theorem text_single (m : Comparison × Value) : (Node.single m).text = m.1.condition.render := by
  show (Part.condition (.value m.1.condition.field) _ _ m.2).map Part.text = _
  simp only [Part.condition, Condition.render, Condition.pieces, Subject.showPlain]
  cases m.1.condition.field.showPlain with
  | error cause => rfl
  | ok field =>
    cases m.1.condition.operator.showPlain with
    | error cause => rfl
    | ok operator => cases m.1.condition.value.piece <;> rfl

/-- A condition with a text follows another after the relation of the group. -/
theorem joint_of_text {call : Call} {outcome : Except Fault Part}
    {appends : call.effect = outcome.map .append} {text : String}
    (h : (condition call outcome appends).text = .ok text) (relation : String) :
    (condition call outcome appends).joint (some relation) = .ok (" " ++ relation ++ " ") := by
  obtain ⟨part, rfl, -⟩ := map_eq_ok_iff.1 h
  rfl

/-- Members that follow another are those from the first on after the relation. -/
theorem later_members (relation : String) (m : Comparison × Value)
    (rest : List (Comparison × Value)) :
    later (some relation) ((m :: rest).map Node.single) =
      (siblings (some relation) ((m :: rest).map Node.single)).map fun text =>
        " " ++ relation ++ " " ++ text := by
  rw [List.map_cons, later, siblings]
  cases htext : (Node.single m).text with
  | error cause => rfl
  | ok text =>
    have hjoint : (Node.single m).joint (some relation) = .ok (" " ++ relation ++ " ") :=
      joint_of_text htext relation
    rw [hjoint]
    simp only [bind, Except.bind]
    cases later ((Node.single m).lastRelation (some relation)) (rest.map Node.single) with
    | error cause => rfl
    | ok others => simp [Except.map, String.append_assoc]

/-- Members from the first on are their texts with the relation between them. -/
theorem siblings_members (relation : String) (members : List (Comparison × Value)) :
    siblings (some relation) (members.map Node.single) =
      ((members.map (·.1.condition)).mapM Condition.render).map
        (String.intercalate (" " ++ relation ++ " ")) := by
  induction members with
  | nil => rfl
  | cons m rest ih =>
    rw [List.map_cons, List.map_cons, List.mapM_cons, siblings, text_single]
    have hlast : (Node.single m).lastRelation (some relation) = some relation := rfl
    rw [hlast]
    cases m.1.condition.render with
    | error cause => rfl
    | ok text =>
      cases rest with
      | nil => simp [later, Except.map, bind, Except.bind, pure, Except.pure]
      | cons next rest =>
        rw [later_members, ih, List.map_cons, List.mapM_cons]
        cases next.1.condition.render with
        | error cause => rfl
        | ok other =>
          cases (rest.map (·.1.condition)).mapM Condition.render with
          | error cause => rfl
          | ok others =>
            simp [Except.map, bind, Except.bind, pure, Except.pure, String.intercalate_cons_cons,
              String.append_assoc]

end Node

/-- The calls of the members write the text of the group, after the word that attaches groups. -/
theorem replay_spelledOut (f : Filter) (relation : String) (members : List (Comparison × Value)) :
    f.replay (spelledOut relation members) =
      (groupText relation (members.map (·.1.condition))).map fun text =>
        ⟨f.expression ++ (if f.atStart then "" else " AND ") ++ text, .text relation, false⟩ := by
  -- inside the group the filter is at the start and tracks the relation, whatever it was before
  have hmembers := Node.replay_siblings (members.map Node.single) (f.openGroup (.text relation))
    (some relation) rfl (atStart_openGroup f _)
  rw [Node.callsOf_members, Node.siblings_members, Node.lastRelationOf_members] at hmembers
  have hopening : (f.openGroup (.text relation)).expression =
      f.expression ++ (if f.atStart then "" else " AND ") ++ "(" := by
    cases hf : f.atStart with
    | true => simp [expression_openGroup_of_atStart hf]
    | false => simp [expression_openGroup_of_not_atStart hf]
  rw [spelledOut, replay_cons, run_openGroup]
  show (f.openGroup (.text relation)).replay (members.map single ++ [.closeGroup]) = _
  rw [replay_append, hmembers, groupText, hopening]
  cases (members.map (·.1.condition)).mapM Condition.render with
  | error cause => rfl
  | ok texts =>
    show (Filter.mk _ _ _).replay [Call.closeGroup] = _
    rw [replay_singleton, run_closeGroup]
    simp [Except.map, Node.tracked, String.append_assoc]

/-- Conditions have a text in a group exactly if all their parts can be shown. -/
theorem exists_groupText_iff {relation : String} {conditions : List Condition} :
    (∃ text, groupText relation conditions = .ok text) ↔
      ∀ c ∈ conditions, ∀ v ∈ c.parts, v.showable = true := by
  have hrender (c : Condition) :
      (∃ text, c.render = .ok text) ↔ ∀ v ∈ c.parts, v.showable = true := by
    rw [← Condition.exists_pieces_iff, Condition.render_eq]
    simp only [map_eq_ok_iff]
    exact ⟨fun ⟨_, ps, hps, _⟩ => ⟨ps, hps⟩, fun ⟨ps, hps⟩ => ⟨_, ps, hps, rfl⟩⟩
  simp only [← hrender, ← exists_mapM_iff]
  unfold groupText
  constructor
  · rintro ⟨text, htext⟩
    obtain ⟨texts, h, -⟩ := map_eq_ok_iff.1 htext
    exact ⟨texts, h⟩
  · rintro ⟨texts, h⟩
    exact ⟨_, map_eq_ok_iff.2 ⟨texts, h, rfl⟩⟩

/-- **One call for a list agrees with a group that is spelled out.** On every filter, the text of
the group is written after the lead by the one call, and after the word that attaches groups by the
calls of its members; where there is no text, both are refused for the same reason. Both leads are
missing at the start and nowhere else, and that of the one call has the tracked relation, or before
any group the given word. The one call keeps the tracked relation and the many calls set it. -/
theorem group_agrees_with_members (f : Filter) (members : List (Comparison × Value))
    (relation join : String) :
    let text := groupText relation (members.map (·.1.condition))
    f.run (.group (.items (members.map (·.1.item))) (.text relation) (.text join)) = (do
        let text ← text
        let lead ← f.lead (.text join)
        .ok ⟨f.expression ++ lead ++ text, f.relation, false⟩) ∧
      f.replay (spelledOut relation members) = (text.map fun text =>
        ⟨f.expression ++ (if f.atStart then "" else " AND ") ++ text, .text relation, false⟩) ∧
      (∀ last, f.relation = Node.tracked last →
        f.lead (.text join) = .ok (if f.atStart then "" else " " ++ last.getD join ++ " ")) ∧
      ((∃ s, text = .ok s) ↔ ∀ m ∈ members, ∀ v ∈ m.1.condition.parts, v.showable = true) := by
  refine ⟨?_, replay_spelledOut f relation members, fun _ hlast => lead_of_tracked hlast join, ?_⟩
  · have hrun := run_group f (members.map (·.1)) relation (.text join)
    rwa [List.map_map, List.map_map] at hrun
  · rw [exists_groupText_iff, List.forall_mem_map]

/-- After a comparison and a group that names its relation, a condition and two objects, one of them
without a field and one without a value. -/
theorem group_agrees_after_nesting :
    let f : Filter := ⟨"A eq 1 AND (B eq 2)", .text "or", false⟩
    let members : List (Comparison × Value) :=
      [(.given ⟨.text "C", .text "eq", .text "x'y"⟩, .text "and"),
        (.described [("operator", .text "ne"), ("value", .int 3)], .null),
        (.described [("field", .text "D"), ("operator", .text "eq")], .int 0)]
    f.run (.group (.items (members.map (·.1.item))) (.text "xor") (.text "and")) =
        .ok ⟨"A eq 1 AND (B eq 2) or (C eq 'x\x5c'y' xor  ne 3 xor D eq null)",
          .text "or", false⟩ ∧
      f.replay (spelledOut "xor" members) =
        .ok ⟨"A eq 1 AND (B eq 2) AND (C eq 'x\x5c'y' xor  ne 3 xor D eq null)",
          .text "xor", false⟩ := by
  intro f members
  obtain ⟨hgroup, hmembers, hlead, -⟩ := group_agrees_with_members f members "xor" "and"
  rw [hgroup, hmembers, hlead (some "or") rfl]
  exact ⟨rfl, rfl⟩

end Filter

end OData
