import OData.Filter.Call
import OData.Proofs.Value.Word

/-!
# Masked texts

Masking takes the text out of every value that is written between quotes and leaves the rest of a
call as it is. Two calls with the same mask differ in such texts alone.

* **Pieces** (`Value.piece_masked`, `Value.literal_masked_eq_empty_iff`): the piece of a masked
  value is the masked piece of the value, and its literal is empty exactly if that of the value is.
* **Calls** (`effect_masked`): what a masked call does is what the call does, with the same texts
  masked; whether it is refused, how many literals it writes and what stands between them do not
  depend on a text.
-/

namespace OData

/-! ## Values and pieces -/

namespace Value

/-- The value without its text. A value that cannot be shown has none to be written. -/
def masked (v : Value) : Value :=
  if v.showable && v.string?.isSome then .text "" else v

/-- Masking leaves a value as it is, or leaves the empty text in place of a text. -/
theorem masked_cases (v : Value) :
    v.masked = v ∨ ∃ s, v.string? = some s ∧ v.masked = .text "" := by
  unfold masked
  split
  · rename_i h
    obtain ⟨s, hs⟩ := Option.isSome_iff_exists.1 (Bool.and_eq_true_iff.1 h).2
    exact Or.inr ⟨s, hs, rfl⟩
  · exact Or.inl rfl

/-- Masking does not decide whether a value can be shown. -/
@[simp] theorem showable_masked (v : Value) : v.masked.showable = v.showable := by
  unfold masked
  split
  · rename_i h
    rw [(Bool.and_eq_true_iff.1 h).1]
    rfl
  · rfl

/-- A value that can be shown has a piece, and no other has. -/
theorem piece_eq (v : Value) :
    v.piece = if v.showable then .ok (.literal v) else .error .badContent := by
  unfold piece showLiteral shownAs
  split <;> rfl

/-- A literal is empty masked only if it is empty. -/
theorem literal_masked_eq_empty_iff (v : Value) : v.masked.literal = "" ↔ v.literal = "" := by
  rcases v.masked_cases with heq | ⟨s, hs, heq⟩
  · rw [heq]
  · rw [heq, literal_of_string? hs]
    simp [literal, Text.literal]

end Value

namespace Piece

/-- The piece without its text. -/
def masked : Piece → Piece
  | .bare s => .bare s
  | .literal v => .literal v.masked

/-- Pieces are empty masked only if they are empty. -/
theorem join_map_masked_eq_empty_iff (pieces : List Piece) :
    join (pieces.map masked) = "" ↔ join pieces = "" := by
  induction pieces with
  | nil => rfl
  | cons p rest ih =>
    have hp : p.masked.text = "" ↔ p.text = "" := by
      cases p with
      | bare s => rfl
      | literal v => exact Value.literal_masked_eq_empty_iff v
    rw [List.map_cons, join_cons, join_cons, String.append_eq_empty_iff,
      String.append_eq_empty_iff, hp, ih]

/-- What stands between runs is not masked. -/
theorem map_masked_between (separator : String) (runs : List (List Piece)) :
    (between separator runs).map masked = between separator (runs.map (List.map masked)) := by
  unfold between
  induction runs with
  | nil => rfl
  | cons run rest ih =>
    cases rest with
    | nil => simp
    | cons next rest =>
      simp only [List.map_cons, List.intercalate_cons_cons, List.map_append] at ih ⊢
      rw [ih]
      rfl

end Piece

namespace Value

/-- The piece of a masked value is the masked piece. -/
theorem piece_masked (v : Value) : v.masked.piece = v.piece.map Piece.masked := by
  rw [piece_eq, piece_eq, showable_masked]
  split <;> rfl

/-- The pieces of masked values are the masked pieces. -/
theorem pieces_map_masked (vs : List Value) :
    pieces (vs.map masked) = (pieces vs).map (List.map Piece.masked) := by
  induction vs with
  | nil => rfl
  | cons v rest ih =>
    rw [List.map_cons, pieces, pieces, piece_masked, ih]
    cases v.piece with
    | error cause => rfl
    | ok p => cases pieces rest <;> rfl

end Value

/-! ## Conditions -/

/-- The condition with its value masked. -/
def Condition.masked (c : Condition) : Condition :=
  { c with value := c.value.masked }

/-- The pieces of a masked condition are masked. -/
theorem Condition.pieces_masked (c : Condition) :
    c.masked.pieces = c.pieces.map (List.map Piece.masked) := by
  unfold pieces masked
  rw [Value.piece_masked]
  cases c.field.showPlain with
  | error cause => rfl
  | ok field =>
    cases c.operator.showPlain with
    | error cause => rfl
    | ok operator => cases c.value.piece <;> rfl

namespace Item

/-- The item with the value of its condition masked. -/
def masked (i : Item) : Item :=
  match i.toCondition with
  | .ok c => .condition c.masked
  | .error _ => i

/-- A masked item stands for the masked condition. -/
theorem toCondition_masked (i : Item) :
    i.masked.toCondition = i.toCondition.map Condition.masked := by
  unfold masked
  cases h : i.toCondition with
  | error cause => exact h
  | ok c => rfl

/-- The runs of masked items are masked. -/
theorem piecesAll_map_masked (items : List Item) :
    piecesAll (items.map masked) =
      (piecesAll items).map (List.map (List.map Piece.masked)) := by
  induction items with
  | nil => rfl
  | cons i rest ih =>
    rw [List.map_cons, piecesAll, piecesAll, toCondition_masked, ih]
    cases i.toCondition with
    | error cause => rfl
    | ok c =>
      have hc := c.pieces_masked
      cases hpieces : c.pieces with
      | error cause =>
        rw [hpieces] at hc
        simp [Except.map, bind, Except.bind, hc, hpieces]
      | ok run =>
        rw [hpieces] at hc
        cases piecesAll rest <;> simp [Except.map, bind, Except.bind, hc, hpieces]

end Item

namespace Subject

/-- The subject as a list of items, with the values of their conditions masked. -/
def masked (s : Subject) : Subject :=
  match s.elements with
  | .ok listed => .items (listed.map Item.masked)
  | .error _ => s

/-- A masked subject lists the masked items. -/
theorem elements_masked (s : Subject) :
    s.masked.elements = s.elements.map (List.map Item.masked) := by
  unfold masked
  cases h : s.elements with
  | error cause => exact h
  | ok listed => rfl

/-- A masked subject is a text only if the subject is one, which lists its characters. -/
theorem masked_ne_text (s : Subject) (name : String) : s.masked ≠ .value (.text name) := by
  intro heq
  unfold masked at heq
  cases h : s.elements with
  | error cause =>
    rw [h] at heq
    subst heq
    cases h
  | ok listed =>
    rw [h] at heq
    cases heq

end Subject

/-! ## Parts -/

namespace Part

/-- The part with its literals masked. -/
def masked (p : Part) : Part where
  pieces := p.pieces.map Piece.masked
  logical := p.logical
  written h := p.written ((Piece.join_map_masked_eq_empty_iff p.pieces).1 h)

/-- A comparison with a masked value. -/
theorem condition_masked (field : Subject) (operator value logical : Value) :
    condition field operator value.masked logical =
      (condition field operator value logical).map masked := by
  unfold condition
  rw [Value.piece_masked]
  cases field.showPlain with
  | error cause => rfl
  | ok field =>
    cases operator.showPlain with
    | error cause => rfl
    | ok operator => cases value.piece <;> rfl

/-- Parts with the same pieces and the same word are the same. -/
theorem mk_eq {ps qs : List Piece} (h : ps = qs) (logical : Value) (hps : Piece.join ps ≠ "")
    (hqs : Piece.join qs ≠ "") : (⟨ps, logical, hps⟩ : Part) = ⟨qs, logical, hqs⟩ := by
  subst h
  rfl

/-- A list of masked comparisons. -/
theorem group_masked (conditions : Subject) (logical join : Value) :
    group conditions.masked logical join = (group conditions logical join).map masked := by
  unfold group
  rw [Subject.elements_masked]
  cases conditions.elements with
  | error cause => rfl
  | ok items =>
    have hruns := Item.piecesAll_map_masked items
    cases hall : Item.piecesAll items with
    | error cause =>
      rw [hall] at hruns
      simp [Except.map, bind, Except.bind, hruns, hall]
    | ok runs =>
      rw [hall] at hruns
      cases logical.showPlain with
      | error cause => simp [Except.map, bind, Except.bind, hruns, hall]
      | ok word =>
        simp only [Except.map, bind, Except.bind, hruns, hall]
        refine congrArg Except.ok (mk_eq ?_ join _ _)
        simp [Piece.map_masked_between, Piece.masked]

/-- What a list of comparisons becomes is decided by the operator, and its value does not matter. -/
theorem compare_eq_group {field : Subject} (hfield : ∀ name, field ≠ .value (.text name))
    (operator value logical : Value) :
    compare field operator value logical =
      match operator with
      | .null => group field logical (.text "and")
      | .text word =>
        if isJoinWord word then group field operator logical
        else group field logical (.text "and")
      | _ => .error .noSuchOperation := by
  unfold compare
  split
  · exact absurd rfl (hfield _)
  · rfl

/-- A list of comparisons whose values are masked. -/
theorem compare_masked {field : Subject} (hfield : ∀ name, field ≠ .value (.text name))
    (operator value logical : Value) :
    compare field.masked operator value.masked logical =
      (compare field operator value logical).map masked := by
  rw [compare_eq_group field.masked_ne_text, compare_eq_group hfield]
  cases operator with
  | null => exact group_masked field logical _
  | text word =>
    by_cases hword : isJoinWord word = true
    · simp only [if_pos hword, group_masked]
    · simp only [if_neg hword, group_masked]
  | _ => rfl

/-- A test for membership in a list of masked values. -/
theorem oneOf_masked (field : Subject) {values : Value} {items : List Value}
    (h : values.elements = .ok items) (logical : Value) :
    oneOf field (.list (items.map Value.masked)) logical =
      (oneOf field values logical).map masked := by
  have helements : (Value.list (items.map Value.masked)).elements = .ok (items.map Value.masked) :=
    rfl
  have hliterals := Value.pieces_map_masked items
  unfold oneOf
  rw [h, helements]
  cases hall : Value.pieces items with
  | error cause =>
    rw [hall] at hliterals
    simp [Except.map, bind, Except.bind, hliterals, hall]
  | ok literals =>
    rw [hall] at hliterals
    cases field.showPlain with
    | error cause => simp [Except.map, bind, Except.bind, hliterals, hall]
    | ok field =>
      simp only [Except.map, bind, Except.bind, hliterals, hall]
      refine congrArg Except.ok (mk_eq ?_ logical _ _)
      simp [Piece.map_masked_between, Piece.masked, Function.comp_def]

/-- A text function of a masked value. -/
theorem textFunction_masked (name : String) (field : Subject) (value logical : Value) :
    textFunction name field value.masked logical =
      (textFunction name field value logical).map masked := by
  unfold textFunction
  rw [Value.piece_masked]
  cases field.showPlain with
  | error cause => rfl
  | ok field => cases value.piece <;> rfl

/-- The text function whose value comes first, of a masked value. -/
theorem substringOf_masked (part : Value) (field : Subject) (logical : Value) :
    substringOf part.masked field logical = (substringOf part field logical).map masked := by
  unfold substringOf
  rw [Value.piece_masked]
  cases part.piece with
  | error cause => rfl
  | ok p => cases field.showPlain <;> rfl

/-- A comparison of a length has no text to be masked. -/
theorem length_masked (field : Subject) (count comparison logical : Value) :
    length field count comparison logical =
      (length field count comparison logical).map masked := by
  unfold length
  cases field.showPlain with
  | error cause => rfl
  | ok field =>
    cases comparison.showPlain with
    | error cause => rfl
    | ok comparison =>
      cases count.toInt with
      | error cause => rfl
      | ok n =>
        simp only [bind, Except.bind]
        cases showInteger n <;> rfl

/-- The point with the values of its members masked. -/
def maskedPoint (point : Members) : Members :=
  point.map fun m => (m.1, m.2.masked)

/-- A part of a masked point is masked. -/
theorem lookup_maskedPoint (k : String) (point : Members) :
    (maskedPoint point).lookup k = (point.lookup k).map Value.masked := by
  unfold maskedPoint
  induction point with
  | nil => rfl
  | cons m rest ih =>
    rw [List.map_cons, List.lookup_cons, List.lookup_cons, ih]
    cases k == m.1 <;> rfl

/-- A part that a masked point lacks is absent, and the absent value has no text. -/
theorem getD_lookup_maskedPoint (k : String) (point : Members) :
    ((maskedPoint point).lookup k).getD .null = ((point.lookup k).getD .null).masked := by
  rw [lookup_maskedPoint]
  cases point.lookup k <;> rfl

/-- A masked point names the same parts. -/
theorem namesPart_maskedPoint (point : Members) :
    namesPart (.object (maskedPoint point)) = namesPart (.object point) := by
  simp only [namesPart, lookup_maskedPoint, Option.isSome_map]

/-- A comparison of a distance from a masked point. -/
theorem distance_masked (field : Subject) (operator : Value) (point : Members) (logical : Value) :
    distance field operator (maskedPoint point) logical =
      (distance field operator point logical).map masked := by
  unfold distance
  simp only [getD_lookup_maskedPoint, Value.piece_masked]
  cases ((point.lookup "lat").getD .null).piece with
  | error cause => rfl
  | ok latitude =>
    cases ((point.lookup "long").getD .null).piece with
    | error cause => rfl
    | ok longitude =>
      cases ((point.lookup "radius").getD .null).piece with
      | error cause => rfl
      | ok radius =>
        cases field.showPlain with
        | error cause => rfl
        | ok field => cases operator.showPlain <;> rfl

end Part

/-! ## Calls -/

namespace Filter

/-- The effect with the texts of its part masked. -/
def Effect.masked : Effect → Effect
  | .append part => .append part.masked
  | effect => effect

/-- The call with the texts of its values masked. The names of a call are kept, and so is the number
that a length is compared with, in whatever form it is given. -/
def Call.masked : Call → Call
  | .compare (.value (.text name)) operator value logical =>
    .compare (.value (.text name)) operator value.masked logical
  | .compare field operator value logical =>
    .compare field.masked operator value.masked logical
  | .condition field operator value logical => .condition field operator value.masked logical
  | .group conditions logical join => .group conditions.masked logical join
  | .oneOf field values logical =>
    match values.elements with
    | .ok items => .oneOf field (.list (items.map Value.masked)) logical
    | .error _ => .oneOf field values logical
  | .textFunction function field value logical =>
    .textFunction function field value.masked logical
  | .substringOf part field logical => .substringOf part.masked field logical
  | .distance field operator (.object point) logical =>
    .distance field operator (.object (Part.maskedPoint point)) logical
  | call => call

/-- A masked part is appended as the part is, masked. -/
theorem map_append_masked {made masked : Except Fault Part} (h : masked = made.map Part.masked) :
    masked.map Effect.append = (made.map Effect.append).map Effect.masked := by
  subst h
  cases made <;> rfl

/-- **Texts decide nothing.** A masked call does what the call does, with its texts masked. -/
theorem effect_masked (call : Call) : call.masked.effect = call.effect.map Effect.masked := by
  cases call with
  | compare field operator value logical =>
    by_cases hfield : ∃ name, field = .value (.text name)
    · obtain ⟨name, rfl⟩ := hfield
      exact map_append_masked
        (Part.condition_masked (.value (.text name)) (operator.orElse (.text "")) value logical)
    · have hother : ∀ name, field ≠ .value (.text name) := fun name heq => hfield ⟨name, heq⟩
      have hmasked : (Call.compare field operator value logical).masked =
          .compare field.masked operator value.masked logical := by
        cases field with
        | items listed => rfl
        | value v =>
          cases v with
          | text name => exact absurd rfl (hother name)
          | _ => rfl
      rw [hmasked]
      exact map_append_masked (Part.compare_masked hother operator value logical)
  | condition field operator value logical =>
    exact map_append_masked (Part.condition_masked field operator value logical)
  | group conditions logical join =>
    exact map_append_masked (Part.group_masked conditions logical join)
  | oneOf field values logical =>
    cases h : values.elements with
    | error cause =>
      have hrefused : Part.oneOf field values logical = .error cause := by
        unfold Part.oneOf
        rw [h]
        rfl
      simp only [Call.masked, h, Call.effect, hrefused]
      rfl
    | ok items =>
      simp only [Call.masked, h]
      exact map_append_masked (Part.oneOf_masked field h logical)
  | textFunction function field value logical =>
    exact map_append_masked (Part.textFunction_masked function.name field value logical)
  | substringOf part field logical =>
    exact map_append_masked (Part.substringOf_masked part field logical)
  | length field count comparison logical =>
    exact map_append_masked (Part.length_masked field count comparison logical)
  | distance field operator point logical =>
    cases point with
    | object point =>
      have hpart := Part.distance_masked field operator point logical
      simp only [Call.masked, Call.effect, Part.namesPart_maskedPoint]
      cases Part.namesPart (.object point) with
      | error cause => rfl
      | ok named =>
        cases named with
        | false => rfl
        | true => exact map_append_masked hpart
    | text s =>
      simp only [Call.masked, Call.effect]
      cases Part.namesPart (.text s) with
      | error cause => rfl
      | ok named => cases named <;> rfl
    | list items =>
      simp only [Call.masked, Call.effect]
      cases Part.namesPart (.list items) with
      | error cause => rfl
      | ok named => cases named <;> rfl
    | _ => rfl
  | openGroup relation => rfl
  | closeGroup => rfl

end Filter

end OData
