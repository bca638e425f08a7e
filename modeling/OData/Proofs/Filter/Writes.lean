import OData.Filter.Call
import OData.Proofs.Value.Word

/-!
# What a call writes

The arguments of a call are of two kinds: names (fields, operators, joining words), which stand in
the filter as they are, and values, which stand as literals.

* **Parts** (`writes_of_effect`): the part that a call appends holds exactly the call's values as
  literals, in order, and outside them nothing but the call's names and punctuation.
* **Putting parts together** (`Writes.append`, `Writes.between`): what pieces write one after
  another is what each of them writes.
-/

namespace OData

namespace Subject

/-- The text of a subject, if it can be shown. -/
def texts (s : Subject) : List String :=
  match s.showPlain with
  | .ok text => [text]
  | .error _ => []

/-- The conditions that a subject lists. -/
def conditions (s : Subject) : List Condition :=
  match s.elements with
  | .ok listed => listed.filterMap fun i => i.toCondition.toOption
  | .error _ => []

/-- A subject that can be shown has its text. -/
theorem mem_texts {s : Subject} {text : String} (h : s.showPlain = .ok text) : text ∈ s.texts := by
  unfold texts
  rw [h]
  exact List.mem_singleton_self text

end Subject

namespace Value

/-- A value is shown by its plain form. -/
theorem eq_plain_of_showPlain {v : Value} {s : String} (h : v.showPlain = .ok s) : s = v.plain := by
  unfold showPlain shownAs at h
  split at h
  · exact (Except.ok.inj h).symm
  · cases h

/-- The piece of a value is its literal. -/
theorem eq_literal_of_piece {v : Value} {p : Piece} (h : v.piece = .ok p) : p = .literal v := by
  obtain ⟨s, -, h⟩ := bind_eq_ok_iff.1 h
  exact (Except.ok.inj h).symm

/-- The pieces of values are their literals. -/
theorem eq_map_of_pieces {vs : List Value} {ps : List Piece} (h : pieces vs = .ok ps) :
    ps = vs.map .literal := by
  induction vs generalizing ps with
  | nil => exact (Except.ok.inj h).symm
  | cons v rest ih =>
    obtain ⟨p, hp, h⟩ := bind_eq_ok_iff.1 h
    obtain ⟨qs, hqs, h⟩ := bind_eq_ok_iff.1 h
    rw [← Except.ok.inj h, eq_literal_of_piece hp, ih hqs, List.map_cons]

end Value

/-- The value whose literal a piece is. -/
def Piece.value? : Piece → Option Value
  | .bare _ => none
  | .literal v => some v

namespace Item

/-- The runs of a list of items are those of the conditions among them. -/
theorem eq_map_of_piecesAll {items : List Item} {runs : List (List Piece)}
    (h : piecesAll items = .ok runs) :
    ∃ pairs : List (Condition × List Piece), runs = pairs.map Prod.snd ∧
      (items.filterMap fun i => i.toCondition.toOption) = pairs.map Prod.fst ∧
      ∀ p ∈ pairs, p.1.pieces = .ok p.2 := by
  induction items generalizing runs with
  | nil => exact ⟨[], (Except.ok.inj h).symm, rfl, fun _ hp => nomatch hp⟩
  | cons i rest ih =>
    obtain ⟨c, hc, h⟩ := bind_eq_ok_iff.1 h
    obtain ⟨run, hrun, h⟩ := bind_eq_ok_iff.1 h
    obtain ⟨others, hothers, h⟩ := bind_eq_ok_iff.1 h
    obtain ⟨pairs, rfl, hconditions, hpairs⟩ := ih hothers
    refine ⟨(c, run) :: pairs, (Except.ok.inj h).symm, ?_, ?_⟩
    · rw [List.filterMap_cons, hc, List.map_cons, ← hconditions]
      rfl
    · intro p hp
      rcases List.mem_cons.1 hp with rfl | hp
      · exact hrun
      · exact hpairs p hp

end Item

namespace Filter

/-- The names of a condition. -/
def conditionNames (c : Condition) : List String :=
  [c.field.plain, c.operator.plain]

/-- The names of a call, as texts. -/
def Call.names : Call → List String
  | .compare (.value (.text name)) operator _ logical => [name, operator.plain, logical.plain]
  | .compare field operator _ logical =>
    operator.plain :: logical.plain :: field.conditions.flatMap conditionNames
  | .condition field operator _ logical => operator.plain :: logical.plain :: field.texts
  | .group conditions logical join =>
    logical.plain :: join.plain :: conditions.conditions.flatMap conditionNames
  | .oneOf field _ logical => logical.plain :: field.texts
  | .textFunction _ field _ logical => logical.plain :: field.texts
  | .substringOf _ field logical => logical.plain :: field.texts
  | .length field _ comparison logical => comparison.plain :: logical.plain :: field.texts
  | .distance field operator _ logical => operator.plain :: logical.plain :: field.texts
  | .openGroup relation => [relation.plain]
  | .closeGroup => []

/-- The values of a call, in the order in which they are written. A test for membership has those
that walking through its list meets. The number that a length is compared with is no value: it is
written without being a literal. -/
def Call.values : Call → List Value
  | .compare (.value (.text _)) _ value _ => [value]
  | .compare field _ _ _ => field.conditions.map Condition.value
  | .condition _ _ value _ => [value]
  | .group conditions _ _ => conditions.conditions.map Condition.value
  | .oneOf _ values _ => values.elements.toOption.getD []
  | .textFunction _ _ value _ => [value]
  | .substringOf part _ _ => [part]
  | .length _ _ _ _ => []
  | .distance _ _ point _ => ["long", "lat", "radius"].map fun k => (point.get? k).getD .null
  | .openGroup _ => []
  | .closeGroup => []

/-- The names of a list of comparisons. -/
theorem Call.names_compare {field : Subject} (h : ∀ name, field ≠ .value (.text name))
    (operator value logical : Value) :
    (Call.compare field operator value logical).names =
      operator.plain :: logical.plain :: field.conditions.flatMap conditionNames := by
  unfold Call.names
  split <;> simp_all

/-- The values of a list of comparisons. -/
theorem Call.values_compare {field : Subject} (h : ∀ name, field ≠ .value (.text name))
    (operator value logical : Value) :
    (Call.compare field operator value logical).values =
      field.conditions.map Condition.value := by
  unfold Call.values
  split <;> simp_all

/-! ## Names and punctuation -/

/-- Whether a character is one of those that calls write of their own. -/
def isPunctuation (c : Char) : Bool :=
  Text.isWordChar c || c == ' ' || c == ',' || c == '(' || c == ')'

/-- Whether a text is made of names and punctuation. -/
def MadeOf (names : List String) (s : String) : Prop :=
  ∀ c ∈ s.toList, isPunctuation c = true ∨ ∃ name ∈ names, c ∈ name.toList

namespace MadeOf

variable {names : List String}

theorem name {s : String} (h : s ∈ names) : MadeOf names s :=
  fun _ hc => Or.inr ⟨s, h, hc⟩

theorem punctuation {s : String} (h : s.toList.all isPunctuation = true) : MadeOf names s :=
  fun c hc => Or.inl (List.all_eq_true.1 h c hc)

theorem word {s : String} (h : Text.IsWord s.toList) : MadeOf names s := by
  intro c hc
  left
  simp [isPunctuation, h c hc]

theorem append {s t : String} (hs : MadeOf names s) (ht : MadeOf names t) :
    MadeOf names (s ++ t) := by
  intro c hc
  rw [String.toList_append] at hc
  rcases List.mem_append.1 hc with h | h
  · exact hs c h
  · exact ht c h

theorem mono {s : String} {more : List String} (h : MadeOf names s) (hsub : names ⊆ more) :
    MadeOf more s := by
  intro c hc
  rcases h c hc with hp | ⟨name, hname, hmem⟩
  · exact Or.inl hp
  · exact Or.inr ⟨name, hsub hname, hmem⟩

/-- A character that is no punctuation and in no name is in nothing that is made of them. -/
theorem not_mem {s : String} {c : Char} (h : MadeOf names s) (hc : isPunctuation c = false)
    (hnames : ∀ name ∈ names, c ∉ name.toList) : c ∉ s.toList := by
  intro hmem
  rcases h c hmem with hp | ⟨name, hname, hmem⟩
  · exact absurd (hc.symm.trans hp) Bool.false_ne_true
  · exact hnames name hname hmem

end MadeOf

/-! ## Pieces -/

/-- Whether pieces hold the given values as literals, in order, and outside them nothing but the
given names and punctuation. -/
structure Writes (names : List String) (values : List Value) (pieces : List Piece) : Prop where
  /-- The literals are those of the values. -/
  literals : pieces.filterMap Piece.value? = values
  /-- The rest is made of the names. -/
  rest : ∀ s, .bare s ∈ pieces → MadeOf names s

namespace Writes

variable {names : List String} {values : List Value} {pieces : List Piece}

theorem nil : Writes names [] [] :=
  ⟨rfl, fun _ h => nomatch h⟩

theorem bare {s : String} (hs : MadeOf names s) (h : Writes names values pieces) :
    Writes names values (.bare s :: pieces) where
  literals := h.literals
  rest t ht := by
    rcases List.mem_cons.1 ht with heq | ht
    · cases heq
      exact hs
    · exact h.rest t ht

theorem literal (v : Value) (h : Writes names values pieces) :
    Writes names (v :: values) (.literal v :: pieces) where
  literals := by
    rw [← h.literals]
    rfl
  rest t ht := by
    rcases List.mem_cons.1 ht with heq | ht
    · cases heq
    · exact h.rest t ht

theorem append {more : List Value} {others : List Piece} (h : Writes names values pieces)
    (hmore : Writes names more others) : Writes names (values ++ more) (pieces ++ others) where
  literals := by rw [List.filterMap_append, h.literals, hmore.literals]
  rest t ht := by
    rcases List.mem_append.1 ht with ht | ht
    · exact h.rest t ht
    · exact hmore.rest t ht

theorem mono {more : List String} (h : Writes names values pieces) (hsub : names ⊆ more) :
    Writes more values pieces :=
  ⟨h.literals, fun s hs => (h.rest s hs).mono hsub⟩

/-- Runs of one value each, with a text made of the names between them, write the values. -/
theorem between {separator : String} (hsep : MadeOf names separator) {α : Type}
    {valueOf : α → Value} {run : α → List Piece} {as : List α}
    (h : ∀ a ∈ as, Writes names [valueOf a] (run a)) :
    Writes names (as.map valueOf) (Piece.between separator (as.map run)) := by
  unfold Piece.between
  induction as with
  | nil => exact nil
  | cons a rest ih =>
    have ha := h a List.mem_cons_self
    have hrest := ih fun b hb => h b (List.mem_cons_of_mem a hb)
    cases rest with
    | nil => simpa using ha
    | cons b rest =>
      simp only [List.map_cons, List.intercalate_cons_cons, List.append_assoc] at hrest ⊢
      exact ha.append (bare hsep hrest)

/-- Pieces between two texts made of the names. -/
theorem enclosed {first last : String} (hfirst : MadeOf names first) (hlast : MadeOf names last)
    (h : Writes names values pieces) :
    Writes names values (.bare first :: pieces ++ [.bare last]) := by
  have hall := (h.bare hfirst).append (nil.bare hlast)
  rwa [List.append_nil] at hall

end Writes

/-! ## Parts -/

/-- A condition writes its value after its field and its operator. -/
theorem writes_comparison {names : List String} {field operator : String}
    (hfield : field ∈ names) (hoperator : operator ∈ names) (v : Value) :
    Writes names [v] (Condition.comparison field operator (.literal v)) := by
  have hspace : MadeOf names " " := .punctuation rfl
  exact .bare ((((MadeOf.name hfield).append hspace).append (.name hoperator)).append hspace)
    (.literal v .nil)

/-- The part of a comparison. -/
theorem writes_condition {field : Subject} {operator value logical : Value} {part : Part}
    (h : Part.condition field operator value logical = .ok part) :
    Writes (operator.plain :: field.texts) [value] part.pieces ∧ part.logical = logical := by
  obtain ⟨f, hf, h⟩ := bind_eq_ok_iff.1 h
  obtain ⟨o, ho, h⟩ := bind_eq_ok_iff.1 h
  obtain ⟨p, hp, h⟩ := bind_eq_ok_iff.1 h
  obtain rfl := Value.eq_literal_of_piece hp
  obtain rfl := Value.eq_plain_of_showPlain ho
  cases h
  refine ⟨writes_comparison ?_ List.mem_cons_self value, rfl⟩
  exact List.mem_cons_of_mem _ (Subject.mem_texts hf)

/-- The part of a list of comparisons. -/
theorem writes_group {conditions : Subject} {logical join : Value} {part : Part}
    (h : Part.group conditions logical join = .ok part) :
    Writes (logical.plain :: conditions.conditions.flatMap conditionNames)
      (conditions.conditions.map Condition.value) part.pieces ∧ part.logical = join := by
  obtain ⟨items, hitems, h⟩ := bind_eq_ok_iff.1 h
  obtain ⟨runs, hruns, h⟩ := bind_eq_ok_iff.1 h
  obtain ⟨w, hw, h⟩ := bind_eq_ok_iff.1 h
  cases h
  obtain ⟨pairs, rfl, hconditions, hpairs⟩ := Item.eq_map_of_piecesAll hruns
  have hlisted : conditions.conditions = pairs.map Prod.fst := by
    unfold Subject.conditions
    rw [hitems]
    exact hconditions
  have hruns : ∀ p ∈ pairs, Writes (logical.plain :: conditions.conditions.flatMap conditionNames)
      [p.1.value] p.2 := by
    intro p hp
    obtain ⟨f, hf, h⟩ := bind_eq_ok_iff.1 (hpairs p hp)
    obtain ⟨o, ho, h⟩ := bind_eq_ok_iff.1 h
    obtain ⟨l, hl, h⟩ := bind_eq_ok_iff.1 h
    have hmem : p.1 ∈ conditions.conditions := hlisted ▸ List.mem_map_of_mem hp
    have hnames {s : String} (hs : s ∈ conditionNames p.1) :
        s ∈ logical.plain :: conditions.conditions.flatMap conditionNames :=
      List.mem_cons_of_mem _ (List.mem_flatMap.2 ⟨p.1, hmem, hs⟩)
    rw [← Except.ok.inj h, Value.eq_literal_of_piece hl, Value.eq_plain_of_showPlain hf,
      Value.eq_plain_of_showPlain ho]
    exact writes_comparison (hnames (by simp [conditionNames])) (hnames (by simp [conditionNames]))
      p.1.value
  have hword : MadeOf (logical.plain :: conditions.conditions.flatMap conditionNames)
      (" " ++ w ++ " ") := by
    rw [Value.eq_plain_of_showPlain hw]
    have hspace : MadeOf (logical.plain :: conditions.conditions.flatMap conditionNames) " " :=
      .punctuation rfl
    exact (hspace.append (.name List.mem_cons_self)).append hspace
  have hvalues : conditions.conditions.map Condition.value =
      pairs.map fun p => p.1.value := by
    rw [hlisted, List.map_map]
    rfl
  rw [hvalues]
  exact ⟨.enclosed (.punctuation rfl) (.punctuation rfl) (.between hword hruns), rfl⟩

/-- The part of a test for membership. -/
theorem writes_oneOf {field : Subject} {values logical : Value} {part : Part}
    (h : Part.oneOf field values logical = .ok part) :
    Writes field.texts (values.elements.toOption.getD []) part.pieces ∧
      part.logical = logical := by
  obtain ⟨items, hitems, h⟩ := bind_eq_ok_iff.1 h
  obtain ⟨literals, hliterals, h⟩ := bind_eq_ok_iff.1 h
  obtain ⟨f, hf, h⟩ := bind_eq_ok_iff.1 h
  obtain rfl := Value.eq_map_of_pieces hliterals
  cases h
  have hruns : Writes field.texts (items.map id) (Piece.between ", " (items.map fun v =>
      [.literal v])) :=
    .between (.punctuation rfl) fun v _ => .literal v .nil
  have hfield : MadeOf field.texts (f ++ " in (") :=
    (MadeOf.name (Subject.mem_texts hf)).append (.punctuation rfl)
  rw [List.map_id] at hruns
  refine ⟨?_, rfl⟩
  show Writes _ _ (_ :: Piece.between ", " ((items.map Piece.literal).map _) ++ _)
  rw [hitems, List.map_map]
  exact .enclosed hfield (.punctuation rfl) hruns

/-- The part of a text function with a name made of punctuation. -/
theorem writes_textFunction {function : TextFunction} {field : Subject} {value logical : Value}
    {part : Part} (h : Part.textFunction function.name field value logical = .ok part) :
    Writes field.texts [value] part.pieces ∧ part.logical = logical := by
  obtain ⟨f, hf, h⟩ := bind_eq_ok_iff.1 h
  obtain ⟨p, hp, h⟩ := bind_eq_ok_iff.1 h
  obtain rfl := Value.eq_literal_of_piece hp
  cases h
  have hname : MadeOf field.texts function.name := .punctuation (by cases function <;> rfl)
  have hfirst : MadeOf field.texts (function.name ++ "(" ++ f ++ ", ") :=
    ((hname.append (.punctuation rfl)).append (.name (Subject.mem_texts hf))).append
      (.punctuation rfl)
  exact ⟨.enclosed hfirst (.punctuation rfl) (.literal value .nil), rfl⟩

/-- The part of the text function whose value comes first. -/
theorem writes_substringOf {part : Value} {field : Subject} {logical : Value} {written : Part}
    (h : Part.substringOf part field logical = .ok written) :
    Writes field.texts [part] written.pieces ∧ written.logical = logical := by
  obtain ⟨p, hp, h⟩ := bind_eq_ok_iff.1 h
  obtain ⟨f, hf, h⟩ := bind_eq_ok_iff.1 h
  obtain rfl := Value.eq_literal_of_piece hp
  cases h
  have hcomma : MadeOf field.texts ", " := .punctuation rfl
  have hlast : MadeOf field.texts (", " ++ f ++ ")") :=
    (hcomma.append (.name (Subject.mem_texts hf))).append (.punctuation rfl)
  exact ⟨.enclosed (.punctuation rfl) hlast (.literal part .nil), rfl⟩

/-- The part of a comparison of a length. -/
theorem writes_length {field : Subject} {count comparison logical : Value} {part : Part}
    (h : Part.length field count comparison logical = .ok part) :
    Writes (comparison.plain :: field.texts) [] part.pieces ∧ part.logical = logical := by
  obtain ⟨f, hf, h⟩ := bind_eq_ok_iff.1 h
  obtain ⟨o, ho, h⟩ := bind_eq_ok_iff.1 h
  obtain ⟨n, -, h⟩ := bind_eq_ok_iff.1 h
  obtain ⟨digits, hdigits, h⟩ := bind_eq_ok_iff.1 h
  cases h
  have hnumber : MadeOf (comparison.plain :: field.texts) digits := by
    unfold showInteger at hdigits
    split at hdigits
    · cases hdigits
      exact .word (isWord_toString n)
    · cases hdigits
  have hopen : MadeOf (comparison.plain :: field.texts) "length(" := .punctuation rfl
  have hfield : MadeOf (comparison.plain :: field.texts) f :=
    .name (List.mem_cons_of_mem _ (Subject.mem_texts hf))
  have hoperator : MadeOf (comparison.plain :: field.texts) o := by
    rw [Value.eq_plain_of_showPlain ho]
    exact .name List.mem_cons_self
  exact ⟨.bare (((((hopen.append hfield).append (.punctuation rfl)).append hoperator).append
    (.punctuation rfl)).append hnumber) .nil, rfl⟩

/-- The part of a comparison of a distance. -/
theorem writes_distance {field : Subject} {operator : Value} {point : Members} {logical : Value}
    {part : Part} (h : Part.distance field operator point logical = .ok part) :
    Writes (operator.plain :: field.texts)
      (["long", "lat", "radius"].map fun k => (point.lookup k).getD .null) part.pieces ∧
      part.logical = logical := by
  obtain ⟨latitude, hlatitude, h⟩ := bind_eq_ok_iff.1 h
  obtain ⟨longitude, hlongitude, h⟩ := bind_eq_ok_iff.1 h
  obtain ⟨radius, hradius, h⟩ := bind_eq_ok_iff.1 h
  obtain ⟨f, hf, h⟩ := bind_eq_ok_iff.1 h
  obtain ⟨o, ho, h⟩ := bind_eq_ok_iff.1 h
  obtain rfl := Value.eq_literal_of_piece hlatitude
  obtain rfl := Value.eq_literal_of_piece hlongitude
  obtain rfl := Value.eq_literal_of_piece hradius
  cases h
  have hopen : MadeOf (operator.plain :: field.texts) "geo.distance(" := .punctuation rfl
  have hfield : MadeOf (operator.plain :: field.texts) f :=
    .name (List.mem_cons_of_mem _ (Subject.mem_texts hf))
  have hclose : MadeOf (operator.plain :: field.texts) ")) " := .punctuation rfl
  have hoperator : MadeOf (operator.plain :: field.texts) o := by
    rw [Value.eq_plain_of_showPlain ho]
    exact .name List.mem_cons_self
  refine ⟨.bare ((hopen.append hfield).append (.punctuation rfl)) ?_, rfl⟩
  refine .literal _ (.bare (.punctuation rfl) (.literal _ ?_))
  exact .bare ((hclose.append hoperator).append (.punctuation rfl)) (.literal _ .nil)

/-- A part that is appended was made. -/
theorem eq_ok_of_map_append {made : Except Fault Part} {part : Part}
    (h : made.map Effect.append = .ok (.append part)) : made = .ok part := by
  obtain ⟨found, hfound, heq⟩ := map_eq_ok_iff.1 h
  cases heq
  exact hfound

/-- A distance appends a part only if its point is an object. -/
theorem distance_of_effect {field : Subject} {operator point logical : Value} {part : Part}
    (h : (Call.distance field operator point logical).effect = .ok (.append part)) :
    ∃ members, point = .object members ∧
      Part.distance field operator members logical = .ok part := by
  obtain ⟨named, -, h⟩ := bind_eq_ok_iff.1 h
  split at h
  · split at h
    · exact ⟨_, rfl, eq_ok_of_map_append h⟩
    · cases h
  · cases h

/-- The part of a list of comparisons given with an operator, which may be the word that joins the
list; the part is then joined by the remaining word, and otherwise by `and`. -/
theorem writes_compare_group {field : Subject} {operator value logical : Value} {part : Part}
    (hfield : ∀ name, field ≠ .value (.text name))
    (h : Part.compare field operator value logical = .ok part) :
    Writes (operator.plain :: logical.plain :: field.conditions.flatMap conditionNames)
        (field.conditions.map Condition.value) part.pieces ∧
      (part.logical = logical ∨ part.logical = .text "and") := by
  have hgroup : Part.group field logical (.text "and") = .ok part ∨
      Part.group field operator logical = .ok part := by
    unfold Part.compare at h
    split at h
    · exact absurd rfl (hfield _)
    · split at h
      · exact Or.inl h
      · split at h
        · exact Or.inr h
        · exact Or.inl h
      · cases h
  rcases hgroup with hgroup | hgroup
  · obtain ⟨hwrites, hlogical⟩ := writes_group hgroup
    exact ⟨hwrites.mono (List.subset_cons_self _ _), Or.inr hlogical⟩
  · obtain ⟨hwrites, hlogical⟩ := writes_group hgroup
    refine ⟨hwrites.mono ?_, Or.inl hlogical⟩
    exact List.cons_subset_cons _ (List.subset_cons_self _ _)

/-- The part of a comparison of a field given as a text. -/
theorem writes_compare_text {name : String} {operator value logical : Value} {part : Part}
    (h : Part.compare (.value (.text name)) operator value logical = .ok part) :
    Writes [name, operator.plain, logical.plain] [value] part.pieces ∧ part.logical = logical := by
  have hcondition : Part.condition (.value (.text name)) (operator.orElse (.text "")) value
      logical = .ok part := h
  obtain ⟨hwrites, hlogical⟩ := writes_condition hcondition
  refine ⟨⟨hwrites.literals, fun s hs => ?_⟩, hlogical⟩
  intro c hc
  rcases hwrites.rest s hs c hc with hp | ⟨known, hknown, hmem⟩
  · exact Or.inl hp
  right
  rcases List.mem_cons.1 hknown with rfl | hknown
  · -- A missing operator is written as the empty text, and any other as it is.
    unfold Value.orElse at hmem
    split at hmem
    · exact ⟨operator.plain, by simp, hmem⟩
    · exact absurd hmem (by simp [Value.plain])
  · have heq : known = name := List.mem_singleton.1 hknown
    exact ⟨name, by simp, heq ▸ hmem⟩

/-- **What a call writes**: its values as literals, in order, and outside them nothing but its names
and punctuation. The word that joins the part is one of its names too. -/
theorem writes_of_effect {call : Call} {part : Part} (h : call.effect = .ok (.append part)) :
    Writes call.names call.values part.pieces ∧ MadeOf call.names part.logical.plain := by
  cases call with
  | compare field operator value logical =>
    have hmade := eq_ok_of_map_append h
    by_cases hfield : ∃ name, field = .value (.text name)
    · obtain ⟨name, rfl⟩ := hfield
      obtain ⟨hwrites, hlogical⟩ := writes_compare_text hmade
      exact ⟨hwrites, .name (by simp [Call.names, hlogical])⟩
    · have hother : ∀ name, field ≠ .value (.text name) := fun name heq => hfield ⟨name, heq⟩
      obtain ⟨hwrites, hlogical⟩ := writes_compare_group hother hmade
      rw [Call.names_compare hother, Call.values_compare hother]
      refine ⟨hwrites, ?_⟩
      rcases hlogical with hlogical | hlogical
      · exact .name (by simp [hlogical])
      · rw [hlogical]
        exact .punctuation rfl
  | condition field operator value logical =>
    have hmade := eq_ok_of_map_append h
    obtain ⟨hwrites, hlogical⟩ := writes_condition hmade
    refine ⟨hwrites.mono ?_, .name (by simp [Call.names, hlogical])⟩
    exact List.cons_subset_cons _ (List.subset_cons_self _ _)
  | group conditions logical join =>
    have hmade := eq_ok_of_map_append h
    obtain ⟨hwrites, hlogical⟩ := writes_group hmade
    refine ⟨hwrites.mono ?_, .name (by simp [Call.names, hlogical])⟩
    exact List.cons_subset_cons _ (List.subset_cons_self _ _)
  | oneOf field values logical =>
    have hmade := eq_ok_of_map_append h
    obtain ⟨hwrites, hlogical⟩ := writes_oneOf hmade
    exact ⟨hwrites.mono (List.subset_cons_self _ _), .name (by simp [Call.names, hlogical])⟩
  | textFunction function field value logical =>
    have hmade := eq_ok_of_map_append h
    obtain ⟨hwrites, hlogical⟩ := writes_textFunction hmade
    exact ⟨hwrites.mono (List.subset_cons_self _ _), .name (by simp [Call.names, hlogical])⟩
  | substringOf value field logical =>
    have hmade := eq_ok_of_map_append h
    obtain ⟨hwrites, hlogical⟩ := writes_substringOf hmade
    exact ⟨hwrites.mono (List.subset_cons_self _ _), .name (by simp [Call.names, hlogical])⟩
  | length field count comparison logical =>
    have hmade := eq_ok_of_map_append h
    obtain ⟨hwrites, hlogical⟩ := writes_length hmade
    refine ⟨hwrites.mono ?_, .name (by simp [Call.names, hlogical])⟩
    exact List.cons_subset_cons _ (List.subset_cons_self _ _)
  | distance field operator point logical =>
    obtain ⟨members, rfl, hmade⟩ := distance_of_effect h
    obtain ⟨hwrites, hlogical⟩ := writes_distance hmade
    refine ⟨hwrites.mono ?_, .name (by simp [Call.names, hlogical])⟩
    exact List.cons_subset_cons _ (List.subset_cons_self _ _)
  | openGroup relation => cases h
  | closeGroup => cases h

end Filter

end OData
