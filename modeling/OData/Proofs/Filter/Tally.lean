import OData.Proofs.Filter.WellTyped

/-!
# Tallies of parentheses

A tally is anything that is kept while a text is read and changes at parentheses alone, so that a
parenthesis that is opened and closed at once leaves it as it was.

* **Parts** (`Tally.keeps_of_effect`): what a part of a filter writes outside literals leaves every
  tally as it was.
* **Calls** (`Tally.readAll_added`, `Tally.readAll_addedAll`): reading what calls add has the effect
  of reading one parenthesis for each group that they open or close.
-/

namespace OData

open OData.Filter

/-- A way to keep a tally of parentheses. -/
structure Tally (α : Type) where
  /-- What an opening parenthesis makes of it. -/
  opened : α → α
  /-- What a closing parenthesis makes of it. -/
  closed : α → α
  /-- The two undo each other in this order. -/
  closed_opened : ∀ a, closed (opened a) = a

namespace Tally

variable {α : Type} (t : Tally α)

/-- Reads one character. -/
def step (a : α) (c : Char) : α :=
  if c = '(' then t.opened a else if c = ')' then t.closed a else a

/-- Reads a text. -/
def read (a : α) (cs : List Char) : α :=
  cs.foldl t.step a

@[simp] theorem read_nil (a : α) : t.read a [] = a := rfl

@[simp] theorem read_cons (a : α) (c : Char) (cs : List Char) :
    t.read a (c :: cs) = t.read (t.step a c) cs := rfl

@[simp] theorem read_append (a : α) (cs ds : List Char) :
    t.read a (cs ++ ds) = t.read (t.read a cs) ds :=
  List.foldl_append

@[simp] theorem step_opening (a : α) : t.step a '(' = t.opened a := rfl

@[simp] theorem step_closing (a : α) : t.step a ')' = t.closed a := rfl

@[simp] theorem step_other {c : Char} (hopen : c ≠ '(') (hclose : c ≠ ')') (a : α) :
    t.step a c = a := by
  rw [step, if_neg hopen, if_neg hclose]

/-- Whether reading a text leaves the tally as it was, whatever it was. -/
def Keeps (s : String) : Prop :=
  ∀ a, t.read a s.toList = a

/-- A text without parentheses changes nothing. -/
theorem keeps_of_not_mem {s : String} (hopen : '(' ∉ s.toList) (hclose : ')' ∉ s.toList) :
    t.Keeps s := by
  unfold Keeps
  generalize s.toList = cs at hopen hclose ⊢
  induction cs with
  | nil => exact fun a => rfl
  | cons c cs ih =>
    intro a
    obtain ⟨hc, hcs⟩ := List.ne_and_not_mem_of_not_mem_cons hopen
    obtain ⟨hc', hcs'⟩ := List.ne_and_not_mem_of_not_mem_cons hclose
    rw [read_cons, t.step_other hc.symm hc'.symm, ih hcs hcs']

theorem keeps_of_isWord {s : String} (h : Text.IsWord s.toList) : t.Keeps s :=
  t.keeps_of_not_mem (fun hmem => absurd (h _ hmem) (by decide))
    (fun hmem => absurd (h _ hmem) (by decide))

/-- Reads a piece; literals are passed over. -/
def readPiece (a : α) : Piece → α
  | .bare s => t.read a s.toList
  | .literal _ => a

/-- Reads pieces. -/
def readAll (a : α) (ps : List Piece) : α :=
  ps.foldl t.readPiece a

@[simp] theorem readAll_nil (a : α) : t.readAll a [] = a := rfl

@[simp] theorem readAll_bare (a : α) (s : String) (ps : List Piece) :
    t.readAll a (.bare s :: ps) = t.readAll (t.read a s.toList) ps := rfl

@[simp] theorem readAll_literal (a : α) (v : Value) (ps : List Piece) :
    t.readAll a (.literal v :: ps) = t.readAll a ps := rfl

@[simp] theorem readAll_append (a : α) (ps qs : List Piece) :
    t.readAll a (ps ++ qs) = t.readAll (t.readAll a ps) qs :=
  List.foldl_append

/-- Whether reading pieces leaves the tally as it was, whatever it was. -/
def KeepsAll (ps : List Piece) : Prop :=
  ∀ a, t.readAll a ps = a

variable {t}

/-- Runs that change nothing do so together. -/
theorem keepsAll_between {separator : String} {runs : List (List Piece)}
    (hseparator : t.Keeps separator) (hruns : ∀ run ∈ runs, t.KeepsAll run) :
    t.KeepsAll (Piece.between separator runs) := by
  unfold Piece.between
  induction runs with
  | nil => exact fun a => rfl
  | cons run rest ih =>
    intro a
    rw [List.forall_mem_cons] at hruns
    cases rest with
    | nil => simpa using hruns.1 a
    | cons other rest =>
      rw [List.intercalate_cons_cons, readAll_append, readAll_append, hruns.1, readAll_bare,
        hseparator, readAll_nil, ih hruns.2]

/-! ## Parts -/

/-- The text of a subject changes nothing if it can be shown. -/
theorem keeps_of_showPlain {field : Subject} {f : String} (h : ∀ s ∈ field.texts, t.Keeps s)
    (hf : field.showPlain = .ok f) : t.Keeps f :=
  h f (Subject.mem_texts hf)

/-- A comparison changes nothing. -/
theorem keepsAll_comparison {field operator : String} (hfield : t.Keeps field)
    (hoperator : t.Keeps operator) (v : Value) :
    t.KeepsAll (Condition.comparison field operator (.literal v)) := by
  intro a
  simp [Condition.comparison, hfield _, hoperator _]

/-- The part of a comparison. -/
theorem keepsAll_condition {field : Subject} {operator value logical : Value} {part : Part}
    (h : Part.condition field operator value logical = .ok part)
    (hnames : ∀ s ∈ operator.plain :: field.texts, t.Keeps s) : t.KeepsAll part.pieces := by
  obtain ⟨f, hf, h⟩ := bind_eq_ok_iff.1 h
  obtain ⟨o, ho, h⟩ := bind_eq_ok_iff.1 h
  obtain ⟨p, hp, h⟩ := bind_eq_ok_iff.1 h
  obtain rfl := Value.eq_literal_of_piece hp
  obtain rfl := Value.eq_plain_of_showPlain ho
  rw [List.forall_mem_cons] at hnames
  cases h
  exact keepsAll_comparison (keeps_of_showPlain hnames.2 hf) hnames.1 value

/-- The part of a list of comparisons. -/
theorem keepsAll_group {conditions : Subject} {logical join : Value} {part : Part}
    (h : Part.group conditions logical join = .ok part)
    (hnames : ∀ s ∈ logical.plain :: conditions.conditions.flatMap conditionNames, t.Keeps s) :
    t.KeepsAll part.pieces := by
  obtain ⟨items, hitems, h⟩ := bind_eq_ok_iff.1 h
  obtain ⟨runs, hruns, h⟩ := bind_eq_ok_iff.1 h
  obtain ⟨w, hw, h⟩ := bind_eq_ok_iff.1 h
  obtain rfl := Value.eq_plain_of_showPlain hw
  rw [List.forall_mem_cons] at hnames
  cases h
  obtain ⟨pairs, rfl, hconditions, hpairs⟩ := Item.eq_map_of_piecesAll hruns
  have hlisted : conditions.conditions = pairs.map Prod.fst := by
    unfold Subject.conditions
    rw [hitems]
    exact hconditions
  have hlevel : ∀ run ∈ pairs.map Prod.snd, t.KeepsAll run := by
    intro run hrun
    obtain ⟨p, hp, rfl⟩ := List.mem_map.1 hrun
    obtain ⟨f, hf, h⟩ := bind_eq_ok_iff.1 (hpairs p hp)
    obtain ⟨o, ho, h⟩ := bind_eq_ok_iff.1 h
    obtain ⟨l, hl, h⟩ := bind_eq_ok_iff.1 h
    have hmem : p.1 ∈ conditions.conditions := hlisted ▸ List.mem_map_of_mem hp
    have hname {s : String} (hs : s ∈ conditionNames p.1) : t.Keeps s :=
      hnames.2 s (List.mem_flatMap.2 ⟨p.1, hmem, hs⟩)
    rw [← Except.ok.inj h, Value.eq_literal_of_piece hl, Value.eq_plain_of_showPlain hf,
      Value.eq_plain_of_showPlain ho]
    exact keepsAll_comparison (hname (by simp [conditionNames])) (hname (by simp [conditionNames]))
      p.1.value
  have hword : t.Keeps (" " ++ logical.plain ++ " ") := by
    intro a
    simp [hnames.1 _]
  intro a
  simp [keepsAll_between hword hlevel _, t.closed_opened]

/-- The part of a test for membership. -/
theorem keepsAll_oneOf {field : Subject} {values logical : Value} {part : Part}
    (h : Part.oneOf field values logical = .ok part) (hnames : ∀ s ∈ field.texts, t.Keeps s) :
    t.KeepsAll part.pieces := by
  obtain ⟨items, hitems, h⟩ := bind_eq_ok_iff.1 h
  obtain ⟨literals, hliterals, h⟩ := bind_eq_ok_iff.1 h
  obtain ⟨f, hf, h⟩ := bind_eq_ok_iff.1 h
  obtain rfl := Value.eq_map_of_pieces hliterals
  cases h
  have hlevel : ∀ run ∈ (items.map Piece.literal).map ([·]), t.KeepsAll run := by
    intro run hrun
    obtain ⟨p, hp, rfl⟩ := List.mem_map.1 hrun
    obtain ⟨v, -, rfl⟩ := List.mem_map.1 hp
    exact fun a => rfl
  have hseparator : t.Keeps ", " := t.keeps_of_not_mem (by decide) (by decide)
  intro a
  simp [keepsAll_between hseparator hlevel _, keeps_of_showPlain hnames hf _, t.closed_opened,
    -List.map_map]

/-- The part of a text function. -/
theorem keepsAll_textFunction {function : TextFunction} {field : Subject} {value logical : Value}
    {part : Part} (h : Part.textFunction function.name field value logical = .ok part)
    (hnames : ∀ s ∈ field.texts, t.Keeps s) : t.KeepsAll part.pieces := by
  obtain ⟨f, hf, h⟩ := bind_eq_ok_iff.1 h
  obtain ⟨p, hp, h⟩ := bind_eq_ok_iff.1 h
  obtain rfl := Value.eq_literal_of_piece hp
  cases h
  have hname : t.Keeps function.name := by
    cases function <;> exact t.keeps_of_not_mem (by decide) (by decide)
  intro a
  simp [hname _, keeps_of_showPlain hnames hf _, t.closed_opened]

/-- The part of the text function whose value comes first. -/
theorem keepsAll_substringOf {part : Value} {field : Subject} {logical : Value} {written : Part}
    (h : Part.substringOf part field logical = .ok written)
    (hnames : ∀ s ∈ field.texts, t.Keeps s) : t.KeepsAll written.pieces := by
  obtain ⟨p, hp, h⟩ := bind_eq_ok_iff.1 h
  obtain ⟨f, hf, h⟩ := bind_eq_ok_iff.1 h
  obtain rfl := Value.eq_literal_of_piece hp
  cases h
  intro a
  simp [keeps_of_showPlain hnames hf _, t.closed_opened]

/-- The part of a comparison of a length. -/
theorem keepsAll_length {field : Subject} {count comparison logical : Value} {part : Part}
    (h : Part.length field count comparison logical = .ok part)
    (hnames : ∀ s ∈ comparison.plain :: field.texts, t.Keeps s) : t.KeepsAll part.pieces := by
  obtain ⟨f, hf, h⟩ := bind_eq_ok_iff.1 h
  obtain ⟨o, ho, h⟩ := bind_eq_ok_iff.1 h
  obtain ⟨n, -, h⟩ := bind_eq_ok_iff.1 h
  obtain ⟨digits, hdigits, h⟩ := bind_eq_ok_iff.1 h
  obtain rfl := Value.eq_plain_of_showPlain ho
  rw [List.forall_mem_cons] at hnames
  cases h
  have hnumber : t.Keeps digits := by
    have hdigits : (Value.int n).showPlain = .ok digits := hdigits
    rw [Value.eq_plain_of_showPlain hdigits]
    exact t.keeps_of_isWord (isWord_toString n)
  intro a
  simp [keeps_of_showPlain hnames.2 hf _, hnames.1 _, hnumber _, t.closed_opened]

/-- The part of a comparison of a distance. -/
theorem keepsAll_distance {field : Subject} {operator : Value} {point : Members} {logical : Value}
    {part : Part} (h : Part.distance field operator point logical = .ok part)
    (hnames : ∀ s ∈ operator.plain :: field.texts, t.Keeps s) : t.KeepsAll part.pieces := by
  obtain ⟨latitude, hlatitude, h⟩ := bind_eq_ok_iff.1 h
  obtain ⟨longitude, hlongitude, h⟩ := bind_eq_ok_iff.1 h
  obtain ⟨radius, hradius, h⟩ := bind_eq_ok_iff.1 h
  obtain ⟨f, hf, h⟩ := bind_eq_ok_iff.1 h
  obtain ⟨o, ho, h⟩ := bind_eq_ok_iff.1 h
  obtain rfl := Value.eq_literal_of_piece hlatitude
  obtain rfl := Value.eq_literal_of_piece hlongitude
  obtain rfl := Value.eq_literal_of_piece hradius
  obtain rfl := Value.eq_plain_of_showPlain ho
  rw [List.forall_mem_cons] at hnames
  cases h
  intro a
  simp [keeps_of_showPlain hnames.2 hf _, hnames.1 _, t.closed_opened]

/-- The part of a comparison, or of a list of comparisons, given with or without an operator. -/
theorem keepsAll_compare {field : Subject} {operator value logical : Value} {part : Part}
    (h : Part.compare field operator value logical = .ok part)
    (hnames : ∀ s ∈ (Call.compare field operator value logical).names, t.Keeps s) :
    t.KeepsAll part.pieces ∧ t.Keeps part.logical.plain := by
  by_cases hfield : ∃ name, field = .value (.text name)
  · obtain ⟨name, rfl⟩ := hfield
    have hcondition : Part.condition (.value (.text name)) (operator.orElse (.text "")) value
        logical = .ok part := h
    have hlevel : ∀ s ∈ [name, operator.plain, logical.plain], t.Keeps s := hnames
    refine ⟨keepsAll_condition hcondition ?_, ?_⟩
    · refine List.forall_mem_cons.2 ⟨?_, List.forall_mem_singleton.2 (hlevel name (by simp))⟩
      -- A missing operator is written as the empty text, and any other as it is.
      unfold Value.orElse
      split
      · exact hlevel _ (by simp)
      · exact fun a => rfl
    · rw [(writes_compare_text h).2]
      exact hlevel _ (by simp)
  · have hother : ∀ name, field ≠ .value (.text name) := fun name heq => hfield ⟨name, heq⟩
    rw [Call.names_compare hother] at hnames
    have hlogical : t.Keeps part.logical.plain := by
      rcases (writes_compare_group hother h).2 with hword | hword
      · rw [hword]
        exact hnames _ (by simp)
      · rw [hword]
        exact t.keeps_of_not_mem (by decide) (by decide)
    refine ⟨?_, hlogical⟩
    obtain ⟨houter, hinner⟩ := List.forall_mem_cons.1 hnames
    obtain ⟨-, hconditions⟩ := List.forall_mem_cons.1 hinner
    rw [Part.compare_eq_group hother] at h
    split at h
    · exact keepsAll_group h hinner
    · split at h
      · exact keepsAll_group h (List.forall_mem_cons.2 ⟨houter, hconditions⟩)
      · exact keepsAll_group h hinner
    · cases h

/-- A part that changes nothing, and that is joined by one of the names, is joined by a word that
changes nothing. -/
theorem keeps_of_made {part : Part} {logical : Value} {names inner : List String}
    (hpieces : (∀ s ∈ inner, t.Keeps s) → t.KeepsAll part.pieces)
    (hlogical : part.logical = logical) (hsub : logical.plain :: inner ⊆ names)
    (hnames : ∀ s ∈ names, t.Keeps s) :
    t.KeepsAll part.pieces ∧ t.Keeps part.logical.plain := by
  rw [List.cons_subset] at hsub
  refine ⟨hpieces fun s hs => hnames s (hsub.2 hs), ?_⟩
  rw [hlogical]
  exact hnames _ hsub.1

/-- **A part closes what it opens**, and the word that joins it opens nothing. -/
theorem keeps_of_effect {call : Call} {part : Part} (h : call.effect = .ok (.append part))
    (hnames : ∀ s ∈ call.names, t.Keeps s) :
    t.KeepsAll part.pieces ∧ t.Keeps part.logical.plain := by
  -- Most calls name the word after the operator, where the part has the operator first.
  have hswap {a b : String} {rest : List String} : b :: a :: rest ⊆ a :: b :: rest :=
    (List.Perm.swap a b rest).subset
  cases call with
  | compare field operator value logical => exact keepsAll_compare (eq_ok_of_map_append h) hnames
  | condition field operator value logical =>
    have hmade := eq_ok_of_map_append h
    exact keeps_of_made (keepsAll_condition hmade) (writes_condition hmade).2 hswap hnames
  | group conditions logical join =>
    have hmade := eq_ok_of_map_append h
    exact keeps_of_made (keepsAll_group hmade) (writes_group hmade).2 hswap hnames
  | oneOf field values logical =>
    have hmade := eq_ok_of_map_append h
    exact keeps_of_made (keepsAll_oneOf hmade) (writes_oneOf hmade).2 (List.Subset.refl _) hnames
  | textFunction function field value logical =>
    have hmade := eq_ok_of_map_append h
    exact keeps_of_made (keepsAll_textFunction hmade) (writes_textFunction hmade).2
      (List.Subset.refl _) hnames
  | substringOf value field logical =>
    have hmade := eq_ok_of_map_append h
    exact keeps_of_made (keepsAll_substringOf hmade) (writes_substringOf hmade).2
      (List.Subset.refl _) hnames
  | length field count comparison logical =>
    have hmade := eq_ok_of_map_append h
    exact keeps_of_made (keepsAll_length hmade) (writes_length hmade).2 hswap hnames
  | distance field operator point logical =>
    obtain ⟨members, rfl, hmade⟩ := distance_of_effect h
    exact keeps_of_made (keepsAll_distance hmade) (writes_distance hmade).2 hswap hnames
  | openGroup relation => cases h
  | closeGroup => cases h

end Tally

/-! ## Calls -/

namespace Filter

/-- The parenthesis that a call opens or closes for good, if it does. -/
def Call.parenthesis? : Call → Option Char
  | .openGroup _ => some '('
  | .closeGroup => some ')'
  | _ => none

/-- The parenthesis that an effect opens or closes for good, if it does. -/
def Effect.parenthesis? : Effect → Option Char
  | .openGroup _ => some '('
  | .closeGroup => some ')'
  | _ => none

/-- A call opens or closes what its effect does. -/
theorem Call.parenthesis?_of_effect {call : Call} {effect : Effect}
    (h : call.effect = .ok effect) : effect.parenthesis? = call.parenthesis? := by
  cases call with
  | openGroup relation =>
    cases h
    rfl
  | closeGroup =>
    cases h
    rfl
  | distance field operator point logical =>
    obtain ⟨named, -, h⟩ := bind_eq_ok_iff.1 h
    split at h
    · split at h
      · obtain ⟨part, -, rfl⟩ := map_eq_ok_iff.1 h
        rfl
      · cases h
    · cases h
      rfl
  | _ =>
    obtain ⟨part, -, rfl⟩ := map_eq_ok_iff.1 h
    rfl

end Filter

namespace Tally

variable {α : Type} {t : Tally α} {f : Filter}

/-- Reading what a part adds, with the word that joins it, changes nothing. -/
theorem keepsAll_added_append {call : Call} {part : Part} {ps : List Piece}
    (heffect : call.effect = .ok (.append part)) (hps : (Effect.append part).added f = .ok ps)
    (hnames : ∀ s ∈ f.relation.plain :: call.names, t.Keeps s) : t.KeepsAll ps := by
  rw [List.forall_mem_cons] at hnames
  obtain ⟨hpieces, hlogical⟩ := keeps_of_effect heffect hnames.2
  rw [Effect.added] at hps
  split at hps
  · cases hps
    exact hpieces
  · obtain ⟨word, hword, rfl⟩ := map_eq_ok_iff.1 hps
    have hjoin : t.Keeps word := by
      rw [Value.eq_plain_of_showPlain hword]
      unfold joinWord
      split
      · exact hlogical
      · exact hnames.1
    intro a
    simp [hpieces _, hjoin _]

/-- **One call.** Reading what it adds is reading the parenthesis of the group that it opens or
closes, if it does. -/
theorem readAll_added {call : Call} (hnames : ∀ s ∈ f.relation.plain :: call.names, t.Keeps s)
    (a : α) : t.readAll a (f.added call) = t.read a call.parenthesis?.toList := by
  rcases f.after_cases call with
    ⟨cause, hcause, -, hadded, -⟩ | ⟨effect, ps, heffect, hps, -, hadded⟩
  · rw [hadded]
    cases call with
    | openGroup relation => cases hcause
    | closeGroup => cases hcause
    | _ => rfl
  · rw [hadded, ← Call.parenthesis?_of_effect heffect]
    cases effect with
    | append part => exact keepsAll_added_append heffect hps hnames a
    | nothing =>
      cases hps
      rfl
    | openGroup relation =>
      cases hps
      split <;> rfl
    | closeGroup =>
      cases hps
      rfl

/-- **Calls one after another.** Reading what they add is reading the parentheses of the groups that
they open and close. -/
theorem readAll_addedAll {calls : List Call}
    (hnames : ∀ s ∈ f.relation.plain :: calls.flatMap Call.names, t.Keeps s) (a : α) :
    t.readAll a (f.addedAll calls) = t.read a (calls.filterMap Call.parenthesis?) := by
  induction calls generalizing f a with
  | nil => rfl
  | cons call rest ih =>
    rw [List.flatMap_cons, List.forall_mem_cons, List.forall_mem_append] at hnames
    obtain ⟨hrelation, hcall, hrest⟩ := hnames
    have hbefore : ∀ s ∈ f.relation.plain :: call.names, t.Keeps s :=
      List.forall_mem_cons.2 ⟨hrelation, hcall⟩
    have hafter : t.Keeps (f.after call).relation.plain := hbefore _ (relation_after_mem f call)
    rw [addedAll, readAll_append, readAll_added hbefore,
      ih (List.forall_mem_cons.2 ⟨hafter, hrest⟩), ← read_append]
    congr 1
    cases h : call.parenthesis? with
    | none => rw [List.filterMap_cons_none h]; rfl
    | some c => rw [List.filterMap_cons_some h]; rfl

end Tally

end OData
