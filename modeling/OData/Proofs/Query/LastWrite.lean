import Mathlib.Data.List.TakeWhile
import Mathlib.Logic.Relation
import OData.Proofs.Query.Fields
import OData.Proofs.Text.Padding

/-!
# The last write of each option decides

Options that are set by calls with texts and integers one after another.

* **What is written** (`decided_by_last_writes`): no call is refused, what is written has the names
  of the options in order, each at most once, and two sequences of calls are written alike if the
  last calls for each option agree, where blanks around texts, blank texts and the form of an order
  term do not count.
* **One equation** (`runAll_call`): a sequence of calls leaves what its last calls set.
* **Restyling** (`Alike.written_eq`): a list is written as its texts without blanks at their ends
  that are not empty (`Options.written`), which none of the changes touches.
-/

namespace OData

/-! ## Blanks around a text -/

namespace Text

/-- Whether a text holds blanks only. -/
def Blank (s : String) : Prop :=
  ∀ c ∈ s.toList, isBlank c = true

/-- Blanks around a text are stripped with its own. -/
theorem strip_pad {l r : String} (hl : Blank l) (hr : Blank r) (s : String) :
    strip (l ++ s ++ r) = strip s := by
  rw [← String.toList_inj, toList_strip, toList_strip, String.toList_append, String.toList_append]
  exact trimmed_pad hl hr s.toList

/-- A text is a stripped one with blanks around it. -/
theorem exists_padding (s : String) : ∃ l r, Blank l ∧ Blank r ∧ l ++ strip s ++ r = s := by
  obtain ⟨l, r, hl, hr, hs⟩ := exists_pad isBlank s.toList
  refine ⟨String.ofList l, String.ofList r, ?_, ?_, ?_⟩
  · rwa [Blank, String.toList_ofList]
  · rwa [Blank, String.toList_ofList]
  · rw [← String.toList_inj, String.toList_append, String.toList_append, String.toList_ofList,
      String.toList_ofList, toList_strip]
    exact hs

@[simp] theorem strip_strip (s : String) : strip (strip s) = strip s := by
  obtain ⟨l, r, hl, hr, hs⟩ := exists_padding s
  calc
    strip (strip s) = strip (l ++ strip s ++ r) := (strip_pad hl hr (strip s)).symm
    _ = strip s := by rw [hs]

/-- Nothing is left of a text that holds blanks only. -/
theorem strip_eq_empty_iff {s : String} : strip s = "" ↔ Blank s := by
  constructor
  · intro hempty
    obtain ⟨l, r, hl, hr, hs⟩ := exists_padding s
    rw [hempty, String.append_empty] at hs
    intro c hc
    rw [← hs, String.toList_append] at hc
    exact (List.mem_append.1 hc).elim (hl c) (hr c)
  · intro hblank
    have hnone : Blank "" := fun c hc => absurd hc (by simp)
    have hpad := strip_pad hblank hnone ""
    rwa [String.append_empty, String.append_empty] at hpad

end Text

namespace Options

/-! ## Lists that are written alike -/

/-- A change of a list of texts that does not count. -/
inductive Restyled : List String → List String → Prop where
  /-- A text with blanks around it. -/
  | pad (front back : List String) {l r : String} (hl : Text.Blank l) (hr : Text.Blank r)
      (s : String) : Restyled (front ++ s :: back) (front ++ (l ++ s ++ r) :: back)
  /-- One more text, which is blank. -/
  | insert (front back : List String) {s : String} (hs : Text.Blank s) :
      Restyled (front ++ back) (front ++ s :: back)

/-- Whether two lists of texts agree up to changes that do not count. -/
def Alike : List String → List String → Prop :=
  Relation.EqvGen Restyled

theorem written_append (a b : List String) : written (a ++ b) = written a ++ written b := by
  unfold written
  rw [List.map_append, List.filter_append]

theorem written_cons (s : String) (rest : List String) :
    written (s :: rest) = (if Text.strip s = "" then [] else [Text.strip s]) ++ written rest := by
  unfold written
  split <;> simp_all

/-- A change that does not count does not change what is written. -/
theorem Restyled.written_eq {a b : List String} (h : Restyled a b) : written a = written b := by
  cases h with
  | pad front back hl hr s =>
    rw [written_append, written_append, written_cons, written_cons, Text.strip_pad hl hr]
  | insert front back hs =>
    rw [written_append, written_append, written_cons, if_pos (Text.strip_eq_empty_iff.2 hs),
      List.nil_append]

/-- Nor do several. -/
theorem Alike.written_eq {a b : List String} (h : Alike a b) : written a = written b := by
  induction h with
  | rel a b h => exact h.written_eq
  | refl a => rfl
  | symm a b _ ih => exact ih.symm
  | trans a b c _ _ ihab ihbc => exact ihab.trans ihbc

/-- Something is written of a list exactly if one of its texts is not blank. -/
theorem written_ne_nil_iff {fields : List String} :
    written fields ≠ [] ↔ ∃ s ∈ fields, ¬ Text.Blank s := by
  simp only [written, ne_eq, List.filter_eq_nil_iff, List.mem_map, forall_exists_index, and_imp,
    forall_apply_eq_imp_iff₂, decide_eq_true_eq, not_not, not_forall, exists_prop,
    Text.strip_eq_empty_iff]

/-! ## Order terms -/

/-- What a direction that may be missing says. -/
inductive Directs : Option Value → String → Prop where
  /-- There is none. -/
  | missing : Directs none ""
  /-- It is absent. -/
  | absent : Directs (some .null) ""
  /-- It is a text. -/
  | text (direction : String) : Directs (some (.text direction)) direction

/-- A field and, unless it is empty, a direction after a space. -/
def worded (field direction : String) : String :=
  if direction = "" then field else field ++ " " ++ direction

/-- What an order term spells, as a text. -/
inductive Spells : Value → String → Prop where
  /-- A text spells itself. -/
  | text (s : String) : Spells (.text s) s
  /-- A sequence spells its first item, the field, and its second, the direction. -/
  | sequence {field direction : String} {rest : List Value} (h : Directs rest.head? direction) :
      Spells (.list (.text field :: rest)) (worded field direction)
  /-- An object spells the members of these names. -/
  | mapping {members : Members} {field direction : String}
      (hfield : members.lookup "field" = some (.text field))
      (h : Directs (members.lookup "direction") direction) :
      Spells (.object members) (worded field direction)

theorem Directs.directed_eq {d : Option Value} {direction : String} (h : Directs d direction)
    (field : String) : directed (.text field) (d.getD .null) = .ok (worded field direction) := by
  cases h with
  | missing => rfl
  | absent => rfl
  | text =>
    rw [Option.getD_some, directed, worded]
    by_cases hempty : direction = ""
    · simp [hempty, Value.truthy]
    · simp [hempty, Value.truthy, bind, Except.bind]

/-- A term is written as what it spells, up to blanks at the ends. -/
theorem Spells.exists_orderTerm {v : Value} {s : String} (h : Spells v s) :
    ∃ t, orderTerm v = .ok t ∧ Text.strip t = Text.strip s := by
  cases h with
  | text => exact ⟨Text.strip s, rfl, Text.strip_strip s⟩
  | @sequence field direction rest h =>
    refine ⟨_, ?_, rfl⟩
    rw [← h.directed_eq]
    cases rest <;> rfl
  | @mapping members field direction hfield h =>
    refine ⟨_, ?_, rfl⟩
    rw [← h.directed_eq, orderTerm, hfield]

/-- An order term, with what it spells. -/
structure Term where
  /-- The term as it is given. -/
  value : Value
  /-- What it spells. -/
  wording : String
  /-- It does spell that. -/
  spells : Spells value wording

/-- Terms are written as what they spell. -/
theorem exists_orderTexts_of_terms (terms : List Term) :
    ∃ texts, orderTexts (terms.map Term.value) = .ok texts ∧
      written texts = written (terms.map Term.wording) := by
  induction terms with
  | nil => exact ⟨[], rfl, rfl⟩
  | cons term rest ih =>
    obtain ⟨t, ht, hstrip⟩ := term.spells.exists_orderTerm
    obtain ⟨texts, htexts, hwritten⟩ := ih
    refine ⟨t :: texts, ?_, ?_⟩
    · rw [List.map_cons, orderTexts, ht, htexts]
      rfl
    · rw [List.map_cons, written_cons, written_cons, hstrip, hwritten]

/-! ## Calls one after another -/

/-- The options after a sequence of calls that stops at the first refused one. -/
def runAll (o : Options) : List Call → Except Fault Options
  | [] => .ok o
  | call :: rest => do
    let o ← o.run call
    o.runAll rest

/-- A call with a list of texts, a list of order terms, or an integer. -/
inductive Setting where
  /-- Selects fields. -/
  | select (fields : List String)
  /-- Expands properties. -/
  | expand (fields : List String)
  /-- Orders the records. -/
  | orderBy (terms : List Term)
  /-- Limits the number of records. -/
  | top (count : Int)
  /-- Leaves out records at the front. -/
  | skip (count : Int)

namespace Setting

/-- The call. -/
def call : Setting → Call
  | .select fields => .select (.list (fields.map .text))
  | .expand fields => .expand (.list (fields.map .text))
  | .orderBy terms => .orderBy (.list (terms.map Term.value))
  | .top count => .top (.int count)
  | .skip count => .skip (.int count)

/-- The fields that it selects, if it does. -/
def selected? : Setting → Option (List String)
  | .select fields => some fields
  | _ => none

/-- The properties that it expands, if it does. -/
def expanded? : Setting → Option (List String)
  | .expand fields => some fields
  | _ => none

/-- The terms that it orders by, if it does. -/
def terms? : Setting → Option (List Term)
  | .orderBy terms => some terms
  | _ => none

/-- The greatest number of records that it sets, if it does. -/
def top? : Setting → Option Int
  | .top count => some count
  | _ => none

/-- The number of records to leave out that it sets, if it does. -/
def skip? : Setting → Option Int
  | .skip count => some count
  | _ => none

end Setting

/-- What the last call that sets a part of the options sets it to. -/
def last? {α : Type} (part : Setting → Option α) (settings : List Setting) : Option α :=
  settings.reverse.findSome? part

theorem last?_cons {α : Type} (part : Setting → Option α) (s : Setting) (rest : List Setting) :
    last? part (s :: rest) = (last? part rest).or (part s) := by
  rw [last?, List.reverse_cons, List.findSome?_append, last?]
  cases h : part s <;> simp [h]

/-- Options with what the last of some calls set in the place of what was there. -/
def afterLast (o : Options) (settings : List Setting) : Options where
  selected := (last? Setting.selected? settings).elim o.selected (·.map .text)
  expanded := (last? Setting.expanded? settings).elim o.expanded (·.map .text)
  orderTerms := (last? Setting.terms? settings).elim o.orderTerms (·.map Term.value)
  top := (last? Setting.top? settings).or o.top
  skip := (last? Setting.skip? settings).or o.skip

/-- A call sets what it is the last call for. -/
theorem run_call (o : Options) (s : Setting) : o.run s.call = .ok (o.afterLast [s]) := by
  cases s <;> rfl

theorem afterLast_cons (o : Options) (s : Setting) (rest : List Setting) :
    o.afterLast (s :: rest) = (o.afterLast [s]).afterLast rest := by
  have hor {α β : Type} (x y : Option α) (z : β) (f : α → β) :
      (x.or y).elim z f = x.elim (y.elim z f) f := by
    cases x <;> rfl
  simp only [afterLast, last?_cons, hor, Option.or_assoc, Options.mk.injEq]
  exact ⟨rfl, rfl, rfl, rfl, rfl⟩

/-- **Calls leave what the last of them set.** -/
theorem runAll_call (o : Options) (settings : List Setting) :
    o.runAll (settings.map Setting.call) = .ok (o.afterLast settings) := by
  induction settings generalizing o with
  | nil => rfl
  | cons s rest ih =>
    rw [List.map_cons, runAll, run_call, afterLast_cons o s rest]
    exact ih (o.afterLast [s])

/-! ## What is written -/

/-- The fields that the last selection of some calls selects. -/
def lastSelected (settings : List Setting) : List String :=
  (last? Setting.selected? settings).getD []

/-- The properties that the last expansion of some calls expands. -/
def lastExpanded (settings : List Setting) : List String :=
  (last? Setting.expanded? settings).getD []

/-- What the terms of the last order of some calls spell. -/
def lastWordings (settings : List Setting) : List String :=
  ((last? Setting.terms? settings).getD []).map Term.wording

/-- Options that hold texts are written as their lists and then their counts. -/
theorem Holds.pairs_eq {o : Options} {selected expanded terms : List String}
    (h : o.Holds selected expanded terms) :
    o.pairs = (do
      let top ← counted "$top" o.top
      let skip ← counted "$skip" o.skip
      .ok (lists selected expanded terms ++ top ++ skip)) := by
  rw [pairs, h.selected, h.expanded, h.terms]
  simp only [bind, Except.bind, csv_text]
  rfl

/-- Calls leave options that hold what their last calls set. -/
theorem exists_holds_afterLast (settings : List Setting) :
    ∃ terms, (empty.afterLast settings).Holds (lastSelected settings) (lastExpanded settings)
      terms ∧ written terms = written (lastWordings settings) := by
  have hlist (fields : Option (List String)) :
      fields.elim [] (·.map Value.text) = (fields.getD []).map .text := by
    cases fields <;> rfl
  have hterms : (empty.afterLast settings).orderTerms =
      ((last? Setting.terms? settings).getD []).map Term.value := by
    unfold afterLast
    cases last? Setting.terms? settings <;> rfl
  obtain ⟨texts, htexts, hwritten⟩ :=
    exists_orderTexts_of_terms ((last? Setting.terms? settings).getD [])
  exact ⟨texts, ⟨hlist _, hlist _, hterms ▸ htexts⟩, hwritten⟩

/-- What is written after some calls is made of what the last of them set. -/
theorem pairs_afterLast (settings : List Setting) :
    (empty.afterLast settings).pairs = (do
      let top ← counted "$top" (last? Setting.top? settings)
      let skip ← counted "$skip" (last? Setting.skip? settings)
      .ok (lists (lastSelected settings) (lastExpanded settings) (lastWordings settings) ++ top ++
        skip)) := by
  obtain ⟨terms, hholds, hwritten⟩ := exists_holds_afterLast settings
  have hnone (count : Option Int) : count.or none = count := Option.or_none
  rw [hholds.pairs_eq]
  simp only [lists, hwritten, afterLast, empty, hnone]

theorem map_fst_listed_sublist (name text : String) :
    ((listed name text).map Prod.fst).Sublist [name] := by
  unfold listed
  split
  · exact List.nil_sublist [name]
  · exact List.Sublist.refl [name]

theorem map_fst_shown_sublist (name : String) (count : Option Int) :
    ((shown name count).map Prod.fst).Sublist [name] := by
  cases count with
  | none => exact List.nil_sublist [name]
  | some n => exact List.Sublist.refl [name]

/-- The names of options are written in their order. -/
theorem map_fst_sublist_names (selected expanded terms : List String) (top skip : Option Int) :
    ((lists selected expanded terms ++ shown "$top" top ++ shown "$skip" skip).map
      Prod.fst).Sublist names := by
  simp only [lists, List.map_append]
  exact ((((map_fst_listed_sublist "$select" _).append (map_fst_listed_sublist "$expand" _)).append
    (map_fst_listed_sublist "$orderby" _)).append (map_fst_shown_sublist "$top" top)).append
    (map_fst_shown_sublist "$skip" skip)

theorem name_mem_listed_iff {name other : String} {fields : List String} :
    name ∈ (listed other (String.intercalate "," (written fields))).map Prod.fst ↔
      name = other ∧ ∃ s ∈ fields, ¬ Text.Blank s := by
  rw [← written_ne_nil_iff, ne_eq, ← csv_eq_empty_iff]
  simp only [List.mem_map, mem_listed, Prod.exists, Prod.mk.injEq, exists_and_right,
    exists_eq_right]

theorem name_mem_shown_iff {name other : String} {count : Option Int} :
    name ∈ (shown other count).map Prod.fst ↔ name = other ∧ ∃ n, count = some n := by
  cases count <;> simp [shown]

/-- What is true of the options that some calls leave. -/
structure Leaves (settings : List Setting) (o : Options) : Prop where
  /-- They can be written exactly if the counts that were set have few enough digits. -/
  exists_pairs : (∃ ps, o.pairs = .ok ps) ↔
    (∀ n ∈ last? Setting.top? settings, showableInteger n = true) ∧
      ∀ n ∈ last? Setting.skip? settings, showableInteger n = true
  /-- They are written with their names in order. -/
  ordered : ∀ ps, o.pairs = .ok ps → (ps.map Prod.fst).Sublist names
  /-- No name is written twice. -/
  once : ∀ ps, o.pairs = .ok ps → (ps.map Prod.fst).Nodup
  /-- Fields are selected exactly if one of the last ones is not blank. -/
  select : ∀ ps, o.pairs = .ok ps →
    ("$select" ∈ ps.map Prod.fst ↔ ∃ s ∈ lastSelected settings, ¬ Text.Blank s)
  /-- Properties are expanded exactly if one of the last ones is not blank. -/
  expand : ∀ ps, o.pairs = .ok ps →
    ("$expand" ∈ ps.map Prod.fst ↔ ∃ s ∈ lastExpanded settings, ¬ Text.Blank s)
  /-- Records are ordered exactly if one of the last terms is not blank. -/
  orderby : ∀ ps, o.pairs = .ok ps →
    ("$orderby" ∈ ps.map Prod.fst ↔ ∃ s ∈ lastWordings settings, ¬ Text.Blank s)
  /-- The number of records is limited exactly if a limit was set. -/
  top : ∀ ps, o.pairs = .ok ps →
    ("$top" ∈ ps.map Prod.fst ↔ ∃ n, last? Setting.top? settings = some n)
  /-- Records are left out exactly if their number was set. -/
  skip : ∀ ps, o.pairs = .ok ps →
    ("$skip" ∈ ps.map Prod.fst ↔ ∃ n, last? Setting.skip? settings = some n)

theorem leaves_afterLast (settings : List Setting) :
    Leaves settings (empty.afterLast settings) := by
  have hpairs (ps : List (String × String)) : (empty.afterLast settings).pairs = .ok ps ↔
      ((∀ n ∈ last? Setting.top? settings, showableInteger n = true) ∧
        ∀ n ∈ last? Setting.skip? settings, showableInteger n = true) ∧
        ps = lists (lastSelected settings) (lastExpanded settings) (lastWordings settings) ++
          shown "$top" (last? Setting.top? settings) ++
          shown "$skip" (last? Setting.skip? settings) := by
    rw [pairs_afterLast]
    simp only [bind_eq_ok_iff, counted_eq_ok_iff, Except.ok.injEq]
    constructor
    · rintro ⟨_, ⟨htop, rfl⟩, _, ⟨hskip, rfl⟩, rfl⟩
      exact ⟨⟨htop, hskip⟩, rfl⟩
    · rintro ⟨⟨htop, hskip⟩, rfl⟩
      exact ⟨_, ⟨htop, rfl⟩, _, ⟨hskip, rfl⟩, rfl⟩
  have hordered (ps : List (String × String)) (h : (empty.afterLast settings).pairs = .ok ps) :
      (ps.map Prod.fst).Sublist names := by
    rw [((hpairs ps).1 h).2]
    exact map_fst_sublist_names _ _ _ _ _
  constructor
  case exists_pairs => simp only [hpairs, exists_and_left, exists_eq, and_true]
  case ordered => exact hordered
  case once =>
    intro ps h
    exact (hordered ps h).nodup (by decide)
  -- of the five parts that are written, the one with the name decides
  all_goals
    intro ps h
    rw [((hpairs ps).1 h).2]
    simp [lists, name_mem_listed_iff, name_mem_shown_iff, -List.mem_map]

/-- Whether some calls set in the end what others do, up to changes of lists that do not count. -/
structure SameInTheEnd (settings others : List Setting) : Prop where
  /-- The same fields are selected. -/
  selected : Option.Rel Alike (last? Setting.selected? settings) (last? Setting.selected? others)
  /-- The same properties are expanded. -/
  expanded : Option.Rel Alike (last? Setting.expanded? settings) (last? Setting.expanded? others)
  /-- The terms spell the same. -/
  terms : Option.Rel (fun s t => Alike (s.map Term.wording) (t.map Term.wording))
    (last? Setting.terms? settings) (last? Setting.terms? others)
  /-- The number of records is limited alike. -/
  top : last? Setting.top? settings = last? Setting.top? others
  /-- The same number of records is left out. -/
  skip : last? Setting.skip? settings = last? Setting.skip? others

/-- Lists that spell the same in the end are written alike. -/
theorem written_eq_of_rel {α : Type} (wordings : List α → List String) {a b : Option (List α)}
    (h : Option.Rel (fun s t => Alike (wordings s) (wordings t)) a b) :
    written (wordings (a.getD [])) = written (wordings (b.getD [])) := by
  cases h with
  | none => rfl
  | some h => exact h.written_eq

/-- Calls that set the same in the end leave options that are written alike. -/
theorem SameInTheEnd.pairs_eq {settings others : List Setting} (h : SameInTheEnd settings others) :
    (empty.afterLast others).pairs = (empty.afterLast settings).pairs := by
  have hselected : written (lastSelected settings) = written (lastSelected others) :=
    written_eq_of_rel id h.selected
  have hexpanded : written (lastExpanded settings) = written (lastExpanded others) :=
    written_eq_of_rel id h.expanded
  have hterms : written (lastWordings settings) = written (lastWordings others) :=
    written_eq_of_rel (·.map Term.wording) h.terms
  simp only [pairs_afterLast, lists, hselected, hexpanded, hterms, h.top, h.skip]

/-- **The last write of each option decides.** Calls with lists of texts, order terms and integers,
made one after another, are never refused. What is written afterwards has the names of the options
in order and none of them twice, a count exactly if it was set, and a list exactly if one of its
last texts is not blank. Other calls that set the same in the end leave options that are written
alike, or cannot be written alike. -/
theorem decided_by_last_writes (settings : List Setting) :
    ∃ o, empty.runAll (settings.map Setting.call) = .ok o ∧ Leaves settings o ∧
      ∀ others, SameInTheEnd settings others →
        ∃ p, empty.runAll (others.map Setting.call) = .ok p ∧ p.pairs = o.pairs ∧
          p.render = o.render := by
  refine ⟨_, runAll_call empty settings, leaves_afterLast settings, fun others h => ?_⟩
  refine ⟨_, runAll_call empty others, h.pairs_eq, ?_⟩
  rw [render, render, h.pairs_eq]

/-- Two listings in the order of price and city. In the second one blanks are put around a field,
blank texts are added, and each term is given in another form; what either sets before its last
calls does not count. -/
theorem decided_by_last_writes_of_two_listings :
    let byPrice : Term := ⟨.list [.text "ListPrice", .text "desc"], worded "ListPrice" "desc",
      @Spells.sequence _ _ [_] (.text "desc")⟩
    let byCity : Term := ⟨.text "City", "City", .text "City"⟩
    let named : Term := ⟨.object [("direction", .text "desc"), ("field", .text "ListPrice")],
      worded "ListPrice" "desc", .mapping rfl (Directs.text "desc")⟩
    let single : Term := ⟨.list [.text "City"], worded "City" "", @Spells.sequence _ _ [] .missing⟩
    let blank : Term := ⟨.text " ", " ", .text " "⟩
    let settings : List Setting := [.select ["Id"], .top 25, .orderBy [byPrice, byCity],
      .skip (-1), .select ["City", "ListPrice"], .top 0]
    let others : List Setting := [.top 0, .orderBy [named, blank, single],
      .select ["City\u3000", "", "ListPrice"], .skip (-1)]
    SameInTheEnd settings others ∧
      ∃ p, empty.runAll (others.map Setting.call) = .ok p ∧
        p.render = .ok "$select=City,ListPrice&$orderby=ListPrice desc,City&$top=0&$skip=-1" := by
  intro byPrice byCity named single blank settings others
  have hblank (s : String) (h : s.toList.all Text.isBlank = true) : Text.Blank s :=
    List.all_eq_true.1 h
  have hselected : Alike ["City", "ListPrice"] ["City\u3000", "", "ListPrice"] := by
    have hpad : Restyled ["City", "ListPrice"] ["" ++ "City" ++ "\u3000", "ListPrice"] :=
      .pad [] ["ListPrice"] (hblank "" rfl) (hblank "\u3000" rfl) "City"
    exact .trans _ _ _ (.rel _ _ hpad) (.rel _ _ (.insert ["City\u3000"] ["ListPrice"]
      (hblank "" rfl)))
  have hterms : Alike ([byPrice, byCity].map Term.wording)
      ([named, blank, single].map Term.wording) :=
    .rel _ _ (.insert ["ListPrice desc"] ["City"] (hblank " " rfl))
  have hsame : SameInTheEnd settings others :=
    ⟨.some hselected, .none, .some hterms, rfl, rfl⟩
  obtain ⟨o, ho, -, hothers⟩ := decided_by_last_writes settings
  obtain ⟨p, hp, -, hrender⟩ := hothers others hsame
  cases ho
  exact ⟨hsame, p, hp, hrender⟩

end Options

end OData
