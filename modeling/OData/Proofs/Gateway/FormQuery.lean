import OData.Gateway.Form
import OData.Proofs.Query.ReadBack

/-!
# The query of a form

What the calls of a form leave: the resource, the lists and counts as the form gives them, and a
page size held below the cap.

* **The resource** (`base_of_query`).
* **The options** (`options_of_top`): for a page size as it was capped, of which `options_of_query`
  is the case of a cap that is an integer. The clauses of the filter change nothing of them.
-/

namespace OData

/-- The lesser of two integers. -/
theorem Value.lesser_int (n m : Int) : (Value.int m).lesser n = .ok (.int (min n m)) := by
  change Except.ok (if m < n then Value.int m else Value.int n) = .ok (.int (min n m))
  split
  · rw [Int.min_eq_right (by omega)]
  · rw [Int.min_eq_left (by omega)]

namespace Query

variable {q next : Query}

/-- Calls after calls are made one after another. -/
theorem runAll_append (q : Query) (first second : List Call) :
    q.runAll (first ++ second) = q.runAll first >>= fun q => q.runAll second := by
  induction first generalizing q with
  | nil => rfl
  | cons call rest ih =>
    rw [List.cons_append, runAll, runAll]
    cases q.run call with
    | error cause => rfl
    | ok q => exact ih q

theorem runAll_append_of_ok {middle : Query} {first : List Call}
    (h : q.runAll first = .ok middle) (second : List Call) :
    q.runAll (first ++ second) = middle.runAll second := by
  rw [runAll_append, h]
  rfl

/-- No call changes the resource. -/
theorem base_of_runAll {calls : List Call} (h : q.runAll calls = .ok next) :
    next.base = q.base := by
  induction calls generalizing q with
  | nil =>
    cases h
    rfl
  | cons call rest ih =>
    obtain ⟨middle, hmiddle, hrest⟩ := bind_eq_ok_iff.1 h
    rw [ih hrest, base_of_run hmiddle]

/-- Calls on the filter leave the options as they are. -/
theorem options_of_runAll_filter {calls : List Filter.Call}
    (h : q.runAll (calls.map .filter) = .ok next) : next.options = q.options := by
  induction calls generalizing q with
  | nil =>
    cases h
    rfl
  | cons call rest ih =>
    obtain ⟨middle, hmiddle, hrest⟩ := bind_eq_ok_iff.1 h
    obtain ⟨f, -, rfl⟩ := runFilter_eq_ok_iff.1 hmiddle
    have hnext := ih hrest
    exact hnext

end Query

namespace Gateway

/-- An order term as it is written. -/
def OrderTerm.text (t : OrderTerm) : String :=
  match t.direction with
  | none => t.field
  | some direction => t.field ++ " " ++ direction.word

/-- An order term is written as its field and, if it has one, its direction. -/
theorem OrderTerm.orderTerm_value (t : OrderTerm) : Options.orderTerm t.value = .ok t.text := by
  obtain ⟨field, direction⟩ := t
  cases direction with
  | none => rfl
  | some direction => cases direction <;> rfl

namespace Form

variable {f : Form} {q : Query}

/-- The fields that a form selects. -/
def selected (f : Form) : List String := f.select.getD []

/-- The properties that a form expands. -/
def expanded (f : Form) : List String := f.expand.getD []

/-- The order terms of a form. -/
def terms (f : Form) : List OrderTerm := f.orderBy.getD []

/-- The page size that a form wants, if it wants one. -/
def wanted (f : Form) : Option Int := f.top.map fun n : Nat => (n : Int)

/-- The page size that a form asks for below a cap: the cap, if it wants no other. -/
def pageSize (f : Form) (cap : Int) : Int :=
  match f.top with
  | none => cap
  | some n => min n cap

/-- Without a cap, a form sets the page size that it wants. -/
theorem cappedTop_null (f : Form) :
    cappedTop f.top .null = .ok (f.wanted.elim .null .int) := by
  unfold cappedTop wanted
  cases f.top <;> rfl

/-- Below a cap that is an integer, a form sets a page size in any case. -/
theorem cappedTop_int (f : Form) (cap : Int) :
    cappedTop f.top (.int cap) = .ok ((some (f.pageSize cap)).elim .null .int) := by
  unfold cappedTop pageSize
  cases f.top with
  | none => rfl
  | some n => exact Value.lesser_int n cap

/-- The query of a form is for the form's resource. -/
theorem base_of_query {cap : Value} (h : f.query cap = .ok q) : q.base = .text f.resource := by
  obtain ⟨top, -, hrun⟩ := bind_eq_ok_iff.1 h
  exact Query.base_of_runAll hrun

/-- The options that a form sets below a cap. -/
def options (f : Form) (cap : Int) : Options where
  selected := f.selected.map .text
  expanded := f.expanded.map .text
  orderTerms := f.terms.map OrderTerm.value
  top := some (f.pageSize cap)
  skip := f.skip.map fun n => (n : Int)

/-- The options that a form sets with the given page size, or without one. -/
def optionsAt (f : Form) (top : Option Int) : Options where
  selected := f.selected.map .text
  expanded := f.expanded.map .text
  orderTerms := f.terms.map OrderTerm.value
  top := top
  skip := f.skip.map fun n => (n : Int)

/-- A query for the resource of a form with the given options and without a filter. -/
def plainQuery (f : Form) (o : Options) : Query := ⟨.text f.resource, .empty, o⟩

/-- A list that is empty needs no call to be set, since the options start without any. -/
theorem runAll_listCall {call : Value → Options.Call} (set : Options → List Value → Options)
    (hrun : ∀ o items, Options.run o (call (.list items)) = .ok (set o items)) (q : Query)
    (hempty : set q.options [] = q.options) (items : List Value) :
    q.runAll (listCall call items) = .ok { q with options := set q.options items } := by
  unfold listCall
  cases items with
  | nil =>
    rw [hempty]
    rfl
  | cons v rest =>
    show (Options.run q.options (call (.list (v :: rest))) >>= _) >>= _ = _
    rw [hrun]
    rfl

/-- The calls that set the lists of a form set its fields, its properties and its order terms. -/
theorem runAll_lists (f : Form) :
    (f.plainQuery .empty).runAll (listCall .select (f.selected.map .text) ++
        listCall .expand (f.expanded.map .text) ++
        listCall .orderBy (f.terms.map OrderTerm.value)) =
      .ok (f.plainQuery ⟨f.selected.map .text, f.expanded.map .text,
        f.terms.map OrderTerm.value, none, none⟩) := by
  have hselect : (f.plainQuery .empty).runAll (listCall .select (f.selected.map .text)) =
      .ok (f.plainQuery ⟨f.selected.map .text, [], [], none, none⟩) :=
    runAll_listCall (fun o items => { o with selected := items }) (fun _ _ => rfl) _ rfl _
  have hexpand : (f.plainQuery ⟨f.selected.map .text, [], [], none, none⟩).runAll
      (listCall .expand (f.expanded.map .text)) =
      .ok (f.plainQuery ⟨f.selected.map .text, f.expanded.map .text, [], none, none⟩) :=
    runAll_listCall (fun o items => { o with expanded := items }) (fun _ _ => rfl) _ rfl _
  rw [Query.runAll_append_of_ok ((Query.runAll_append_of_ok hselect _).trans hexpand)]
  exact runAll_listCall (fun o items => { o with orderTerms := items }) (fun _ _ => rfl) _ rfl _

/-- The calls of a form set its options, and then those of its clauses are made. -/
theorem query_of_top {cap : Value} {top : Option Int}
    (htop : cappedTop f.top cap = .ok (top.elim .null .int)) :
    f.query cap =
      (f.plainQuery (f.optionsAt top)).runAll ((f.filters.map Clause.call).map .filter) := by
  have hclauses : f.filters.map (fun clause => Query.Call.filter clause.call) =
      (f.filters.map Clause.call).map .filter := by
    rw [List.map_map]
    rfl
  have hsize (o : Options) (ho : o.top = none) :
      (f.plainQuery o).runAll (countCall .top (top.elim .null .int)) =
        .ok (f.plainQuery { o with top := top }) := by
    cases top with
    | none => exact congrArg (fun top => Except.ok (f.plainQuery { o with top := top })) ho
    | some n => rfl
  have hskip (o : Options) (ho : o.skip = none) :
      (f.plainQuery o).runAll (countCall .skip ((f.skip.map fun n => Value.int n).getD .null)) =
        .ok (f.plainQuery { o with skip := f.skip.map fun n => (n : Int) }) := by
    cases f.skip with
    | none => exact congrArg (fun skip => Except.ok (f.plainQuery { o with skip := skip })) ho
    | some n => rfl
  have hsized := (Query.runAll_append_of_ok f.runAll_lists _).trans (hsize _ rfl)
  have hoptions := (Query.runAll_append_of_ok hsized _).trans (hskip _ rfl)
  rw [query, htop, ← hclauses]
  exact Query.runAll_append_of_ok hoptions _

/-- Below a cap that is an integer, a form sets a page size. -/
theorem query_int (f : Form) (cap : Int) :
    f.query (.int cap) =
      (f.plainQuery (f.options cap)).runAll ((f.filters.map Clause.call).map .filter) :=
  query_of_top (f.cappedTop_int cap)

/-- The query of a form has the options that the form sets with the page size it is given. -/
theorem options_of_top {cap : Value} {top : Option Int}
    (htop : cappedTop f.top cap = .ok (top.elim .null .int)) (h : f.query cap = .ok q) :
    q.options = f.optionsAt top := by
  rw [query_of_top htop] at h
  exact Query.options_of_runAll_filter h

/-- The query of a form has the options that the form sets. -/
theorem options_of_query {cap : Int} (h : f.query (.int cap) = .ok q) :
    q.options = f.options cap :=
  options_of_top (f.cappedTop_int cap) h

/-- The options of a form are written as its fields, properties and order terms. -/
theorem holds_optionsAt (f : Form) (top : Option Int) :
    (f.optionsAt top).Holds f.selected f.expanded (f.terms.map OrderTerm.text) := by
  refine ⟨rfl, rfl, ?_⟩
  show Options.orderTexts (f.terms.map OrderTerm.value) = _
  induction f.terms with
  | nil => rfl
  | cons t rest ih =>
    rw [List.map_cons, Options.orderTexts, t.orderTerm_value, ih]
    rfl

theorem holds_options (f : Form) (cap : Int) :
    (f.options cap).Holds f.selected f.expanded (f.terms.map OrderTerm.text) :=
  f.holds_optionsAt (some (f.pageSize cap))

end Form

end Gateway

end OData
