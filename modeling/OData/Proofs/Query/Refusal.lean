import OData.Proofs.Filter.Refusal
import OData.Proofs.Query.ReadBack
import OData.Proofs.Value.Showable

/-!
# When a query under construction fails

The calls on a query may be refused, and an option that was accepted may not be writable later.

* **Whole constructions** (`builds_iff`): calls with arguments of the kinds that they are declared
  with are made, and after each of them the query has an address and options, exactly if every call
  can be shown: its values and counts have few enough digits, and its order terms name a field
  (`Call.canBeShown`).
* **One call** (`exists_run_iff`): it is made and leaves a query that builds exactly if it can be
  shown.
* **Terms without a field** (`not_builds_of_unshown`).
-/

namespace OData

/-! ## Options -/

namespace Options

/-- A term that orders records: a field, a sequence of texts, or an object of texts. -/
inductive IsTerm : Value → Prop where
  /-- A field. -/
  | field (name : String) : IsTerm (.text name)
  /-- A sequence, of which the first item is the field. -/
  | sequence (texts : List String) : IsTerm (.list (texts.map .text))
  /-- An object with the field as a member. -/
  | mapping (members : List (String × String)) :
      IsTerm (.object (members.map fun m => (m.1, .text m.2)))

/-- Whether a term says which field it is about: an empty sequence does not, and an object does by
the member of that name. -/
def namesField : Value → Bool
  | .list [] => false
  | .object members => (members.lookup "field").isSome
  | _ => true

/-- What is looked up among members that are texts is a text. -/
theorem exists_text_of_lookup {members : List (String × String)} {key : String} {v : Value}
    (h : (members.map fun m => (m.1, Value.text m.2)).lookup key = some v) :
    ∃ s, v = .text s := by
  obtain ⟨before, after, heq, -⟩ := List.lookup_eq_some_iff.1 h
  have hmem : (key, v) ∈ members.map fun m => (m.1, Value.text m.2) := by simp [heq]
  obtain ⟨m, -, hm⟩ := List.mem_map.1 hmem
  exact ⟨m.2, (Prod.mk.inj hm).2.symm⟩

/-- A field and a direction that are texts make a term. -/
theorem exists_directed_text (field : String) {direction : Value}
    (h : direction = .null ∨ ∃ s, direction = .text s) :
    ∃ s, directed (.text field) direction = .ok s := by
  unfold directed
  rcases h with rfl | ⟨s, rfl⟩
  · exact ⟨field, rfl⟩
  · split
    · exact ⟨_, rfl⟩
    · exact ⟨_, rfl⟩

/-- A term can be written exactly if it says which field it is about. -/
theorem exists_orderTerm_iff {v : Value} (h : IsTerm v) :
    (∃ s, orderTerm v = .ok s) ↔ namesField v = true := by
  cases h with
  | field name => exact iff_of_true ⟨_, rfl⟩ rfl
  | sequence texts =>
    cases texts with
    | nil => exact iff_of_false (fun ⟨_, hs⟩ => nomatch hs) (by decide)
    | cons field rest =>
      refine iff_of_true ?_ rfl
      cases rest with
      | nil => exact exists_directed_text field (Or.inl rfl)
      | cons direction rest => exact exists_directed_text field (Or.inr ⟨direction, rfl⟩)
  | mapping members =>
    unfold orderTerm namesField
    dsimp only
    cases hfield : (members.map fun m => (m.1, Value.text m.2)).lookup "field" with
    | none => exact iff_of_false (fun ⟨_, hs⟩ => nomatch hs) (by decide)
    | some v =>
      obtain ⟨field, rfl⟩ := exists_text_of_lookup hfield
      refine iff_of_true (exists_directed_text field ?_) rfl
      cases hdirection : (members.map fun m => (m.1, Value.text m.2)).lookup "direction" with
      | none => exact Or.inl rfl
      | some direction => exact Or.inr (exists_text_of_lookup hdirection)

/-- Terms can be written exactly if each can. -/
theorem exists_orderTexts_iff {items : List Value} :
    (∃ terms, orderTexts items = .ok terms) ↔ ∀ v ∈ items, ∃ s, orderTerm v = .ok s := by
  induction items with
  | nil => exact iff_of_true ⟨[], rfl⟩ fun _ hv => absurd hv List.not_mem_nil
  | cons v rest ih =>
    rw [List.forall_mem_cons, ← ih]
    constructor
    · rintro ⟨terms, hterms⟩
      obtain ⟨term, hterm, hterms⟩ := bind_eq_ok_iff.1 hterms
      obtain ⟨others, hothers, -⟩ := bind_eq_ok_iff.1 hterms
      exact ⟨⟨term, hterm⟩, others, hothers⟩
    · rintro ⟨⟨term, hterm⟩, terms, hterms⟩
      exact ⟨term :: terms, bind_eq_ok_iff.2 ⟨term, hterm, bind_eq_ok_iff.2 ⟨terms, hterms, rfl⟩⟩⟩

/-- Whether all values are texts. -/
def AllTexts (vs : List Value) : Prop :=
  ∃ texts : List String, vs = texts.map .text

/-- A call that sets an option from values of the kinds that it is declared with. -/
inductive Call.Typed : Call → Prop where
  /-- Fields that are texts. -/
  | select {fields : Value} {items : List Value} (hfields : fields.elements = .ok items)
      (hitems : AllTexts items) : Typed (.select fields)
  /-- Properties that are texts. -/
  | expand {fields : Value} {items : List Value} (hfields : fields.elements = .ok items)
      (hitems : AllTexts items) : Typed (.expand fields)
  /-- Terms. -/
  | orderBy {terms : Value} {items : List Value} (hterms : terms.elements = .ok items)
      (hitems : ∀ v ∈ items, IsTerm v) : Typed (.orderBy terms)
  /-- A count. -/
  | top {n : Int} : Typed (.top (.int n))
  /-- A count. -/
  | skip {n : Int} : Typed (.skip (.int n))

/-- Whether what a call sets can be written: terms that name their fields, and counts with few
enough digits. -/
def Call.canBeShown : Call → Bool
  | .select _ => true
  | .expand _ => true
  | .orderBy terms => (terms.elements.toOption.getD []).all namesField
  | .top count => count.showable
  | .skip count => count.showable

/-- Options of which the lists hold texts and all parts can be written. -/
structure Ready (o : Options) : Prop where
  /-- The selected fields are texts. -/
  selected : AllTexts o.selected
  /-- The expanded properties are texts. -/
  expanded : AllTexts o.expanded
  /-- The terms can be written. -/
  terms : ∀ v ∈ o.orderTerms, ∃ s, orderTerm v = .ok s
  /-- The greatest number of records can be shown. -/
  top : ∀ n ∈ o.top, showableInteger n = true
  /-- The number of records left out can be shown. -/
  skip : ∀ n ∈ o.skip, showableInteger n = true

theorem ready_empty : empty.Ready :=
  ⟨⟨[], rfl⟩, ⟨[], rfl⟩, fun _ hv => absurd hv List.not_mem_nil,
    fun _ hn => absurd hn (Option.not_mem_none _), fun _ hn => absurd hn (Option.not_mem_none _)⟩

/-- Options with lists of texts can be written exactly if they are ready. -/
theorem exists_pairs_iff {o : Options} (hselected : AllTexts o.selected)
    (hexpanded : AllTexts o.expanded) : (∃ ps, o.pairs = .ok ps) ↔ o.Ready := by
  obtain ⟨selected, hselected⟩ := hselected
  obtain ⟨expanded, hexpanded⟩ := hexpanded
  constructor
  · rintro ⟨ps, hps⟩
    have hterms : ∃ terms, orderTexts o.orderTerms = .ok terms := by
      obtain ⟨_, _, h⟩ := bind_eq_ok_iff.1 hps
      obtain ⟨_, _, h⟩ := bind_eq_ok_iff.1 h
      obtain ⟨terms, hterms, -⟩ := bind_eq_ok_iff.1 h
      exact ⟨terms, hterms⟩
    obtain ⟨terms, hterms⟩ := hterms
    have hholds : o.Holds selected expanded terms := ⟨hselected, hexpanded, hterms⟩
    obtain ⟨⟨htop, hskip⟩, -⟩ := hholds.pairs_eq_ok_iff.1 hps
    exact ⟨⟨selected, hselected⟩, ⟨expanded, hexpanded⟩, exists_orderTexts_iff.1 ⟨terms, hterms⟩,
      htop, hskip⟩
  · intro h
    obtain ⟨terms, hterms⟩ := exists_orderTexts_iff.2 h.terms
    have hholds : o.Holds selected expanded terms := ⟨hselected, hexpanded, hterms⟩
    exact ⟨_, hholds.pairs_eq_ok_iff.2 ⟨⟨h.top, h.skip⟩, rfl⟩⟩

/-- What a call sets is in the place of what was there. -/
theorem exists_run {o : Options} (ho : o.Ready) {call : Call} (h : call.Typed) :
    ∃ next, o.run call = .ok next ∧ AllTexts next.selected ∧ AllTexts next.expanded ∧
      (next.Ready ↔ call.canBeShown = true) := by
  obtain ⟨hselected, hexpanded, hterms, htop, hskip⟩ := ho
  have hcount {n : Int} : (∀ m ∈ some n, showableInteger m = true) ↔
      (Value.int n).showable = true :=
    ⟨fun h => h n rfl, fun h m hm => Option.mem_some_iff.1 hm ▸ h⟩
  cases h with
  | @select fields items hfields hitems =>
    refine ⟨{ o with selected := items }, ?_, hitems, hexpanded, ?_⟩
    · exact bind_eq_ok_iff.2 ⟨items, hfields, rfl⟩
    · exact iff_of_true ⟨hitems, hexpanded, hterms, htop, hskip⟩ rfl
  | @expand fields items hfields hitems =>
    refine ⟨{ o with expanded := items }, ?_, hselected, hitems, ?_⟩
    · exact bind_eq_ok_iff.2 ⟨items, hfields, rfl⟩
    · exact iff_of_true ⟨hselected, hitems, hterms, htop, hskip⟩ rfl
  | @orderBy terms items hitems hare =>
    have hshown : (∀ v ∈ items, ∃ s, orderTerm v = .ok s) ↔
        (Call.orderBy terms).canBeShown = true := by
      show _ ↔ (terms.elements.toOption.getD []).all namesField = true
      rw [hitems, List.all_eq_true]
      exact forall₂_congr fun v hv => exists_orderTerm_iff (hare v hv)
    refine ⟨{ o with orderTerms := items }, ?_, hselected, hexpanded, ?_⟩
    · exact bind_eq_ok_iff.2 ⟨items, hitems, rfl⟩
    · rw [← hshown]
      exact ⟨fun h => h.terms, fun h => ⟨hselected, hexpanded, h, htop, hskip⟩⟩
  | @top n =>
    refine ⟨{ o with top := some n }, rfl, hselected, hexpanded, ?_⟩
    exact ⟨fun h => hcount.1 h.top, fun h => ⟨hselected, hexpanded, hterms, hcount.2 h, hskip⟩⟩
  | @skip n =>
    refine ⟨{ o with skip := some n }, rfl, hselected, hexpanded, ?_⟩
    exact ⟨fun h => hcount.1 h.skip, fun h => ⟨hselected, hexpanded, hterms, htop, hcount.2 h⟩⟩

end Options

/-! ## Queries -/

namespace Query

/-- A call with arguments of the kinds that it is declared with. `addFilter` takes those of the call
that it makes. -/
inductive Call.Typed : Call → Prop where
  /-- A call that sets an option. -/
  | option {call : Options.Call} (h : call.Typed) : Typed (.option call)
  /-- A call on the filter. -/
  | filter {call : Filter.Call} (h : call.Typed) : Typed (.filter call)
  /-- A call that chooses one on the filter. -/
  | addFilter {field : Subject} {operator value logical function : Value}
      (hfunction : function = .null ∨ ∃ name, function = .text name)
      (h : (filterCall field operator value logical function).Typed) :
      Typed (.addFilter field operator value logical function)

/-- Whether what a call writes, and what it leaves to be written later, can be shown. -/
def Call.canBeShown : Call → Bool
  | .option call => call.canBeShown
  | .filter call => call.shown.all Value.showable
  | .addFilter field operator value logical function =>
    (filterCall field operator value logical function).shown.all Value.showable

/-- Whether a query has an address and options. Its filter always has an expression. -/
structure Builds (q : Query) : Prop where
  /-- There is an address. -/
  address : ∃ url, q.address = .ok url
  /-- There are options. -/
  pairs : ∃ ps, q.options.pairs = .ok ps

/-- What calls keep of a query that builds. -/
structure Ready (q : Query) : Prop where
  /-- The resource is a text. -/
  base : ∃ base, q.base = .text base
  /-- The options can be written. -/
  options : q.options.Ready
  /-- The filter is joined by texts. -/
  filter : q.filter.Tracked

theorem ready_ofBase (base : String) : (ofBase (.text base)).Ready :=
  ⟨⟨base, rfl⟩, Options.ready_empty, Or.inl rfl⟩

/-- A query for a text builds exactly if its options can be written. -/
theorem builds_iff_pairs {q : Query} {base : String} (hbase : q.base = .text base) :
    q.Builds ↔ ∃ ps, q.options.pairs = .ok ps := by
  constructor
  · exact fun h => h.pairs
  · rintro ⟨ps, hps⟩
    exact ⟨⟨_, (address_eq_ok_iff hbase).2 ⟨ps, hps, rfl⟩⟩, ps, hps⟩

/-- A query that is ready builds. -/
theorem Ready.builds {q : Query} (h : q.Ready) : q.Builds := by
  obtain ⟨base, hbase⟩ := h.base
  rw [builds_iff_pairs hbase, Options.exists_pairs_iff h.options.selected h.options.expanded]
  exact h.options

/-- A call on the filter is made exactly if the values that it has to show can be shown, and it
leaves a query that is ready. -/
theorem exists_runFilter_iff {q : Query} (hq : q.Ready) {call : Filter.Call} (h : call.Typed) :
    (∃ next, q.runFilter call = .ok next ∧ next.Ready) ↔ ∀ v ∈ call.shown, v.showable = true := by
  rw [← Filter.exists_run_iff hq.filter h]
  constructor
  · rintro ⟨next, hnext, hready⟩
    obtain ⟨f, hf, rfl⟩ := runFilter_eq_ok_iff.1 hnext
    exact ⟨f, hf, hready.filter⟩
  · rintro ⟨f, hf, htracked⟩
    refine ⟨⟨q.base, f, q.options⟩, runFilter_eq_ok_iff.2 ⟨f, hf, rfl⟩, ?_⟩
    exact ⟨hq.base, hq.options, htracked⟩

/-- A call on the filter leaves a query that is ready whenever it is made. -/
theorem ready_of_runFilter {q next : Query} (hq : q.Ready) {call : Filter.Call} (h : call.Typed)
    (hnext : q.runFilter call = .ok next) : next.Ready := by
  obtain ⟨f, hf, rfl⟩ := runFilter_eq_ok_iff.1 hnext
  obtain ⟨effect, heffect, hf⟩ := bind_eq_ok_iff.1 hf
  obtain ⟨g, hg, htracked⟩ :=
    Filter.exists_apply_of_worded hq.filter (Filter.worded_of_typed h heffect)
  obtain rfl : g = f := Except.ok.inj (hg.symm.trans hf)
  exact ⟨hq.base, hq.options, htracked⟩

/-- **One call.** It is made and leaves a query that builds exactly if it can be shown; then the
query is ready for the next call. -/
theorem exists_run_iff {q : Query} (hq : q.Ready) {call : Call} (h : call.Typed) :
    ((∃ next, q.run call = .ok next ∧ next.Builds) ↔ call.canBeShown = true) ∧
      ∀ next, q.run call = .ok next → next.Builds → next.Ready := by
  have hfilter {c : Filter.Call} (hc : c.Typed) :
      ((∃ next, q.runFilter c = .ok next ∧ next.Builds) ↔ c.shown.all Value.showable = true) ∧
        ∀ next, q.runFilter c = .ok next → next.Builds → next.Ready := by
    refine ⟨?_, fun next hnext _ => ready_of_runFilter hq hc hnext⟩
    rw [List.all_eq_true, ← exists_runFilter_iff hq hc]
    constructor
    · rintro ⟨next, hnext, -⟩
      exact ⟨next, hnext, ready_of_runFilter hq hc hnext⟩
    · rintro ⟨next, hnext, hready⟩
      exact ⟨next, hnext, hready.builds⟩
  cases h with
  | @option c hc =>
    obtain ⟨o, ho, hselected, hexpanded, hready⟩ := Options.exists_run hq.options hc
    have hrun : q.run (.option c) = .ok { q with options := o } :=
      bind_eq_ok_iff.2 ⟨o, ho, rfl⟩
    obtain ⟨base, hbase⟩ := hq.base
    have hbuilds : Builds { q with options := o } ↔ o.Ready :=
      (@builds_iff_pairs { q with options := o } base hbase).trans
        (Options.exists_pairs_iff hselected hexpanded)
    rw [hrun]
    constructor
    · show _ ↔ c.canBeShown = true
      rw [← hready, ← hbuilds]
      simp
    · rintro next hnext hnextBuilds
      obtain rfl := Except.ok.inj hnext
      exact ⟨⟨base, hbase⟩, hbuilds.1 hnextBuilds, hq.filter⟩
  | filter hc => exact hfilter hc
  | addFilter _ hc => exact hfilter hc

/-- **Calls one after another.** -/
theorem builds_runAll_iff {q : Query} (hq : q.Ready) {calls : List Call}
    (h : ∀ call ∈ calls, call.Typed) :
    (∀ front, front <+: calls → ∃ next, q.runAll front = .ok next ∧ next.Builds) ↔
      ∀ call ∈ calls, call.canBeShown = true := by
  induction calls generalizing q with
  | nil =>
    refine iff_of_true ?_ fun _ hcall => absurd hcall List.not_mem_nil
    intro front hfront
    rw [List.prefix_nil.1 hfront]
    exact ⟨q, rfl, hq.builds⟩
  | cons call rest ih =>
    rw [List.forall_mem_cons] at h ⊢
    obtain ⟨hcall, hready⟩ := exists_run_iff hq h.1
    rw [← hcall]
    constructor
    · intro hall
      obtain ⟨next, hnext, hbuilds⟩ := hall [call] ⟨rest, rfl⟩
      have hrun : q.run call = .ok next := by
        obtain ⟨middle, hmiddle, hrest⟩ := bind_eq_ok_iff.1 hnext
        rwa [← Except.ok.inj hrest]
      refine ⟨⟨next, hrun, hbuilds⟩, (ih (hready next hrun hbuilds) h.2).1 ?_⟩
      intro front hfront
      obtain ⟨last, hlast, hlastBuilds⟩ :=
        hall (call :: front) (List.prefix_cons_inj call |>.2 hfront)
      obtain ⟨middle, hmiddle, hrest⟩ := bind_eq_ok_iff.1 hlast
      obtain rfl : next = middle := Except.ok.inj (hrun.symm.trans hmiddle)
      exact ⟨last, hrest, hlastBuilds⟩
    · rintro ⟨⟨next, hrun, hbuilds⟩, hrest⟩ front hfront
      rcases List.prefix_cons_iff.1 hfront with rfl | ⟨others, rfl, hothers⟩
      · exact ⟨q, rfl, hq.builds⟩
      · obtain ⟨last, hlast, hlastBuilds⟩ :=
          (ih (hready next hrun hbuilds) h.2).2 hrest others hothers
        exact ⟨last, bind_eq_ok_iff.2 ⟨next, hrun, hlast⟩, hlastBuilds⟩

/-- **When a query under construction fails.** Typed calls are all made, and the query has an
address and options before the first and after each of them, exactly if every call can be shown. -/
theorem builds_iff (base : String) {calls : List Call} (h : ∀ call ∈ calls, call.Typed) :
    (∀ front, front <+: calls → ∃ q, (ofBase (.text base)).runAll front = .ok q ∧ q.Builds) ↔
      ∀ call ∈ calls, call.canBeShown = true :=
  builds_runAll_iff (ready_ofBase base) h

/-- A listing with all options, conditions in an object, a group, and a membership. -/
theorem builds_of_listing :
    let calls : List Call := [
      .option (.select (.list [.text "ListingKey", .text " "])),
      .option (.orderBy (.list [.list [.text "ListPrice", .text "desc"],
        .object [("field", .text "City")], .text "Id", .list [.text "a", .text "", .text "b"]])),
      .option (.top (.int 10)),
      .filter (.openGroup (.text "or")),
      .filter (.compare (.value (.list [.object [("value", .list [.int 1])]])) (.text "or") .null
        (.text "and")),
      .filter .closeGroup,
      .addFilter (.value (.text "City")) .null (.list [.text "a", .null]) (.text "and")
        (.text "in")]
    (∀ call ∈ calls, call.Typed) ∧
      ∀ front, front <+: calls → ∃ q, (ofBase (.text "Property/")).runAll front = .ok q ∧
        q.Builds := by
  intro calls
  have htyped : ∀ call ∈ calls, call.Typed := by
    have hconditions : (Subject.value
        (.list [.object [("value", .list [.int 1])]])).DescribesAll := by
      refine ⟨fun _ => nofun, _, rfl, ?_⟩
      exact List.forall_mem_singleton.2 (.mapping _)
    have hterms : ∀ v ∈ [Value.list [.text "ListPrice", .text "desc"],
        .object [("field", .text "City")], .text "Id", .list [.text "a", .text "", .text "b"]],
        Options.IsTerm v := by
      simp only [List.forall_mem_cons]
      exact ⟨.sequence ["ListPrice", "desc"], .mapping [("field", "City")], .field "Id",
        .sequence ["a", "", "b"], fun _ hv => absurd hv List.not_mem_nil⟩
    simp only [calls, List.forall_mem_cons]
    exact ⟨.option (.select rfl ⟨["ListingKey", " "], rfl⟩), .option (.orderBy rfl hterms),
      .option .top, .filter .openGroup, .filter (.compareAll hconditions (Or.inr ⟨"or", rfl⟩)),
      .filter .closeGroup, .addFilter (Or.inr ⟨"in", rfl⟩) (.oneOf rfl),
      fun _ hcall => absurd hcall List.not_mem_nil⟩
  have hshown : ∀ call ∈ calls, call.canBeShown = true := by
    decide +kernel
  exact ⟨htyped, (builds_iff "Property/" htyped).2 hshown⟩

/-- An empty sequence and an object without a field as terms, and a count with too many digits. The
calls are made, and no address can be built after them. -/
theorem not_builds_of_unshown :
    let calls : List Call := [
      .option (.orderBy (.list [.list []])),
      .option (.orderBy (.list [.object []])),
      .option (.top (.int (10 ^ digitLimit)))]
    ∀ call ∈ calls, call.Typed ∧
      ¬ ∀ front, front <+: [call] → ∃ q, (ofBase (.text "Property")).runAll front = .ok q ∧
        q.Builds := by
  intro calls
  have hfails {call : Call} (h : call.Typed) (hshown : call.canBeShown = false) : call.Typed ∧
      ¬ ∀ front, front <+: [call] → ∃ q, (ofBase (.text "Property")).runAll front = .ok q ∧
        q.Builds := by
    refine ⟨h, fun hbuilds => ?_⟩
    have hall := (builds_runAll_iff (ready_ofBase "Property")
      (List.forall_mem_singleton.2 h)).1 hbuilds
    exact Bool.false_ne_true (hshown.symm.trans (hall call List.mem_cons_self))
  have hlong : (Value.int (10 ^ digitLimit)).showable = false := by
    cases hshown : (Value.int (10 ^ digitLimit)).showable with
    | false => rfl
    | true =>
      have hdigits := (showableInteger_iff (10 ^ digitLimit)).1 hshown
      rw [Int.natAbs_pow, show (10 : Int).natAbs = 10 from rfl] at hdigits
      exact absurd hdigits (Nat.lt_irrefl _)
  simp only [calls, List.forall_mem_cons]
  refine ⟨hfails (.option (.orderBy rfl ?_)) rfl, hfails (.option (.orderBy rfl ?_)) rfl,
    hfails (.option .top) hlong, fun _ hcall => absurd hcall List.not_mem_nil⟩
  · exact List.forall_mem_singleton.2 (.sequence [])
  · exact List.forall_mem_singleton.2 (.mapping [])

end Query

end OData
