import OData.Gateway.Endpoint
import OData.Proofs.Filter.WellTyped
import OData.Proofs.Gateway.FormQuery
import OData.Proofs.Json.Showable

/-!
# The form in a document

The integers of a document can be shown, and the checks of a form keep them so: a numeral has few
enough digits, and a double stands for an integer only if it is small.

* **Checks** (`Check.Keeps`, `Form.shown_of_ofDocument`): what a form reads from a document can be
  shown, one lemma for each check.
* **Calls** (`Form.exists_query`): the calls of such a form are never refused.
* **Addresses** (`Form.exists_address_iff`): its query has an address exactly if the page size can
  be shown.
-/

namespace OData

/-- Well-typed calls on the filter are made one after another. -/
theorem Query.exists_runAll_filter {calls : List Filter.Call} (h : ∀ call ∈ calls, call.WellTyped)
    {q : Query} (hq : q.filter.Tracked) : ∃ next, q.runAll (calls.map .filter) = .ok next := by
  induction calls generalizing q with
  | nil => exact ⟨q, rfl⟩
  | cons call rest ih =>
    rw [List.forall_mem_cons] at h
    obtain ⟨hrun, -, htracked⟩ := Filter.written_of_wellTyped hq h.1
    obtain ⟨next, hnext⟩ := @ih h.2 ⟨q.base, q.filter.after call, q.options⟩ htracked
    refine ⟨next, bind_eq_ok_iff.2 ⟨_, ?_, hnext⟩⟩
    exact runFilter_eq_ok_iff.2 ⟨_, hrun, rfl⟩

namespace Gateway

variable {α β : Type}

/-! ## Checks of several parts -/

namespace Checked

theorem seq_eq_ok_iff {f : Checked (α → β)} {x : Checked α} {b : β} :
    (f <*> x) = .ok b ↔ ∃ g a, f = .ok g ∧ x = .ok a ∧ g a = b :=
  both_eq_ok_iff

theorem map_eq_ok_iff {f : α → β} {x : Checked α} {b : β} :
    (f <$> x) = .ok b ↔ ∃ a, x = .ok a ∧ f a = b := by
  change x.map f = .ok b ↔ _
  cases x <;> simp [map]

theorem under_eq_ok_iff {x : Checked α} {step : Step} {a : α} :
    x.under step = .ok a ↔ x = .ok a := by
  cases x <;> simp [under]

end Checked

/-- Whether a check reads from values that can be shown only what has a property. -/
def Check.Keeps (check : Check α) (P : α → Prop) : Prop :=
  ∀ v a, v.showable = true → check v = .ok a → P a

namespace Check

/-! ## Integers -/

/-- Characters that are read as ASCII digits give as many digits. -/
theorem digits_of_mapM {cs : List Char} {ds : List Nat}
    (h : cs.mapM Text.asciiDigitValue? = some ds) : ds.length = cs.length ∧ ∀ d ∈ ds, d < 10 := by
  induction cs generalizing ds with
  | nil =>
    cases h
    exact ⟨rfl, fun _ hd => nomatch hd⟩
  | cons c rest ih =>
    rw [List.mapM_cons] at h
    obtain ⟨d, hd, h⟩ := Option.bind_eq_some_iff.1 h
    obtain ⟨others, hothers, h⟩ := Option.bind_eq_some_iff.1 h
    cases h
    obtain ⟨hlength, hall⟩ := ih hothers
    exact ⟨congrArg Nat.succ hlength,
      List.forall_mem_cons.2 ⟨Text.lt_of_asciiDigitValue? hd, hall⟩⟩

/-- Plain digits are read only if there are few enough of them. -/
theorem showable_of_plainNatural? {cs : List Char} {n : Nat} (h : plainNatural? cs = some n) :
    showableInteger n = true := by
  unfold plainNatural? at h
  split at h
  · cases h
    decide
  · split at h
    · cases h
    · rename_i hshape
      obtain ⟨ds, hds, rfl⟩ := Option.map_eq_some_iff.1 h
      obtain ⟨hlength, hall⟩ := digits_of_mapM hds
      refine showableInteger_ofDigits hall ?_
      rw [hlength]
      simp only [Bool.or_eq_true, decide_eq_true_eq, not_or, Nat.not_lt] at hshape
      exact hshape.2

theorem showable_of_plainInteger? {cs : List Char} {n : Int} (h : plainInteger? cs = some n) :
    showableInteger n = true := by
  have hnatural {digits : List Char} {m : Int}
      (hm : (do let k ← plainNatural? digits; pure (k : Int)) = some m) :
      showableInteger m = true := by
    obtain ⟨k, hk, hm⟩ := Option.bind_eq_some_iff.1 hm
    cases hm
    exact showable_of_plainNatural? hk
  unfold plainInteger? at h
  split at h
  · obtain ⟨m, hm, rfl⟩ := Option.map_eq_some_iff.1 h
    rw [showableInteger_neg]
    exact hnatural hm
  · obtain ⟨m, hm, rfl⟩ := Option.map_eq_some_iff.1 h
    exact hnatural hm

/-- An integer of less than 64 bits can be shown. -/
theorem showable_of_isWord {n : Int} (h : isWord n = true) : showableInteger n = true := by
  have hpow : Decimal.twoPow 63 ≤ 10 ^ 19 := by decide
  have hmore : 10 ^ 19 ≤ 10 ^ digitLimit := Nat.pow_le_pow_right (by decide) (by decide)
  rw [showableInteger_iff]
  exact Nat.lt_of_lt_of_le (of_decide_eq_true h) (Nat.le_trans hpow hmore)

/-- The integer that a value stands for can be shown if the value can. -/
theorem showable_of_integerOfValue {v : Value} {n : Int} (hv : v.showable = true)
    (h : integerOfValue v = .ok n) : showableInteger n = true := by
  cases v with
  | int m =>
    cases h
    exact hv
  | bool b => cases b <;> cases h <;> decide
  | float x =>
    change integerOfDouble x = .ok n at h
    unfold integerOfDouble at h
    split at h
    · split at h
      · split at h
        · cases h
          exact showable_of_isWord ‹_›
        · cases h
      · cases h
    · cases h
  | text s =>
    change numeral s.toList = .ok n at h
    unfold numeral at h
    split at h
    · cases h
    · split at h
      · rename_i m hm
        cases h
        obtain ⟨bare, -, hbare⟩ := Option.bind_eq_some_iff.1 hm
        exact showable_of_plainInteger? hbare
      · cases h
  | null => cases h
  | list items => cases h
  | object members => cases h

theorem keeps_integer : Keeps integer fun n => showableInteger n = true := by
  intro v n hv h
  unfold integer at h
  split at h
  · cases h
    exact showable_of_integerOfValue hv ‹_›
  · cases h

theorem keeps_integerFrom (least : Nat) :
    Keeps (integerFrom least) fun n => showableInteger n = true := by
  intro v n hv h
  unfold integerFrom at h
  split at h
  · rename_i m hm
    split at h
    · cases h
    · rename_i hleast
      cases h
      have hnat : ((m.toNat : Nat) : Int) = m := Int.toNat_of_nonneg (by omega)
      rw [hnat]
      exact showable_of_integerOfValue hv hm
  · cases h

/-! ## Other parts -/

variable {check : Check α} {P : α → Prop}

theorem keeps_anything : Keeps anything fun v => v.showable = true := by
  rintro v _ hv ⟨⟩
  exact hv

theorem keeps_dictionary :
    Keeps dictionary fun members => (Value.object members).showable = true := by
  intro v members hv h
  cases v with
  | object found =>
    cases h
    exact hv
  | _ => cases h

theorem keeps_optional (hcheck : check.Keeps P) : Keeps (optional check) fun o => ∀ a ∈ o, P a := by
  intro v o hv h a ha
  cases v with
  | null =>
    cases h
    cases ha
  | _ =>
    obtain ⟨b, hb, rfl⟩ := Checked.map_eq_ok_iff.1 h
    cases ha
    exact hcheck _ _ hv hb

theorem keeps_itemsFrom (hcheck : check.Keeps P) {items : List Value} {found : List α} {index : Nat}
    (hitems : ∀ v ∈ items, v.showable = true) (h : itemsFrom check index items = .ok found) :
    ∀ a ∈ found, P a := by
  induction items generalizing found index with
  | nil =>
    cases h
    exact fun _ ha => nomatch ha
  | cons v rest ih =>
    rw [List.forall_mem_cons] at hitems
    obtain ⟨_, others, hfirst, hothers, rfl⟩ := Checked.seq_eq_ok_iff.1 h
    obtain ⟨a, ha, rfl⟩ := Checked.map_eq_ok_iff.1 hfirst
    exact List.forall_mem_cons.2
      ⟨hcheck _ _ hitems.1 (Checked.under_eq_ok_iff.1 ha), ih hitems.2 hothers⟩

theorem keeps_list (hcheck : check.Keeps P) : Keeps (list check) fun found => ∀ a ∈ found, P a := by
  intro v found hv h
  cases v with
  | list items => exact keeps_itemsFrom hcheck (Value.showable_list_iff.1 hv) h
  | _ => cases h

/-- Objects keep what their members keep. -/
theorem keeps_record {read : Members → Checked α}
    (hread : ∀ members a, (Value.object members).showable = true → read members = .ok a → P a) :
    Keeps (record read) P := by
  intro v a hv h
  cases v with
  | object members => exact hread members a hv h
  | _ => cases h

end Check

variable {members : Members} {name : String} {check : Check α} {P : α → Prop} {a : α}

theorem of_defaulted {fallback : α} (hcheck : check.Keeps P) (hfallback : P fallback)
    (hmembers : (Value.object members).showable = true)
    (h : defaulted members name fallback check = .ok a) : P a := by
  unfold defaulted at h
  split at h
  · exact hcheck _ _ (Value.showable_of_lookup hmembers name ‹_›) (Checked.under_eq_ok_iff.1 h)
  · cases h
    exact hfallback

/-! ## Clauses -/

/-- The value of a comparison in a document can be shown. -/
theorem ConditionForm.showable_of_ofMembers {c : ConditionForm}
    (hmembers : (Value.object members).showable = true) (h : ofMembers members = .ok c) :
    c.value.showable = true := by
  obtain ⟨_, value, h₁, hvalue, rfl⟩ := Checked.seq_eq_ok_iff.1 h
  obtain ⟨_, operator, h₂, -, rfl⟩ := Checked.seq_eq_ok_iff.1 h₁
  obtain ⟨field, -, rfl⟩ := Checked.map_eq_ok_iff.1 h₂
  have hshown := of_defaulted Check.keeps_anything rfl hmembers hvalue
  exact hshown

/-- Whether the values of a clause can be shown. -/
structure Clause.Shown (c : Clause) : Prop where
  /-- The value to compare with. -/
  value : c.value.showable = true
  /-- The values to be a member of. -/
  values : ∀ vs ∈ c.values, ∀ v ∈ vs, v.showable = true
  /-- The comparisons of a group. -/
  conditions : ∀ cs ∈ c.conditions, ∀ f ∈ cs, f.value.showable = true
  /-- The length to compare with. -/
  length : ∀ n ∈ c.length, showableInteger n = true
  /-- The point to measure a distance from. -/
  point : ∀ ms ∈ c.point, (Value.object ms).showable = true

/-- The values of a clause in a document can be shown. -/
theorem Clause.shown_of_ofMembers {c : Clause}
    (hmembers : (Value.object members).showable = true) (h : ofMembers members = .ok c) :
    c.Shown := by
  have hnone {β : Type} {Q : β → Prop} : ∀ b ∈ (none : Option β), Q b := fun _ hb => nomatch hb
  obtain ⟨_, point, h₁, hpoint, rfl⟩ := Checked.seq_eq_ok_iff.1 h
  obtain ⟨_, length, h₂, hlength, rfl⟩ := Checked.seq_eq_ok_iff.1 h₁
  obtain ⟨_, comparison, h₃, -, rfl⟩ := Checked.seq_eq_ok_iff.1 h₂
  obtain ⟨_, relation, h₄, -, rfl⟩ := Checked.seq_eq_ok_iff.1 h₃
  obtain ⟨_, logical, h₅, -, rfl⟩ := Checked.seq_eq_ok_iff.1 h₄
  obtain ⟨_, conditions, h₆, hconditions, rfl⟩ := Checked.seq_eq_ok_iff.1 h₅
  obtain ⟨_, values, h₇, hvalues, rfl⟩ := Checked.seq_eq_ok_iff.1 h₆
  obtain ⟨_, value, h₈, hvalue, rfl⟩ := Checked.seq_eq_ok_iff.1 h₇
  obtain ⟨_, operator, h₉, -, rfl⟩ := Checked.seq_eq_ok_iff.1 h₈
  obtain ⟨_, field, h₀, -, rfl⟩ := Checked.seq_eq_ok_iff.1 h₉
  obtain ⟨operation, -, rfl⟩ := Checked.map_eq_ok_iff.1 h₀
  have hshown := of_defaulted Check.keeps_anything rfl hmembers hvalue
  refine ⟨hshown, ?_, ?_, ?_, ?_⟩
  · exact of_defaulted (Check.keeps_optional (Check.keeps_list Check.keeps_anything)) hnone hmembers
      hvalues
  · exact of_defaulted (Check.keeps_optional (Check.keeps_list (Check.keeps_record
      fun _ _ => ConditionForm.showable_of_ofMembers))) hnone hmembers hconditions
  · exact of_defaulted (Check.keeps_optional Check.keeps_integer) hnone hmembers hlength
  · exact of_defaulted (Check.keeps_optional Check.keeps_dictionary) hnone hmembers hpoint

/-- The call of a clause whose values can be shown is well-typed. -/
theorem Clause.wellTyped_call {c : Clause} (h : c.Shown) : c.call.WellTyped := by
  unfold call
  split
  · refine .compare ?_ h.value
    cases c.operator with
    | none => exact Or.inl rfl
    | some word => exact Or.inr ⟨word, rfl⟩
  · refine .group ⟨fun _ => Subject.noConfusion, _, rfl, fun i hi => ?_⟩
    obtain ⟨f, hf, rfl⟩ := List.mem_map.1 hi
    refine ⟨f.condition, rfl, f.field, f.operator, rfl, rfl, ?_⟩
    cases hconditions : c.conditions with
    | none =>
      rw [hconditions] at hf
      cases hf
    | some forms =>
      rw [hconditions] at hf
      exact h.conditions forms hconditions f hf
  · refine .oneOf rfl fun v hv => ?_
    cases hvalues : c.values with
    | none =>
      rw [hvalues] at hv
      cases hv
    | some vs =>
      rw [hvalues] at hv
      exact h.values vs hvalues v hv
  · exact .textFunction h.value
  · exact .substringOf h.value
  · refine .length rfl ?_
    cases hlength : c.length with
    | none => decide
    | some n => exact h.length n hlength
  · refine .distance fun key => ?_
    cases hfound : (c.point.getD []).lookup key with
    | none => rfl
    | some v =>
      cases hpoint : c.point with
      | none =>
        rw [hpoint] at hfound
        cases hfound
      | some members =>
        rw [hpoint] at hfound
        exact Value.showable_of_lookup (h.point members hpoint) key hfound
  · exact .openGroup
  · exact .closeGroup

/-! ## Forms -/

/-- Whether the integers of a form can be shown. -/
structure Form.Shown (f : Form) : Prop where
  /-- The page size. -/
  top : ∀ n ∈ f.top, showableInteger n = true
  /-- The number of records to leave out. -/
  skip : ∀ n ∈ f.skip, showableInteger n = true
  /-- The filter clauses. -/
  filters : ∀ c ∈ f.filters, c.Shown

namespace Form

variable {f : Form} {cap : Int}

/-- Whether every part of a form is what its own check reads from the members of an object. -/
structure ReadFrom (members : Members) (f : Form) : Prop where
  /-- The resource. -/
  resource : defaulted members "resource" defaultResource Check.text = .ok f.resource
  /-- The selected fields. -/
  select : defaulted members "select" none (Check.optional (Check.list Check.text)) = .ok f.select
  /-- The expanded properties. -/
  expand : defaulted members "expand" none (Check.optional (Check.list Check.text)) = .ok f.expand
  /-- The order terms. -/
  orderBy : defaulted members "orderby" none
    (Check.optional (Check.list (Check.record OrderTerm.ofMembers))) = .ok f.orderBy
  /-- The page size. -/
  top : defaulted members "top" none (Check.optional (Check.integerFrom 0)) = .ok f.top
  /-- The number of records to leave out. -/
  skip : defaulted members "skip" none (Check.optional (Check.integerFrom 0)) = .ok f.skip
  /-- The filter clauses. -/
  filters : defaulted members "filters" [] (Check.list (Check.record Clause.ofMembers)) =
    .ok f.filters
  /-- The entity type. -/
  entityType : defaulted members "entity_type" none (Check.optional Check.text) = .ok f.entityType
  /-- The number of pages. -/
  maxPages : defaulted members "max_pages" 1 (Check.integerFrom 1) = .ok f.maxPages

/-- An object is a form exactly if all its parts are read. -/
theorem ofMembers_eq_ok_iff : ofMembers members = .ok f ↔ f.ReadFrom members := by
  constructor
  · intro h
    obtain ⟨_, maxPages, h₁, hmaxPages, rfl⟩ := Checked.seq_eq_ok_iff.1 h
    obtain ⟨_, entityType, h₂, hentityType, rfl⟩ := Checked.seq_eq_ok_iff.1 h₁
    obtain ⟨_, filters, h₃, hfilters, rfl⟩ := Checked.seq_eq_ok_iff.1 h₂
    obtain ⟨_, skip, h₄, hskip, rfl⟩ := Checked.seq_eq_ok_iff.1 h₃
    obtain ⟨_, top, h₅, htop, rfl⟩ := Checked.seq_eq_ok_iff.1 h₄
    obtain ⟨_, orderBy, h₆, horderBy, rfl⟩ := Checked.seq_eq_ok_iff.1 h₅
    obtain ⟨_, expand, h₇, hexpand, rfl⟩ := Checked.seq_eq_ok_iff.1 h₆
    obtain ⟨_, select, h₈, hselect, rfl⟩ := Checked.seq_eq_ok_iff.1 h₇
    obtain ⟨resource, hresource, rfl⟩ := Checked.map_eq_ok_iff.1 h₈
    exact ⟨hresource, hselect, hexpand, horderBy, htop, hskip, hfilters, hentityType, hmaxPages⟩
  · intro h
    unfold ofMembers
    rw [h.resource, h.select, h.expand, h.orderBy, h.top, h.skip, h.filters, h.entityType,
      h.maxPages]
    rfl

/-- The integers of a form in a document can be shown. -/
theorem shown_of_ofDocument {v : Value} (hv : v.showable = true) (h : ofDocument v = .ok f) :
    f.Shown := by
  have hnone {β : Type} {Q : β → Prop} : ∀ b ∈ (none : Option β), Q b := fun _ hb => nomatch hb
  refine Check.keeps_record (fun members form hmembers h => ?_) v f hv h
  have hread := ofMembers_eq_ok_iff.1 h
  refine ⟨?_, ?_, ?_⟩
  · exact of_defaulted (Check.keeps_optional (Check.keeps_integerFrom 0)) hnone hmembers hread.top
  · exact of_defaulted (Check.keeps_optional (Check.keeps_integerFrom 0)) hnone hmembers hread.skip
  · exact of_defaulted (Check.keeps_list (Check.keeps_record
      fun _ _ => Clause.shown_of_ofMembers)) (List.forall_mem_nil _) hmembers hread.filters

/-- The calls of a form whose integers can be shown are never refused, whatever its page size. -/
theorem exists_query_of_top (h : f.Shown) {v : Value} {top : Option Int}
    (htop : cappedTop f.top v = .ok (top.elim .null .int)) : ∃ q, f.query v = .ok q := by
  rw [query_of_top htop]
  refine Query.exists_runAll_filter (fun call hcall => ?_) (Or.inl rfl)
  obtain ⟨clause, hclause, rfl⟩ := List.mem_map.1 hcall
  exact Clause.wellTyped_call (h.filters clause hclause)

theorem exists_query (h : f.Shown) (cap : Int) : ∃ q, f.query (.int cap) = .ok q :=
  exists_query_of_top h (f.cappedTop_int cap)

/-- The query of such a form has an address exactly if the page size, if there is one, can be
shown. -/
theorem exists_address_of_top_iff (h : f.Shown) {v : Value} {top : Option Int}
    (htop : cappedTop f.top v = .ok (top.elim .null .int)) {q : Query} (hq : f.query v = .ok q) :
    (∃ url, q.address = .ok url) ↔ ∀ n ∈ top, showableInteger n = true := by
  have hskip : ∀ n ∈ (f.optionsAt top).skip, showableInteger n = true := by
    intro n hn
    cases hfound : f.skip with
    | none => simp [optionsAt, hfound] at hn
    | some m =>
      obtain rfl : (m : Int) = n := by simpa [optionsAt, hfound] using hn
      exact h.skip m hfound
  constructor
  · rintro ⟨url, hurl⟩
    obtain ⟨ps, hps, -⟩ := (Query.address_eq_ok_iff (base_of_query hq)).1 hurl
    rw [options_of_top htop hq] at hps
    exact ((f.holds_optionsAt top).pairs_eq_ok_iff.1 hps).1.1
  · intro hsize
    have hpairs := (f.holds_optionsAt top).pairs_eq_ok_iff.2 ⟨⟨hsize, hskip⟩, rfl⟩
    rw [← options_of_top htop hq] at hpairs
    exact ⟨_, (Query.address_eq_ok_iff (base_of_query hq)).2 ⟨_, hpairs, rfl⟩⟩

/-- Below a cap, the query of such a form has an address exactly if its page size can be shown. -/
theorem exists_address_iff (h : f.Shown) {q : Query} (hq : f.query (.int cap) = .ok q) :
    (∃ url, q.address = .ok url) ↔ showableInteger (f.pageSize cap) = true := by
  rw [exists_address_of_top_iff h (f.cappedTop_int cap) hq]
  exact ⟨fun hall => hall _ rfl, fun hsize n hn => Option.some.inj hn ▸ hsize⟩

end Form

/-! ## Requests -/

variable {r : Request} {g : Gateway} {form : Form}

/-- A form is read from a request exactly if its body is a document, its key is the gateway's and
the document holds the form. -/
theorem Request.form_eq_ok_iff :
    r.form g = .ok form ↔
      ∃ document key, r.document = .ok document ∧ r.checkKey = .ok key ∧ g.admits key = true ∧
        checkForm document = .ok form := by
  unfold Request.form
  rw [bind_eq_ok_iff]
  refine exists_congr fun document => ?_
  cases hkey : r.checkKey with
  | flawed issues => simp
  | ok key =>
    cases hadmits : g.admits key with
    | false => simp [hadmits]
    | true => cases hform : checkForm document <;> simp [hadmits]

/-- The integers of a form that is read from a request can be shown. -/
theorem Form.shown_of_request (h : r.form g = .ok form) : form.Shown := by
  obtain ⟨document, key, hdocument, -, -, hform⟩ := Request.form_eq_ok_iff.1 h
  have hfound := Checked.under_eq_ok_iff.1 hform
  cases document with
  | none => cases hfound
  | some v =>
    refine shown_of_ofDocument ?_ hfound
    unfold Request.document at hdocument
    split at hdocument
    · cases hdocument
    · split at hdocument
      · cases hdocument
        exact Json.showable_of_decodeBytes ‹_›
      · cases hdocument
      · cases hdocument

end Gateway

end OData
