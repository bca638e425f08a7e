import OData.Gateway.Clause
import OData.Proofs.Filter.Stepwise
import OData.Query.Call

/-!
# Refused calls leave no trace

A query that is changed in place: its options are replaced by programs like those that write to its
filter, and an address is built by one that only reads.

* **One call** (`Call.perform_eq`, `Action.eq_of_perform_eq_error`): whatever is refused, and
  wherever on its way, leaves the query as it was.
* **Actions one after another** (`refused_leaves_no_trace`): where a refusal is caught and the next
  action follows, the refused ones can be left out, and every other action is answered as before and
  leaves the query as before.
-/

namespace OData

/-! ## Options -/

/-- The write of a call that sets an option: its argument is read first. -/
def Options.Call.perform : Options.Call → EStateM Fault Options Unit
  | .select fields => do
    let items ← MonadExcept.ofExcept fields.elements
    modify fun o => { o with selected := items }
  | .expand fields => do
    let items ← MonadExcept.ofExcept fields.elements
    modify fun o => { o with expanded := items }
  | .orderBy terms => do
    let items ← MonadExcept.ofExcept terms.elements
    modify fun o => { o with orderTerms := items }
  | .top count => do
    let n ← MonadExcept.ofExcept count.toInt
    modify fun o => { o with top := some n }
  | .skip count => do
    let n ← MonadExcept.ofExcept count.toInt
    modify fun o => { o with skip := some n }

/-- A program that reads and then writes has written nothing if it cannot read. -/
theorem perform_read_eq {α σ : Type} (x : Except Fault α) (change : α → σ → σ) (s : σ) :
    (do let a ← MonadExcept.ofExcept x; modify (change a) : EStateM Fault σ Unit) s =
      intact s (x >>= fun a => .ok (change a s)) := by
  cases x <;> rfl

/-- An option that cannot be set has not been. -/
theorem Options.Call.perform_eq (call : Options.Call) (o : Options) :
    call.perform o = intact o (o.run call) := by
  cases call with
  | select fields => exact perform_read_eq _ (fun items o => { o with selected := items }) o
  | expand fields => exact perform_read_eq _ (fun items o => { o with expanded := items }) o
  | orderBy terms => exact perform_read_eq _ (fun items o => { o with orderTerms := items }) o
  | top count => exact perform_read_eq _ (fun n o => { o with top := some n }) o
  | skip count => exact perform_read_eq _ (fun n o => { o with skip := some n }) o

namespace Query

/-! ## Queries -/

/-- A program on the options of a query, which writes to them wherever it ends. -/
def onOptions (program : EStateM Fault Options Unit) : EStateM Fault Query Unit := fun q =>
  match program q.options with
  | .ok _ o => .ok () { q with options := o }
  | .error cause o => .error cause { q with options := o }

/-- A program on the filter of a query, which writes to it wherever it ends. -/
def onFilter (program : EStateM Fault Filter Unit) : EStateM Fault Query Unit := fun q =>
  match program q.filter with
  | .ok _ f => .ok () { q with filter := f }
  | .error cause f => .error cause { q with filter := f }

/-- The writes of a call. -/
def Call.perform : Call → EStateM Fault Query Unit
  | .option call => onOptions call.perform
  | .filter call => onFilter call.perform
  | .addFilter field operator value logical function =>
    onFilter (filterCall field operator value logical function).perform

/-- A call on the filter that is refused leaves the query as it was. -/
theorem onFilter_perform_eq (call : Filter.Call) (q : Query) :
    onFilter call.perform q = intact q (q.runFilter call) := by
  unfold onFilter runFilter
  rw [Filter.Call.perform_eq]
  cases q.filter.run call <;> rfl

/-- **A refused call has written nothing.** -/
theorem Call.perform_eq (call : Call) (q : Query) : call.perform q = intact q (q.run call) := by
  cases call with
  | option call =>
    show onOptions call.perform q =
      intact q (do let o ← q.options.run call; .ok { q with options := o })
    unfold onOptions
    rw [Options.Call.perform_eq]
    cases q.options.run call <;> rfl
  | filter call => exact onFilter_perform_eq call q
  | addFilter field operator value logical function => exact onFilter_perform_eq _ q

/-! ## Actions one after another -/

/-- What can be done with a query: a call, or building its address. -/
inductive Action where
  /-- A call. -/
  | call (c : Call)
  /-- Building the address. -/
  | address

/-- An action as a program. Only an address is an answer. -/
def Action.perform : Action → EStateM Fault Query (Option String)
  | .call c => do
    c.perform
    pure none
  | .address => do
    let q ← get
    let s ← MonadExcept.ofExcept q.address
    pure (some s)

/-- **An action that is refused leaves the query as it was.** -/
theorem Action.eq_of_perform_eq_error {a : Action} {q after : Query} {cause : Fault}
    (h : a.perform q = .error cause after) : after = q := by
  cases a with
  | call c =>
    have hperform : (Action.call c).perform q =
        EStateM.bind c.perform (fun _ => EStateM.pure none) q := rfl
    rw [hperform, EStateM.bind, Call.perform_eq] at h
    cases hrun : q.run c with
    | ok next =>
      rw [hrun] at h
      cases h
    | error refused =>
      rw [hrun] at h
      cases h
      rfl
  | address =>
    have hperform : Action.address.perform q =
        EStateM.bind (MonadExcept.ofExcept q.address) (fun s => EStateM.pure (some s)) q := rfl
    rw [hperform] at h
    cases haddress : q.address with
    | ok s =>
      rw [haddress] at h
      cases h
    | error refused =>
      rw [haddress] at h
      cases h
      rfl

/-- An action that was tried, with its answer or refusal and the query that it left behind. -/
structure Trial where
  /-- The action. -/
  action : Action
  /-- The answer, or why the action was refused. -/
  answer : Except Fault (Option String)
  /-- The query afterwards. -/
  after : Query

/-- Whether the action was not refused. -/
def Trial.succeeds (t : Trial) : Bool :=
  t.answer.isOk

/-- Tries an action. -/
def trial (q : Query) (a : Action) : Trial :=
  match a.perform q with
  | .ok answer after => ⟨a, .ok answer, after⟩
  | .error cause after => ⟨a, .error cause, after⟩

/-- Tries actions one after another, whether they are refused or not. -/
def trials (q : Query) : List Action → List Trial
  | [] => []
  | a :: rest => q.trial a :: (q.trial a).after.trials rest

/-- The query after actions that were tried one after another. -/
def afterTrials (q : Query) (actions : List Action) : Query :=
  actions.foldl (fun q a => (q.trial a).after) q

@[simp] theorem action_trial (q : Query) (a : Action) : (q.trial a).action = a := by
  unfold trial
  cases a.perform q <;> rfl

/-- An action that does not succeed leaves the query as it was. -/
theorem after_trial_of_not_succeeds {q : Query} {a : Action} (h : (q.trial a).succeeds = false) :
    (q.trial a).after = q := by
  unfold trial at h ⊢
  cases hperform : a.perform q with
  | ok answer after => simp [hperform, Trial.succeeds, Except.isOk, Except.toBool] at h
  | error cause after => exact Action.eq_of_perform_eq_error hperform

/-- Of actions one after another, those that do not succeed can be left out. -/
theorem trials_of_succeeding (q : Query) (actions : List Action) :
    let succeeding := (q.trials actions).filter Trial.succeeds
    q.trials (succeeding.map Trial.action) = succeeding ∧
      q.afterTrials (succeeding.map Trial.action) = q.afterTrials actions := by
  induction actions generalizing q with
  | nil => exact ⟨rfl, rfl⟩
  | cons a rest ih =>
    obtain ⟨htrials, hafter⟩ := ih (q.trial a).after
    dsimp only
    cases hsucceeds : (q.trial a).succeeds with
    | true =>
      rw [trials, List.filter_cons_of_pos hsucceeds, List.map_cons, action_trial, trials, htrials]
      exact ⟨rfl, hafter⟩
    | false =>
      -- the other actions begin where this one did, so leaving it out changes nothing for them
      have hsame := after_trial_of_not_succeeds hsucceeds
      have hleft : q.afterTrials (a :: rest) = (q.trial a).after.afterTrials rest := rfl
      rw [trials, List.filter_cons_of_neg (by simp [hsucceeds]), hleft, hsame]
      rw [hsame] at htrials hafter
      exact ⟨htrials, hafter⟩

/-- **What is refused leaves no trace.** On every query, an action whose reads and writes are made
in turn leaves the query as it was if it is refused, and does to it what running the call does
otherwise. Of actions one after another, those that are refused can be left out: every other one is
answered as before and leaves the same query behind, and so do all of them. Clauses that are applied
to a filter stop at the first that is refused, with the filter of those before it. -/
theorem refused_leaves_no_trace (q : Query) :
    (∀ (a : Action) cause after, a.perform q = .error cause after → after = q) ∧
      (∀ call : Call, call.perform q = intact q (q.run call)) ∧
      (∀ actions : List Action,
        let succeeding := (q.trials actions).filter Trial.succeeds
        q.trials (succeeding.map Trial.action) = succeeding ∧
          q.afterTrials (succeeding.map Trial.action) = q.afterTrials actions) ∧
      ∀ (clauses : List Gateway.Clause) (f g : Filter) cause,
        Filter.performAll (clauses.map Gateway.Clause.call) f = .error cause g ↔
          ∃ before clause rest, clauses = before ++ clause :: rest ∧
            Filter.performAll (before.map Gateway.Clause.call) f = .ok () g ∧
            g.run clause.call = .error cause := by
  refine ⟨fun _ _ _ h => Action.eq_of_perform_eq_error h, fun call => Call.perform_eq call q,
    trials_of_succeeding q, fun clauses f g cause => ?_⟩
  rw [Filter.performAll_eq_error_iff]
  constructor
  · rintro ⟨before, call, rest, hcalls, hbefore, hcall⟩
    obtain ⟨first, others, rfl, rfl, hothers⟩ := List.map_eq_append_iff.1 hcalls
    obtain ⟨clause, later, rfl, rfl, -⟩ := List.map_eq_cons_iff.1 hothers
    exact ⟨first, clause, later, rfl, Filter.performAll_eq_ok_iff.2 hbefore, hcall⟩
  · rintro ⟨before, clause, rest, rfl, hbefore, hcall⟩
    exact ⟨before.map Gateway.Clause.call, clause.call, rest.map Gateway.Clause.call, by simp,
      Filter.performAll_eq_ok_iff.1 hbefore, hcall⟩

/-- A selection of a number is refused; an order by a number is not, but building the address then
is. Without the two that are refused the others do the same. -/
theorem trials_without_refused_selection :
    let q := ofBase (.text "Property")
    let actions : List Action :=
      [.call (.option (.select (.int 5))), .address, .call (.option (.orderBy (.list [.int 5]))),
        .address, .call (.filter .closeGroup)]
    (q.trials actions).map Trial.succeeds = [false, true, true, false, true] ∧
      q.trials (((q.trials actions).filter Trial.succeeds).map Trial.action) =
        (q.trials actions).filter Trial.succeeds ∧
      (q.afterTrials actions).filter.expression = ")" := by
  intro q actions
  obtain ⟨-, -, htrials, -⟩ := refused_leaves_no_trace q
  exact ⟨rfl, (htrials actions).1, rfl⟩

end Query

end OData
