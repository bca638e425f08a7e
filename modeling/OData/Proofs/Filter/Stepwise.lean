import OData.Proofs.Filter.Replay

/-!
# Calls that change a filter in place

`Filter.run` gives a new filter or says why there is none. A filter that is changed in place has no
such choice: a call reads the filter and writes to it in turn, and if it is refused on the way, what
it has written stays. Here every call is such a program, in `EStateM`, with its reads and writes in
the order in which they are made.

* **One call** (`Call.perform_eq`): a refused call has written nothing yet, so both ways agree.
* **Calls one after another** (`performAll_eq_ok_iff`, `performAll_eq_error_iff`): they stop with
  the filter of those before the refused one.
-/

namespace OData

/-- How a program ends whose outcome is a new state or a refusal that leaves the state alone. -/
def intact {ε σ : Type} (before : σ) : Except ε σ → EStateM.Result ε σ Unit
  | .ok after => .ok () after
  | .error cause => .error cause before

namespace Filter

/-! ## Writes -/

/-- Writes at the end of the expression. -/
def write (s : String) : EStateM Fault Filter Unit :=
  modify fun f => { f with expression := f.expression ++ s }

/-- Tracks a relation. -/
def track (relation : Value) : EStateM Fault Filter Unit :=
  modify fun f => { f with relation := relation }

/-- Marks whether a group was opened just now. -/
def mark (opened : Bool) : EStateM Fault Filter Unit :=
  modify fun f => { f with opened := opened }

/-! ## Calls -/

/-- The writes of an effect. A part is written after its word, which is shown first; the relation of
a group is tracked before its parenthesis is written. -/
def Effect.perform : Effect → EStateM Fault Filter Unit
  | .append part => do
    let f ← get
    unless f.atStart do
      let word ← MonadExcept.ofExcept (f.joinWord part.logical).showPlain
      write (" " ++ word ++ " ")
    write part.text
    mark false
  | .nothing => pure ()
  | .openGroup relation => do
    track relation
    let f ← get
    write (if f.atStart then "(" else " AND (")
    mark true
  | .closeGroup => do
    write ")"
    mark false

/-- A call looks at its arguments and then writes. -/
def Call.perform (call : Call) : EStateM Fault Filter Unit := do
  let effect ← MonadExcept.ofExcept call.effect
  effect.perform

/-- Calls made one after another until one is refused. -/
def performAll : List Call → EStateM Fault Filter Unit
  | [] => pure ()
  | call :: rest => do
    call.perform
    performAll rest

/-- A part whose word cannot be shown has not been written. -/
theorem perform_append (part : Part) (f : Filter) :
    (Effect.append part).perform f = intact f (f.append part) := by
  have hread : (Effect.append part).perform f = (do
      unless f.atStart do
        let word ← MonadExcept.ofExcept (f.joinWord part.logical).showPlain
        write (" " ++ word ++ " ")
      write part.text
      mark false) f := rfl
  rw [hread]
  cases hf : f.atStart with
  | true =>
    rw [append_of_atStart hf]
    rfl
  | false =>
    rw [append_of_not_atStart hf]
    cases (f.joinWord part.logical).showPlain with
    | error cause => rfl
    | ok word =>
      have htext : f.expression ++ (" " ++ word ++ " ") ++ part.text =
          f.expression ++ " " ++ word ++ " " ++ part.text := by
        simp only [String.append_assoc]
      exact congrArg (fun s => EStateM.Result.ok () (Filter.mk s f.relation false)) htext

/-- An effect that cannot be had has written nothing. -/
theorem Effect.perform_eq (effect : Effect) (f : Filter) :
    effect.perform f = intact f (f.apply effect) := by
  cases effect with
  | append part => exact perform_append part f
  | nothing => rfl
  | openGroup relation => rfl
  | closeGroup => rfl

/-- **A refused call has written nothing.** -/
theorem Call.perform_eq (call : Call) (f : Filter) :
    call.perform f = intact f (f.run call) := by
  cases heffect : call.effect with
  | error cause =>
    rw [run_of_refused heffect]
    unfold Call.perform
    rw [heffect]
    rfl
  | ok effect =>
    rw [run_of_effect heffect, ← Effect.perform_eq]
    unfold Call.perform
    rw [heffect]
    rfl

/-! ## Calls one after another -/

/-- The first call is made; the others are if it is not refused. -/
theorem performAll_cons (call : Call) (rest : List Call) (f : Filter) :
    performAll (call :: rest) f =
      match f.run call with
      | .ok g => performAll rest g
      | .error cause => .error cause f := by
  show EStateM.bind call.perform (fun _ => performAll rest) f = _
  unfold EStateM.bind
  rw [Call.perform_eq]
  cases f.run call <;> rfl

/-- Calls that are not refused leave the filter that they make. -/
theorem performAll_eq_ok_iff {calls : List Call} {f g : Filter} :
    performAll calls f = .ok () g ↔ f.replay calls = .ok g := by
  induction calls generalizing f with
  | nil =>
    rw [replay_nil, Except.ok.injEq]
    exact ⟨fun h => by cases h; rfl, fun h => h ▸ rfl⟩
  | cons call rest ih =>
    rw [performAll_cons, replay_cons]
    cases f.run call with
    | error cause =>
      constructor
      · intro h
        cases h
      · intro h
        cases h
    | ok next => exact ih

/-- **Calls stop with the filter of those before the refused one.** -/
theorem performAll_eq_error_iff {calls : List Call} {f g : Filter} {cause : Fault} :
    performAll calls f = .error cause g ↔
      ∃ before call rest, calls = before ++ call :: rest ∧ f.replay before = .ok g ∧
        g.run call = .error cause := by
  induction calls generalizing f with
  | nil =>
    constructor
    · intro h
      cases h
    · rintro ⟨before, call, rest, hcalls, -⟩
      exact absurd hcalls (by simp)
  | cons first calls ih =>
    rw [performAll_cons]
    constructor
    · intro h
      cases hrun : f.run first with
      | error refused =>
        rw [hrun] at h
        cases h
        exact ⟨[], first, calls, rfl, rfl, hrun⟩
      | ok next =>
        rw [hrun] at h
        obtain ⟨before, call, rest, rfl, hbefore, hcall⟩ := ih.1 h
        refine ⟨first :: before, call, rest, rfl, ?_, hcall⟩
        rw [replay_cons, hrun]
        exact hbefore
    · rintro ⟨before, call, rest, hcalls, hbefore, hcall⟩
      cases before with
      | nil =>
        obtain ⟨rfl, rfl⟩ := List.cons.inj hcalls
        cases hbefore
        rw [hcall]
      | cons other before =>
        obtain ⟨rfl, rfl⟩ := List.cons.inj hcalls
        obtain ⟨next, hrun, hbefore⟩ := bind_eq_ok_iff.1 hbefore
        rw [hrun]
        exact ih.2 ⟨before, call, rest, rfl, hbefore, hcall⟩

end Filter

end OData
