import OData.Filter.Call

/-!
# Calls one after another

`replay` makes calls in order and stops at the first that is refused.

* **One operation** (`run_of_effect`, `append_of_atStart`, `append_of_not_atStart`): what it does to
  the three facts of a filter, so that later proofs need not open the operations.
* **Idle calls** (`replay_filter_not_isIdle`): a distance from a point that names none of its parts
  is idle, and leaving such calls out of a sequence changes nothing.
-/

namespace OData.Filter

/-- The filter after calls made one after another, or why the first refused one was refused. -/
def replay (f : Filter) : List Call → Except Fault Filter
  | [] => .ok f
  | call :: rest => do
    let f ← f.run call
    f.replay rest

@[simp] theorem replay_nil (f : Filter) : f.replay [] = .ok f := rfl

theorem replay_cons (f : Filter) (call : Call) (rest : List Call) :
    f.replay (call :: rest) = (f.run call >>= fun f => f.replay rest) := rfl

/-- Calls can be made in two goes. -/
theorem replay_append (f : Filter) (calls more : List Call) :
    f.replay (calls ++ more) = (f.replay calls >>= fun f => f.replay more) := by
  induction calls generalizing f with
  | nil => rfl
  | cons call rest ih =>
    rw [List.cons_append, replay_cons, replay_cons]
    cases f.run call with
    | error cause => rfl
    | ok g => exact ih g

/-- One call alone. -/
@[simp] theorem replay_singleton (f : Filter) (call : Call) : f.replay [call] = f.run call := by
  rw [replay_cons]
  cases f.run call <;> rfl

/-! ## One operation -/

@[simp] theorem run_openGroup (f : Filter) (relation : Value) :
    f.run (.openGroup relation) = .ok (f.openGroup relation) := rfl

@[simp] theorem run_closeGroup (f : Filter) :
    f.run .closeGroup = .ok ⟨f.expression ++ ")", f.relation, false⟩ := rfl

/-- A filter is at the start inside a group that was opened just now. -/
@[simp] theorem atStart_openGroup (f : Filter) (relation : Value) :
    (f.openGroup relation).atStart = true := by
  simp [openGroup, atStart]

/-- At the start a group is opened without a join. -/
theorem expression_openGroup_of_atStart {f : Filter} (h : f.atStart = true) (relation : Value) :
    (f.openGroup relation).expression = f.expression ++ "(" := by
  simp [openGroup, h]

/-- Elsewhere the parenthesis follows the same word whatever the relation is. -/
theorem expression_openGroup_of_not_atStart {f : Filter} (h : f.atStart = false)
    (relation : Value) : (f.openGroup relation).expression = f.expression ++ " AND " ++ "(" := by
  have hword : " AND (" = " AND " ++ "(" := rfl
  rw [String.append_assoc, ← hword]
  simp [openGroup, h]

/-- A call with an effect has it on the filter. -/
theorem run_of_effect {call : Call} {effect : Effect} (h : call.effect = .ok effect) (f : Filter) :
    f.run call = f.apply effect := by
  unfold run
  rw [h]
  rfl

/-- A refused call is refused on every filter. -/
theorem run_of_refused {call : Call} {cause : Fault} (h : call.effect = .error cause)
    (f : Filter) : f.run call = .error cause := by
  unfold run
  rw [h]
  rfl

/-- A filter is not at the start once something was written after its last parenthesis. -/
theorem atStart_eq_false_iff {f : Filter} :
    f.atStart = false ↔ f.expression ≠ "" ∧ f.opened = false := by
  simp [atStart]

/-- At the start a part is appended without a join. -/
theorem append_of_atStart {f : Filter} (h : f.atStart = true) (part : Part) :
    f.append part = .ok ⟨f.expression ++ part.text, f.relation, false⟩ := by
  unfold append
  rw [if_pos h]

/-- Elsewhere the part follows the joining word between spaces. -/
theorem append_of_not_atStart {f : Filter} (h : f.atStart = false) (part : Part) :
    f.append part = (f.joinWord part.logical).showPlain.map fun word =>
      ⟨f.expression ++ " " ++ word ++ " " ++ part.text, f.relation, false⟩ := by
  unfold append
  rw [if_neg (by simp [h])]
  cases (f.joinWord part.logical).showPlain <;> rfl

/-- The text of a part is not empty. -/
theorem part_text_ne_empty (part : Part) : part.text ≠ "" :=
  part.written

/-! ## Idle calls -/

/-- Whether a call does nothing: a distance from a point that names none of its parts. -/
def Call.isIdle : Call → Bool
  | .distance _ _ point _ =>
    match Part.namesPart point with
    | .ok named => !named
    | .error _ => false
  | _ => false

/-- An idle call has no effect. -/
theorem effect_of_isIdle {call : Call} (h : call.isIdle = true) : call.effect = .ok .nothing := by
  cases call with
  | distance field operator point logical =>
    unfold Call.isIdle at h
    cases hn : Part.namesPart point with
    | error cause => simp [hn] at h
    | ok named =>
      have hfalse : named = false := by simpa [hn] using h
      simp only [Call.effect, hn, hfalse]
      rfl
  | _ => cases h

/-- An idle call leaves the filter as it is. -/
theorem run_of_isIdle {call : Call} (h : call.isIdle = true) (f : Filter) :
    f.run call = .ok f :=
  run_of_effect (effect_of_isIdle h) f

/-- Leaving out the idle calls of a sequence changes nothing. -/
theorem replay_filter_not_isIdle (f : Filter) (calls : List Call) :
    f.replay (calls.filter fun call => !call.isIdle) = f.replay calls := by
  induction calls generalizing f with
  | nil => rfl
  | cons call rest ih =>
    by_cases h : call.isIdle = true
    · rw [List.filter_cons_of_neg (by simp [h]), ih, replay_cons, run_of_isIdle h]
      rfl
    · rw [List.filter_cons_of_pos (by simpa using h), replay_cons, replay_cons]
      cases f.run call with
      | error cause => rfl
      | ok g => exact ih g

end OData.Filter
