import OData.Proofs.Filter.Replay
import OData.Proofs.Filter.Writes

/-!
# What calls add

* **Expressions** (`expression_after`, `expression_runAll`): a call extends the expression of a
  filter by pieces, and a sequence of calls by the pieces of its calls.
* **What the pieces hold** (`writes_added`, `writes_addedAll`): the values that the calls write, as
  literals and in order, and outside them nothing but the names of the calls, the relation in effect
  and punctuation.
* **Where a piece comes from** (`addedAll_cases`): each of them is the literal of a value of one of
  the calls, or bare text made of names and punctuation.
-/

namespace OData.Filter

/-! ## What an effect adds -/

namespace Effect

/-- The pieces that an effect adds to a filter, or why it cannot be done. -/
def added (f : Filter) : Effect → Except Fault (List Piece)
  | .append part =>
    if f.atStart then .ok part.pieces
    else (f.joinWord part.logical).showPlain.map fun word =>
      .bare (" " ++ word ++ " ") :: part.pieces
  | .nothing => .ok []
  | .openGroup _ => .ok [.bare (if f.atStart then "(" else " AND (")]
  | .closeGroup => .ok [.bare ")"]

/-- The relation in effect after an effect. -/
def relation (f : Filter) : Effect → Value
  | .openGroup relation => relation
  | _ => f.relation

/-- Whether a group was opened just now, after an effect. -/
def opened (f : Filter) : Effect → Bool
  | .openGroup _ => true
  | .nothing => f.opened
  | _ => false

end Effect

/-- An effect adds its pieces to the expression and sets the two facts. -/
theorem apply_eq (f : Filter) (effect : Effect) :
    f.apply effect = (effect.added f).map fun ps =>
      ⟨f.expression ++ Piece.join ps, effect.relation f, effect.opened f⟩ := by
  cases effect with
  | append part =>
    show f.append part = _
    by_cases hstart : f.atStart = true
    · rw [append_of_atStart hstart, Effect.added, if_pos hstart]
      rfl
    · rw [append_of_not_atStart (by simpa using hstart), Effect.added, if_neg hstart]
      cases (f.joinWord part.logical).showPlain with
      | error cause => rfl
      | ok word =>
        simp [Except.map, Part.text, String.append_assoc, Effect.relation, Effect.opened]
  | nothing =>
    simp [apply, Effect.added, Except.map, Effect.relation, Effect.opened]
  | openGroup relation =>
    simp [apply, openGroup, Effect.added, Except.map, Effect.relation, Effect.opened]
  | closeGroup =>
    simp [apply, closeGroup, Effect.added, Except.map, Effect.relation, Effect.opened]

/-! ## What a call adds -/

/-- The filter after a call, which a refused call leaves as it was. -/
def after (f : Filter) (call : Call) : Filter :=
  (f.run call).toOption.getD f

/-- The pieces that a call adds to a filter; a refused call adds none. -/
def added (f : Filter) (call : Call) : List Piece :=
  (call.effect.bind (Effect.added f)).toOption.getD []

/-- The values that a call writes: its own, unless it is refused or appends nothing. -/
def written (f : Filter) (call : Call) : List Value :=
  match call.effect, f.run call with
  | .ok (.append _), .ok _ => call.values
  | _, _ => []

/-- What a call leaves, if its effect adds pieces. -/
theorem run_after {f : Filter} {call : Call} {effect : Effect} {ps : List Piece}
    (heffect : call.effect = .ok effect) (hps : effect.added f = .ok ps) :
    f.run call = .ok (f.after call) ∧
      f.after call = ⟨f.expression ++ Piece.join ps, effect.relation f, effect.opened f⟩ := by
  have hrun := run_of_effect heffect f
  rw [apply_eq, hps] at hrun
  unfold after
  rw [hrun]
  exact ⟨rfl, rfl⟩

/-- A call is refused and adds nothing, or it adds the pieces of its effect. -/
theorem after_cases (f : Filter) (call : Call) :
    (∃ cause, call.effect.bind (Effect.added f) = .error cause ∧
      f.after call = f ∧ f.added call = [] ∧ f.written call = []) ∨
    (∃ effect ps, call.effect = .ok effect ∧ effect.added f = .ok ps ∧
      f.after call = ⟨f.expression ++ Piece.join ps, effect.relation f, effect.opened f⟩ ∧
      f.added call = ps) := by
  cases heffect : call.effect with
  | error cause =>
    left
    refine ⟨cause, rfl, ?_, ?_, ?_⟩
    · unfold after
      rw [run_of_refused heffect]
      rfl
    · unfold added
      rw [heffect]
      rfl
    · unfold written
      rw [heffect]
  | ok effect =>
    cases hadded : effect.added f with
    | error cause =>
      left
      have hrun := run_of_effect heffect f
      rw [apply_eq, hadded] at hrun
      refine ⟨cause, hadded, ?_, ?_, ?_⟩
      · unfold after
        rw [hrun]
        rfl
      · simp [added, heffect, Except.bind, hadded, Except.toOption]
      · simp [written, hrun, Except.map]
    | ok ps =>
      right
      refine ⟨effect, ps, rfl, hadded, (run_after heffect hadded).2, ?_⟩
      simp [added, heffect, Except.bind, hadded, Except.toOption]

/-- The expression after a call is extended by what the call adds. -/
theorem expression_after (f : Filter) (call : Call) :
    (f.after call).expression = f.expression ++ Piece.join (f.added call) := by
  rcases f.after_cases call with ⟨cause, -, hafter, hadded, -⟩ | ⟨effect, ps, -, -, hafter, hadded⟩
  · rw [hafter, hadded, Piece.join_nil, String.append_empty]
  · rw [hafter, hadded]

/-- What an effect adds is made of the words in effect and what its part is made of. -/
theorem writes_added_append {f : Filter} {part : Part} {names : List String} {values : List Value}
    {ps : List Piece} (hpart : Writes names values part.pieces)
    (hlogical : MadeOf names part.logical.plain) (hrelation : f.relation.plain ∈ names)
    (h : (Effect.append part).added f = .ok ps) : Writes names values ps := by
  rw [Effect.added] at h
  split at h
  · cases h
    exact hpart
  · obtain ⟨word, hword, rfl⟩ := map_eq_ok_iff.1 h
    have hspace : MadeOf names " " := .punctuation rfl
    have hmade : MadeOf names word := by
      rw [Value.eq_plain_of_showPlain hword]
      unfold joinWord
      split
      · exact hlogical
      · exact .name hrelation
    exact .bare ((hspace.append hmade).append hspace) hpart

/-- **What a call adds**: the values that it writes, as literals, and outside them nothing but its
names, the relation in effect and punctuation. -/
theorem writes_added (f : Filter) (call : Call) :
    Writes (f.relation.plain :: call.names) (f.written call) (f.added call) := by
  rcases f.after_cases call with
    ⟨cause, -, -, hadded, hwritten⟩ | ⟨effect, ps, heffect, hps, -, hadded⟩
  · rw [hadded, hwritten]
    exact .nil
  · rw [hadded]
    unfold written
    rw [heffect, (run_after heffect hps).1]
    cases effect with
    | append part =>
      obtain ⟨hwrites, hlogical⟩ := writes_of_effect heffect
      exact writes_added_append (hwrites.mono (List.subset_cons_self _ _))
        (hlogical.mono (List.subset_cons_self _ _)) List.mem_cons_self hps
    | nothing =>
      cases hps
      exact .nil
    | openGroup relation =>
      cases hps
      refine .bare ?_ .nil
      split <;> exact .punctuation rfl
    | closeGroup =>
      cases hps
      exact .bare (.punctuation rfl) .nil

/-- Only a call that opens a group has this effect. -/
theorem eq_openGroup_of_effect {call : Call} {relation : Value}
    (h : call.effect = .ok (.openGroup relation)) : call = .openGroup relation := by
  cases call with
  | openGroup given =>
    cases h
    rfl
  | closeGroup => cases h
  | distance field operator point logical =>
    obtain ⟨named, -, h⟩ := bind_eq_ok_iff.1 h
    split at h
    · split at h
      · obtain ⟨part, -, h⟩ := map_eq_ok_iff.1 h
        cases h
      · cases h
    · cases h
  | _ =>
    obtain ⟨part, -, h⟩ := map_eq_ok_iff.1 h
    cases h

/-- The relation in effect after a call is the one before it or one of its names. -/
theorem relation_after_mem (f : Filter) (call : Call) :
    (f.after call).relation.plain ∈ f.relation.plain :: call.names := by
  rcases f.after_cases call with ⟨cause, -, hafter, -⟩ | ⟨effect, ps, heffect, -, hafter, -⟩
  · rw [hafter]
    exact List.mem_cons_self
  · rw [hafter]
    cases effect with
    | openGroup relation =>
      obtain rfl := eq_openGroup_of_effect heffect
      exact List.mem_cons_of_mem _ List.mem_cons_self
    | _ => exact List.mem_cons_self

/-! ## What calls add -/

/-- The pieces that calls add one after another. -/
def addedAll (f : Filter) : List Call → List Piece
  | [] => []
  | call :: rest => f.added call ++ (f.after call).addedAll rest

/-- The values that calls write one after another. -/
def writtenAll (f : Filter) : List Call → List Value
  | [] => []
  | call :: rest => f.written call ++ (f.after call).writtenAll rest

theorem runAll_cons (f : Filter) (call : Call) (rest : List Call) :
    f.runAll (call :: rest) = (f.after call).runAll rest := rfl

/-- The expression after calls is extended by what they add. -/
theorem expression_runAll (f : Filter) (calls : List Call) :
    (f.runAll calls).expression = f.expression ++ Piece.join (f.addedAll calls) := by
  induction calls generalizing f with
  | nil => exact (String.append_empty).symm
  | cons call rest ih =>
    rw [runAll_cons, ih, expression_after, addedAll, Piece.join_append, String.append_assoc]

/-- Calls that are all made leave what they leave where refused calls are passed over. -/
theorem runAll_of_replay {f g : Filter} {calls : List Call} (h : f.replay calls = .ok g) :
    f.runAll calls = g := by
  induction calls generalizing f with
  | nil => exact Except.ok.inj h
  | cons call rest ih =>
    obtain ⟨middle, hrun, hrest⟩ := bind_eq_ok_iff.1 h
    have hafter : f.after call = middle := by
      unfold after
      rw [hrun]
      rfl
    rw [runAll_cons, hafter, ih hrest]

/-- What calls add: the values that they write, and outside them their names and punctuation. -/
theorem writes_addedAll (f : Filter) (calls : List Call) :
    Writes (f.relation.plain :: calls.flatMap Call.names) (f.writtenAll calls)
      (f.addedAll calls) := by
  induction calls generalizing f with
  | nil => exact .nil
  | cons call rest ih =>
    have hcall : f.relation.plain :: call.names ⊆
        f.relation.plain :: (call :: rest).flatMap Call.names := by
      rw [List.flatMap_cons]
      exact List.cons_subset_cons _ (List.subset_append_left _ _)
    have hrest : (f.after call).relation.plain :: rest.flatMap Call.names ⊆
        f.relation.plain :: (call :: rest).flatMap Call.names := by
      apply List.cons_subset.2 ⟨hcall (relation_after_mem f call), ?_⟩
      rw [List.flatMap_cons]
      exact List.subset_cons_of_subset _ (List.subset_append_right _ _)
    exact ((writes_added f call).mono hcall).append ((ih (f.after call)).mono hrest)

/-- The values that calls write are among their own. -/
theorem exists_mem_values_of_writtenAll {f : Filter} {calls : List Call} {v : Value}
    (hv : v ∈ f.writtenAll calls) : ∃ call ∈ calls, v ∈ call.values := by
  induction calls generalizing f with
  | nil => cases hv
  | cons call rest ih =>
    rcases List.mem_append.1 hv with hcall | hrest
    · refine ⟨call, List.mem_cons_self, ?_⟩
      unfold written at hcall
      split at hcall
      · exact hcall
      · cases hcall
    · obtain ⟨other, hother, hvalue⟩ := ih hrest
      exact ⟨other, List.mem_cons_of_mem call hother, hvalue⟩

/-- **Each piece that calls add** is bare text made of their names and punctuation, or the literal
of one of their values. -/
theorem addedAll_cases {f : Filter} {calls : List Call} {p : Piece} (hp : p ∈ f.addedAll calls) :
    (∃ s, p = .bare s ∧ MadeOf (f.relation.plain :: calls.flatMap Call.names) s) ∨
      ∃ v, p = .literal v ∧ ∃ call ∈ calls, v ∈ call.values := by
  have hwrites := writes_addedAll f calls
  cases p with
  | bare s => exact Or.inl ⟨s, rfl, hwrites.rest s hp⟩
  | literal v =>
    have hwritten : v ∈ f.writtenAll calls := by
      rw [← hwrites.literals]
      exact List.mem_filterMap.2 ⟨.literal v, hp, rfl⟩
    exact Or.inr ⟨v, rfl, exists_mem_values_of_writtenAll hwritten⟩

end OData.Filter
