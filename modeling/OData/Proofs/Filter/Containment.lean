import OData.Proofs.Filter.Mask
import OData.Proofs.Filter.Scanner
import OData.Proofs.Filter.WellTyped

/-!
# Texts stay in their literals

Whatever texts are passed as values, the filter that a sequence of calls builds is read back as the
calls meant it.

* **The whole filter** (`contained`): the scanner ends outside literals, the literals are the texts
  in order, and what stands outside them does not depend on the texts.
* **One piece** (`Piece.reads_tokens`): a piece that is a literal or holds no quote is read as its
  tokens.
* **Two sequences of calls** (`twin_after`, `map_masked_addedAll`): those with the same masks add
  pieces with the same masks.
-/

namespace OData

/-! ## Reading pieces -/

namespace Piece

open OData.Filter

/-- Whether a scanner reads a piece as it is meant: nothing opens a literal but the literal of a
text. -/
def Quiet : Piece → Prop
  | .bare s => '\x27' ∉ s.toList
  | .literal v => v.isDatum = true

/-- What a scanner reads of a piece. -/
def tokens : Piece → List Token
  | .bare s => s.toList.map .bare
  | .literal v =>
    match v.string? with
    | some s => [.literal (s.toList.flatMap Text.slashed)]
    | none => v.literal.toList.map .bare

/-- A value with a text is read as one literal. -/
theorem tokens_of_some {v : Value} {s : String} (h : v.string? = some s) :
    (literal v).tokens = [.literal (s.toList.flatMap Text.slashed)] := by
  simp only [tokens, h]

/-- A value without a text is read as its characters. -/
theorem tokens_of_none {v : Value} (h : v.string? = none) :
    (literal v).tokens = v.literal.toList.map .bare := by
  simp only [tokens, h]

/-- Masking does not decide whether a piece is quiet. -/
theorem quiet_masked_iff (p : Piece) : p.masked.Quiet ↔ p.Quiet := by
  cases p with
  | bare s => rfl
  | literal v =>
    show v.masked.isDatum = true ↔ v.isDatum = true
    rcases v.masked_cases with heq | ⟨s, hs, heq⟩
    · rw [heq]
    · rw [heq]
      cases v <;> simp_all [Value.string?, Value.isDatum]

/-- A quiet piece is read as its tokens. -/
theorem reads_tokens {p : Piece} (h : p.Quiet) : Reads p.text p.tokens := by
  cases p with
  | bare s => exact reads_bare h
  | literal v =>
    cases hv : v.string? with
    | some s =>
      rw [tokens_of_some hv, text_literal, Value.literal_of_string? hv]
      exact reads_literal s
    | none =>
      rw [tokens_of_none hv]
      apply reads_bare
      intro hquote
      have hword : Text.isWordChar '\x27' = true := Value.isWord_literal hv h _ hquote
      exact absurd hword (by decide)

/-- Quiet pieces are read one after another. -/
theorem reads_join {ps : List Piece} (h : ∀ p ∈ ps, p.Quiet) :
    Reads (join ps) (ps.flatMap tokens) := by
  induction ps with
  | nil => exact reads_empty
  | cons p rest ih =>
    rw [join_cons, List.flatMap_cons]
    have hp : p.Quiet := h p List.mem_cons_self
    exact (reads_tokens hp).append (ih fun q hq => h q (List.mem_cons_of_mem p hq))

/-- Characters are read as no literal. -/
theorem filterMap_literal?_map_bare (cs : List Char) :
    (cs.map Token.bare).filterMap Token.literal? = [] := by
  induction cs with
  | nil => rfl
  | cons c cs ih => exact ih

/-- The literals in pieces decode to the texts of their values. -/
theorem decode_literals (ps : List Piece) :
    ((ps.flatMap tokens).filterMap Token.literal?).map decode =
      ((ps.filterMap value?).filterMap Value.string?).map String.toList := by
  induction ps with
  | nil => rfl
  | cons p rest ih =>
    rw [List.flatMap_cons, List.filterMap_append, List.map_append, ih]
    cases p with
    | bare s =>
      unfold tokens
      rw [filterMap_literal?_map_bare]
      rfl
    | literal v =>
      have hvalue : (literal v :: rest).filterMap value? = v :: rest.filterMap value? := rfl
      cases hv : v.string? with
      | none =>
        rw [hvalue, List.filterMap_cons_none hv, tokens_of_none hv, filterMap_literal?_map_bare]
        rfl
      | some s =>
        have hliteral : [Token.literal (s.toList.flatMap Text.slashed)].filterMap Token.literal? =
            [s.toList.flatMap Text.slashed] := rfl
        rw [hvalue, List.filterMap_cons_some hv, tokens_of_some hv, hliteral, List.map_singleton,
          decode_flatMap_slashed]
        rfl

/-- Masking changes nothing outside literals. -/
theorem map_char?_tokens_masked (p : Piece) :
    p.masked.tokens.map Token.char? = p.tokens.map Token.char? := by
  cases p with
  | bare s => rfl
  | literal v =>
    rcases v.masked_cases with heq | ⟨s, hs, heq⟩
    · simp only [masked, heq]
    · rw [masked, heq, tokens_of_some hs]
      rfl

/-- Pieces with the same mask are the same outside literals. -/
theorem outside_eq_of_map_masked_eq {ps qs : List Piece} (h : qs.map masked = ps.map masked) :
    (qs.flatMap tokens).map Token.char? = (ps.flatMap tokens).map Token.char? := by
  have hmasked (rs : List Piece) : (rs.flatMap tokens).map Token.char? =
      (rs.map masked).flatMap fun p => p.tokens.map Token.char? := by
    rw [List.map_flatMap, List.flatMap_map]
    simp only [map_char?_tokens_masked]
  rw [hmasked, hmasked, h]

end Piece

namespace Filter

/-! ## Calls with the same mask -/

/-- Whether two filters take the same calls and join them with the same words. -/
structure Twin (f g : Filter) : Prop where
  /-- Both are at the start, or neither is. -/
  empty : g.expression = "" ↔ f.expression = ""
  /-- The relation in effect is the same. -/
  relation : g.relation = f.relation
  /-- Both have opened a group just now, or neither has. -/
  opened : g.opened = f.opened

namespace Twin

variable {f g : Filter}

theorem atStart (h : Twin f g) : g.atStart = f.atStart := by
  unfold Filter.atStart
  rw [h.opened]
  congr 1
  exact Bool.eq_iff_iff.2 (by simpa using h.empty)

/-- An effect adds the same to both. -/
theorem added_eq (h : Twin f g) (effect : Effect) : effect.added g = effect.added f := by
  cases effect <;> simp only [Effect.added, joinWord, h.atStart, h.relation]

/-- An effect leaves the same relation in both. -/
theorem relation_eq (h : Twin f g) (effect : Effect) : effect.relation g = effect.relation f := by
  cases effect <;> simp only [Effect.relation, h.relation]

/-- An effect leaves a group opened in both, or in neither. -/
theorem opened_eq (h : Twin f g) (effect : Effect) : effect.opened g = effect.opened f := by
  cases effect <;> simp only [Effect.opened, h.opened]

end Twin

namespace Effect

/-- A masked effect adds masked pieces. -/
theorem added_masked (f : Filter) (effect : Effect) :
    effect.masked.added f = (effect.added f).map (List.map Piece.masked) := by
  cases effect with
  | append part =>
    show added f (.append part.masked) = _
    rw [added, added]
    split
    · rfl
    · show ((f.joinWord part.logical).showPlain.map _) = _
      cases (f.joinWord part.logical).showPlain <;> rfl
  | _ => rfl

/-- Effects with the same mask add pieces with the same mask to twins. -/
theorem map_masked_added {f g : Filter} (h : Twin f g) {effect other : Effect}
    (heq : other.masked = effect.masked) :
    (other.added g).map (List.map Piece.masked) =
      (effect.added f).map (List.map Piece.masked) := by
  rw [← added_masked, heq, h.added_eq, added_masked]

/-- Effects with the same mask leave the same relation in twins. -/
theorem relation_of_masked_eq {f g : Filter} (h : Twin f g) {effect other : Effect}
    (heq : other.masked = effect.masked) : other.relation g = effect.relation f := by
  have hmasked (e : Effect) (f : Filter) : e.masked.relation f = e.relation f := by
    cases e <;> rfl
  rw [← hmasked, heq, hmasked, h.relation_eq]

/-- Effects with the same mask leave a group opened in both of two twins, or in neither. -/
theorem opened_of_masked_eq {f g : Filter} (h : Twin f g) {effect other : Effect}
    (heq : other.masked = effect.masked) : other.opened g = effect.opened f := by
  have hmasked (e : Effect) (f : Filter) : e.masked.opened f = e.opened f := by
    cases e <;> rfl
  rw [← hmasked, heq, hmasked, h.opened_eq]

end Effect

/-- Calls with the same mask have the same outcome on twins, up to masking. -/
theorem map_masked_outcome {f g : Filter} (h : Twin f g) {call other : Call}
    (heq : other.masked = call.masked) :
    (other.effect.bind (Effect.added g)).map (List.map Piece.masked) =
      (call.effect.bind (Effect.added f)).map (List.map Piece.masked) := by
  have heffect : other.effect.map Effect.masked = call.effect.map Effect.masked := by
    rw [← effect_masked, ← effect_masked, heq]
  cases hcall : call.effect with
  | error cause =>
    rw [hcall] at heffect
    cases hother : other.effect with
    | error other =>
      rw [hother] at heffect
      cases heffect
      rfl
    | ok effect =>
      rw [hother] at heffect
      cases heffect
  | ok effect =>
    rw [hcall] at heffect
    cases hother : other.effect with
    | error other =>
      rw [hother] at heffect
      cases heffect
    | ok other =>
      rw [hother] at heffect
      exact Effect.map_masked_added h (Except.ok.inj heffect)

/-- **Calls with the same mask add pieces with the same mask** to twins, and leave twins. -/
theorem twin_after {f g : Filter} (h : Twin f g) {call other : Call}
    (heq : other.masked = call.masked) :
    (g.added other).map Piece.masked = (f.added call).map Piece.masked ∧
      Twin (f.after call) (g.after other) := by
  have houtcome := map_masked_outcome h heq
  have heffect : other.effect.map Effect.masked = call.effect.map Effect.masked := by
    rw [← effect_masked, ← effect_masked, heq]
  rcases f.after_cases call with
    ⟨cause, hf, hafter, hadded, -⟩ | ⟨effect, ps, hcall, hps, hafter, hadded⟩
  · rcases g.after_cases other with
      ⟨cause, hg, hafter', hadded', -⟩ | ⟨effect, qs, hother, hqs, -, -⟩
    · rw [hadded, hadded', hafter, hafter']
      exact ⟨rfl, h⟩
    · rw [hf, hother] at houtcome
      simp [Except.bind, hqs, Except.map] at houtcome
  · rcases g.after_cases other with
      ⟨cause, hg, -, -, -⟩ | ⟨second, qs, hother, hqs, hafter', hadded'⟩
    · rw [hg, hcall] at houtcome
      simp [Except.bind, hps, Except.map] at houtcome
    · have hmasked : qs.map Piece.masked = ps.map Piece.masked := by
        rw [hcall, hother] at houtcome
        simpa [Except.bind, hps, hqs, Except.map] using houtcome
      have hsame : second.masked = effect.masked := by
        rw [hcall, hother] at heffect
        exact Except.ok.inj heffect
      rw [hadded, hadded', hafter, hafter']
      refine ⟨hmasked, ?_, Effect.relation_of_masked_eq h hsame, Effect.opened_of_masked_eq h hsame⟩
      rw [String.append_eq_empty_iff, String.append_eq_empty_iff, h.empty,
        ← Piece.join_map_masked_eq_empty_iff qs, hmasked, Piece.join_map_masked_eq_empty_iff ps]

/-- Sequences of calls with the same masks add pieces with the same masks. -/
theorem map_masked_addedAll {f g : Filter} (h : Twin f g) {calls others : List Call}
    (heq : others.map Call.masked = calls.map Call.masked) :
    (g.addedAll others).map Piece.masked = (f.addedAll calls).map Piece.masked := by
  induction calls generalizing f g others with
  | nil =>
    obtain rfl := List.map_eq_nil_iff.1 heq
    rfl
  | cons call rest ih =>
    obtain ⟨other, others, rfl, hcall, hrest⟩ := List.map_eq_cons_iff.1 heq
    obtain ⟨hadded, hafter⟩ := twin_after h hcall
    rw [addedAll, addedAll, List.map_append, List.map_append, hadded, ih hafter hrest]

/-! ## Texts stay in their literals -/

/-- Whether no name of a call holds a quote and no value of it is an object. -/
structure Call.Plain (call : Call) : Prop where
  /-- No name holds a quote. -/
  names : ∀ name ∈ call.names, '\x27' ∉ name.toList
  /-- No value is an object. -/
  values : ∀ v ∈ call.values, v.isDatum = true

/-- The texts that calls emit: those of the values that they write. -/
def emitted (calls : List Call) : List String :=
  (empty.writtenAll calls).filterMap Value.string?

/-- The texts among the values of a call. An idle call has none. -/
def Call.texts (call : Call) : List String :=
  if call.isIdle then [] else call.values.filterMap Value.string?

/-- Well-typed calls emit all of their texts. -/
theorem emitted_of_wellTyped {calls : List Call} (h : ∀ call ∈ calls, call.WellTyped) :
    emitted calls = calls.flatMap Call.texts := by
  have htexts : (fun call : Call => (if call.isIdle then [] else call.values).filterMap
      Value.string?) = Call.texts := by
    funext call
    unfold Call.texts
    split <;> rfl
  unfold emitted
  rw [writtenAll_of_wellTyped (Or.inl rfl) h, List.filterMap_flatMap, htexts]

/-- What plain calls add is quiet. -/
theorem quiet_addedAll {calls : List Call} (h : ∀ call ∈ calls, call.Plain) :
    ∀ p ∈ empty.addedAll calls, p.Quiet := by
  intro p hp
  rcases addedAll_cases hp with ⟨s, rfl, hmade⟩ | ⟨v, rfl, call, hcall, hv⟩
  · refine hmade.not_mem (by decide) (List.forall_mem_cons.2 ⟨by decide, fun name hname => ?_⟩)
    obtain ⟨call, hcall, hname⟩ := List.mem_flatMap.1 hname
    exact (h call hcall).names name hname
  · exact (h call hcall).values v hv

/-- **Texts stay in their literals.** The scan of the filter that calls build ends outside literals;
the literals are the texts that the calls emit, in order, and well-typed calls emit all of theirs;
and calls that differ in texts alone build a filter that is the same outside literals. -/
theorem contained {calls : List Call} (h : ∀ call ∈ calls, call.Plain) :
    (scan (empty.runAll calls).expression).mode = .outside ∧
      (scan (empty.runAll calls).expression).literals.map decode =
        (emitted calls).map String.toList ∧
      ((∀ call ∈ calls, call.WellTyped) → emitted calls = calls.flatMap Call.texts) ∧
      ∀ others : List Call, others.map Call.masked = calls.map Call.masked →
        (scan (empty.runAll others).expression).outside =
          (scan (empty.runAll calls).expression).outside := by
  have hscan {listed : List Call} (hquiet : ∀ p ∈ empty.addedAll listed, p.Quiet) :
      scan (empty.runAll listed).expression =
        ⟨(empty.addedAll listed).flatMap Piece.tokens, .outside⟩ := by
    rw [expression_runAll]
    exact ((Piece.reads_join hquiet).scan_eq)
  have hquiet := quiet_addedAll h
  refine ⟨?_, ?_, emitted_of_wellTyped, ?_⟩
  · rw [hscan hquiet]
  · rw [hscan hquiet]
    show ((_ : List Token).filterMap Token.literal?).map decode = _
    rw [Piece.decode_literals, (writes_addedAll empty calls).literals]
    rfl
  · intro others hmasks
    have hmasked := map_masked_addedAll (⟨Iff.rfl, rfl, rfl⟩ : Twin empty empty) hmasks
    have hothers : ∀ p ∈ empty.addedAll others, p.Quiet := by
      intro p hp
      have hmem : p.masked ∈ (empty.addedAll calls).map Piece.masked :=
        hmasked ▸ List.mem_map_of_mem hp
      obtain ⟨q, hq, heq⟩ := List.mem_map.1 hmem
      exact p.quiet_masked_iff.1 (heq ▸ q.quiet_masked_iff.2 (hquiet q hq))
    rw [hscan hquiet, hscan hothers]
    exact Piece.outside_eq_of_map_masked_eq hmasked

/-- Two tests and an unclosed group, whose texts hold quotes, backslashes and joining words. -/
theorem contained_of_hostile_texts :
    let calls (first second third : String) : List Call := [
      .textFunction .contains (.value (.text "Name")) (.text first) (.text "and"),
      .openGroup (.text "or"),
      .compare (.value (.text "City")) (.text "eq") (.text second) (.text "and"),
      .oneOf (.value (.text "Code")) (.list [.int 3, .list [.text third, .null]]) (.text "and")]
    let hostile := calls "x' or 'a' eq 'a" "\x5c" ")\x5c'"
    let tame := calls "x" "y" "z"
    (∀ call ∈ hostile, call.Plain) ∧ (∀ call ∈ hostile, call.WellTyped) ∧
      tame.map Call.masked = hostile.map Call.masked ∧
      emitted hostile = hostile.flatMap Call.texts ∧
      emitted hostile = ["x' or 'a' eq 'a", "\x5c", ")\x5c',None"] ∧
      (scan (empty.runAll hostile).expression).mode = .outside ∧
      (scan (empty.runAll hostile).expression).literals.map decode =
        (emitted hostile).map String.toList ∧
      (scan (empty.runAll tame).expression).outside =
        (scan (empty.runAll hostile).expression).outside := by
  intro calls hostile tame
  have hplain : ∀ call ∈ hostile, call.Plain := by
    intro call hcall
    simp only [hostile, calls, List.mem_cons, List.not_mem_nil, or_false] at hcall
    rcases hcall with rfl | rfl | rfl | rfl <;> exact ⟨by decide, by decide⟩
  have hwell : ∀ call ∈ hostile, call.WellTyped := by
    intro call hcall
    simp only [hostile, calls, List.mem_cons, List.not_mem_nil, or_false] at hcall
    rcases hcall with rfl | rfl | rfl | rfl
    · exact .textFunction rfl
    · exact .openGroup
    · exact .compare (Or.inr ⟨"eq", rfl⟩) rfl
    · exact .oneOf rfl (by decide)
  have hmasks : tame.map Call.masked = hostile.map Call.masked := rfl
  obtain ⟨hmode, hliterals, hall, houtside⟩ := contained hplain
  exact ⟨hplain, hwell, hmasks, hall hwell, by decide, hmode, hliterals, houtside tame hmasks⟩

end Filter

end OData
