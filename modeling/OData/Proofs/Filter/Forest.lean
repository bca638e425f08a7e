import OData.Proofs.Filter.Replay

/-!
# Filters as forests

A sequence of calls whose groups match describes a forest: conditions, and groups with a relation
and a forest inside (`Node`).

* **Rendering** (`Node.render`): it writes a forest without keeping any state of a filter. It looks
  at the forest alone, and the word in front of a condition is found by looking back to the group
  that was opened last.
* **Replaying** (`expression_of_forest`): the calls of a forest, with idle calls put in anywhere,
  write the rendering of the forest.

The proof carries a filter along a list of siblings. Two cases are kept apart: siblings from the
first on, where the filter is at the start (`replay_siblings`), and siblings after another, where it
is not (`replay_later`).
-/

namespace OData.Filter

/-- A member of a forest. -/
inductive Node where
  /-- A call that appends a part or is refused. -/
  | condition (call : Call) (outcome : Except Fault Part)
      (appends : call.effect = outcome.map .append)
  /-- A group with its relation and its members. -/
  | group (relation : String) (members : List Node)

namespace Node

/-! ## The calls of a forest -/

mutual

/-- The calls that a node stands for. -/
def calls : Node → List Call
  | .condition call _ _ => [call]
  | .group relation members => .openGroup (.text relation) :: (callsOf members ++ [.closeGroup])

/-- The calls that siblings stand for. -/
def callsOf : List Node → List Call
  | [] => []
  | n :: rest => n.calls ++ callsOf rest

end

/-! ## The rendering of a forest -/

mutual

/-- The relation of the group that was opened last once a node is complete, given the one before
it. -/
def lastRelation (before : Option String) : Node → Option String
  | .condition _ _ _ => before
  | .group relation members => lastRelationOf (some relation) members

/-- The relation of the group that was opened last once siblings are complete. -/
def lastRelationOf (before : Option String) : List Node → Option String
  | [] => before
  | n :: rest => lastRelationOf (n.lastRelation before) rest

end

/-- What stands between a node and the sibling before it: for a condition, the relation of the group
that was opened last or else the condition's own word; for a group, always the same word. -/
def joint (last : Option String) : Node → Except Fault String
  | .condition _ outcome _ => do
    let part ← outcome
    let word ← (last.elim part.logical .text).showPlain
    .ok (" " ++ word ++ " ")
  | .group _ _ => .ok " AND "

mutual

/-- The text of a node by itself. -/
def text : Node → Except Fault String
  | .condition _ outcome _ => outcome.map Part.text
  | .group relation members => do
    let inside ← siblings (some relation) members
    .ok ("(" ++ inside ++ ")")

/-- The text of siblings from the first on. -/
def siblings (last : Option String) : List Node → Except Fault String
  | [] => .ok ""
  | n :: rest => do
    let text ← n.text
    let others ← later (n.lastRelation last) rest
    .ok (text ++ others)

/-- The text of siblings that follow another. -/
def later (last : Option String) : List Node → Except Fault String
  | [] => .ok ""
  | n :: rest => do
    let text ← n.text
    let joint ← n.joint last
    let others ← later (n.lastRelation last) rest
    .ok (joint ++ text ++ others)

end

/-- The text of a forest. -/
def render (forest : List Node) : Except Fault String :=
  siblings none forest

mutual

/-- Whether no call of a node is refused and every joining word is a text. -/
def Accepted : Node → Prop
  | .condition _ outcome _ => ∃ part word, outcome = .ok part ∧ part.logical = .text word
  | .group _ members => AllAccepted members

/-- Whether no call of siblings is refused and every joining word is a text. -/
def AllAccepted : List Node → Prop
  | [] => True
  | n :: rest => n.Accepted ∧ AllAccepted rest

end

/-! ## Accepted forests have a text -/

/-- An accepted node has a joint. -/
theorem exists_joint {n : Node} (h : n.Accepted) (last : Option String) :
    ∃ s, n.joint last = .ok s := by
  cases n with
  | condition call outcome appends =>
    rw [Accepted] at h
    obtain ⟨part, word, rfl, hlogical⟩ := h
    cases last with
    | none =>
      refine ⟨" " ++ word ++ " ", ?_⟩
      have hword : part.logical.showPlain = .ok word := by rw [hlogical, Value.showPlain_text]
      show (do let shown ← part.logical.showPlain; Except.ok (" " ++ shown ++ " ")) = _
      rw [hword]
      rfl
    | some relation => exact ⟨" " ++ relation ++ " ", rfl⟩
  | group relation members => exact ⟨" AND ", rfl⟩

mutual

/-- An accepted node has a text. -/
theorem exists_text : (n : Node) → n.Accepted → ∃ s, n.text = .ok s
  | .condition _ outcome _, h => by
    rw [Accepted] at h
    obtain ⟨part, _, rfl, _⟩ := h
    exact ⟨part.text, rfl⟩
  | .group relation members, h => by
    rw [Accepted] at h
    obtain ⟨inside, hinside⟩ := exists_siblings members h (some relation)
    exact ⟨"(" ++ inside ++ ")", by rw [text, hinside]; rfl⟩

/-- Accepted siblings have a text. -/
theorem exists_siblings : (ns : List Node) → AllAccepted ns → ∀ last, ∃ s, siblings last ns = .ok s
  | [], _, _ => ⟨"", rfl⟩
  | n :: rest, h, last => by
    rw [AllAccepted] at h
    obtain ⟨s, hs⟩ := exists_text n h.1
    obtain ⟨t, ht⟩ := exists_later rest h.2 (n.lastRelation last)
    exact ⟨s ++ t, by rw [siblings, hs]; simp only [ht]; rfl⟩

/-- Accepted siblings have a text after another. -/
theorem exists_later : (ns : List Node) → AllAccepted ns → ∀ last, ∃ s, later last ns = .ok s
  | [], _, _ => ⟨"", rfl⟩
  | n :: rest, h, last => by
    rw [AllAccepted] at h
    obtain ⟨s, hs⟩ := exists_text n h.1
    obtain ⟨j, hj⟩ := exists_joint h.1 last
    obtain ⟨t, ht⟩ := exists_later rest h.2 (n.lastRelation last)
    exact ⟨j ++ s ++ t, by rw [later, hs, hj]; simp only [ht]; rfl⟩

end

/-! ## Replaying the calls of a forest -/

/-- The relation that a filter tracks once the given group was opened last. -/
def tracked (last : Option String) : Value :=
  last.elim .null .text

/-- The word that joins the next part is the relation of the group opened last, or else the given
one. -/
theorem joinWord_of_tracked {f : Filter} {last : Option String} (h : f.relation = tracked last)
    (logical : Value) : f.joinWord logical = last.elim logical .text := by
  unfold joinWord
  cases last with
  | none => rw [h]; rfl
  | some relation => rw [h]; rfl

/-- The text of a node is not empty. -/
theorem text_ne_empty {n : Node} {s : String} (h : n.text = .ok s) : s ≠ "" := by
  cases n with
  | condition call outcome appends =>
    obtain ⟨part, -, rfl⟩ := map_eq_ok_iff.1 h
    exact part_text_ne_empty part
  | group relation members =>
    rw [text] at h
    obtain ⟨inside, -, hs⟩ := bind_eq_ok_iff.1 h
    cases hs
    simp

/-- What a node adds to a filter: its text, after its joint unless the filter is at the start. -/
def addition (f : Filter) (last : Option String) (n : Node) : Except Fault String :=
  if f.atStart then n.text
  else do
    let text ← n.text
    let joint ← n.joint last
    .ok (joint ++ text)

/-- At the start a node adds its text. -/
theorem addition_of_atStart {f : Filter} (hf : f.atStart = true) (last : Option String)
    (n : Node) : n.addition f last = n.text := by
  unfold addition
  rw [if_pos hf]

/-- Elsewhere it adds its joint and its text. -/
theorem addition_of_not_atStart {f : Filter} (hf : f.atStart = false) (last : Option String)
    (n : Node) : n.addition f last = (do
      let text ← n.text
      let joint ← n.joint last
      .ok (joint ++ text)) := by
  unfold addition
  rw [if_neg (by simp [hf])]

/-- What a node adds is not empty. -/
theorem addition_ne_empty {f : Filter} {last : Option String} {n : Node} {s : String}
    (h : n.addition f last = .ok s) : s ≠ "" := by
  cases hf : f.atStart with
  | true =>
    rw [addition_of_atStart hf] at h
    exact text_ne_empty h
  | false =>
    rw [addition_of_not_atStart hf] at h
    obtain ⟨t, ht, h⟩ := bind_eq_ok_iff.1 h
    obtain ⟨j, -, h⟩ := bind_eq_ok_iff.1 h
    cases h
    simp [text_ne_empty ht]

/-- A filter to which something was added is not at the start. -/
theorem atStart_of_addition {f : Filter} {last : Option String} {n : Node} {s : String}
    (h : n.addition f last = .ok s) (relation : Value) :
    (Filter.mk (f.expression ++ s) relation false).atStart = false := by
  rw [atStart_eq_false_iff]
  exact ⟨by simp [addition_ne_empty h], rfl⟩

/-- The call of a condition writes what the condition adds. -/
theorem replay_condition {f : Filter} {last : Option String} (h : f.relation = tracked last)
    (call : Call) (outcome : Except Fault Part) (appends : call.effect = outcome.map .append) :
    f.replay [call] = ((condition call outcome appends).addition f last).map fun s =>
      ⟨f.expression ++ s, tracked last, false⟩ := by
  rw [replay_singleton]
  cases outcome with
  | error cause =>
    rw [run_of_refused appends]
    cases hf : f.atStart with
    | true => rw [addition_of_atStart hf]; rfl
    | false => rw [addition_of_not_atStart hf]; rfl
  | ok part =>
    rw [run_of_effect appends]
    cases hf : f.atStart with
    | true =>
      rw [addition_of_atStart hf, ← h]
      exact append_of_atStart hf part
    | false =>
      show f.append part = _
      rw [append_of_not_atStart hf, addition_of_not_atStart hf, joinWord_of_tracked h, h]
      cases hword : (last.elim part.logical Value.text).showPlain with
      | error cause => simp [text, joint, hword, Except.map, bind, Except.bind]
      | ok word => simp [text, joint, hword, Except.map, bind, Except.bind, String.append_assoc]

mutual

/-- The calls of a node write what the node adds. -/
theorem replay_node : (n : Node) → ∀ (f : Filter) (last : Option String),
    f.relation = tracked last →
    f.replay n.calls = (n.addition f last).map fun s =>
      ⟨f.expression ++ s, tracked (n.lastRelation last), false⟩
  | .condition call outcome appends, f, last, h => replay_condition h call outcome appends
  | .group relation members, f, last, h => by
    have hinside := replay_siblings members (f.openGroup (.text relation)) (some relation) rfl
      (atStart_openGroup f _)
    rw [calls, replay_cons, run_openGroup]
    show (f.openGroup (.text relation)).replay (callsOf members ++ [.closeGroup]) = _
    rw [replay_append, hinside]
    cases hs : siblings (some relation) members with
    | error cause => simp [addition, text, hs, Except.map, bind, Except.bind]
    | ok inside =>
      show (Filter.mk _ _ _).replay [Call.closeGroup] = _
      rw [replay_singleton, run_closeGroup]
      cases hf : f.atStart with
      | true =>
        rw [addition_of_atStart hf, text, hs, expression_openGroup_of_atStart hf]
        simp [lastRelation, Except.map, bind, Except.bind, String.append_assoc]
      | false =>
        rw [addition_of_not_atStart hf, text, hs, expression_openGroup_of_not_atStart hf]
        simp only [joint, lastRelation, Except.map, bind, Except.bind, String.append_assoc]

/-- The calls of siblings from the first on write their text. -/
theorem replay_siblings : (ns : List Node) → ∀ (f : Filter) (last : Option String),
    f.relation = tracked last → f.atStart = true →
    f.replay (callsOf ns) = (siblings last ns).map fun s =>
      ⟨f.expression ++ s, tracked (lastRelationOf last ns), f.opened && ns.isEmpty⟩
  | [], f, last, h, _ => by
    simp [callsOf, siblings, lastRelationOf, Except.map, ← h]
  | n :: rest, f, last, h, hstart => by
    rw [callsOf, replay_append, replay_node n f last h, addition_of_atStart hstart, siblings]
    cases hs : n.text with
    | error cause => rfl
    | ok s =>
      have hadd : n.addition f last = .ok s := by rw [addition_of_atStart hstart, hs]
      have hrest := replay_later rest ⟨f.expression ++ s, tracked (n.lastRelation last), false⟩
        (n.lastRelation last) rfl (atStart_of_addition hadd _)
      show replay _ _ = _
      rw [hrest]
      cases ht : later (n.lastRelation last) rest with
      | error cause => simp [Except.map, bind, Except.bind]
      | ok t => simp [Except.map, bind, Except.bind, lastRelationOf, String.append_assoc]

/-- The calls of siblings after another write their text. -/
theorem replay_later : (ns : List Node) → ∀ (f : Filter) (last : Option String),
    f.relation = tracked last → f.atStart = false →
    f.replay (callsOf ns) = (later last ns).map fun s =>
      ⟨f.expression ++ s, tracked (lastRelationOf last ns), false⟩
  | [], f, last, h, hstart => by
    have hopened := (atStart_eq_false_iff.1 hstart).2
    simp [callsOf, later, lastRelationOf, Except.map, ← h, ← hopened]
  | n :: rest, f, last, h, hstart => by
    rw [callsOf, replay_append, replay_node n f last h, addition_of_not_atStart hstart, later]
    cases hs : n.text with
    | error cause => rfl
    | ok s =>
      cases hj : n.joint last with
      | error cause => rfl
      | ok j =>
        have hadd : n.addition f last = .ok (j ++ s) := by
          rw [addition_of_not_atStart hstart, hs, hj]
          rfl
        have hrest := replay_later rest
          ⟨f.expression ++ (j ++ s), tracked (n.lastRelation last), false⟩
          (n.lastRelation last) rfl (atStart_of_addition hadd _)
        show replay _ _ = _
        rw [hrest]
        cases ht : later (n.lastRelation last) rest with
        | error cause => simp [Except.map, bind, Except.bind]
        | ok t => simp [Except.map, bind, Except.bind, lastRelationOf, String.append_assoc]

end

/-- **A filter renders the forest that its calls describe.** Replaying the calls of a forest, with
idle calls put in anywhere, writes the rendering of the forest; and there is one, unless a call is
refused or a joining word is no text. -/
theorem expression_of_forest (forest : List Node) (calls : List Call)
    (inserted : (calls.filter fun call => !call.isIdle) = callsOf forest) :
    (empty.replay calls).map expression = render forest ∧
      (AllAccepted forest → ∃ s, (empty.replay calls).map expression = .ok s) := by
  have hrender : (empty.replay calls).map expression = render forest := by
    rw [← replay_filter_not_isIdle, inserted, replay_siblings forest empty none rfl rfl]
    unfold render
    cases siblings none forest with
    | error cause => rfl
    | ok s => simp [Except.map, empty]
  refine ⟨hrender, fun haccepted => ?_⟩
  rw [hrender]
  exact exists_siblings forest haccepted none

/-- A comparison for equality as a member of a forest. -/
def equals (field : String) (v : Value) : Node :=
  .condition (.condition (.value (.text field)) (.text "eq") v (.text "and"))
    (Part.condition (.value (.text field)) (.text "eq") v (.text "and")) rfl

/-- A distance from nowhere. -/
def idle : Call :=
  .distance (.value (.text "L")) (.text "lt") (.object []) (.text "and")

/-- Groups inside groups, one of them empty, with idle calls at the front, right after a parenthesis
and at the end: the innermost relation outlives both groups. -/
theorem expression_of_nested_forest :
    let forest := [equals "A" (.text "x'y"),
      .group "or" [equals "B" (.int 2), .group "xor" [], equals "C" .null], equals "D" (.bool true)]
    let calls := idle :: (equals "A" (.text "x'y")).calls ++ [.openGroup (.text "or"), idle] ++
      (equals "B" (.int 2)).calls ++ [.openGroup (.text "xor"), idle, .closeGroup] ++
      (equals "C" .null).calls ++ .closeGroup :: (equals "D" (.bool true)).calls ++ [idle]
    (calls.filter fun call => !call.isIdle) = callsOf forest ∧
      (empty.replay calls).map expression =
        .ok "A eq 'x\x5c'y' AND (B eq 2 AND () xor C eq null) xor D eq true" := by
  intro forest calls
  have hcalls : (calls.filter fun call => !call.isIdle) = callsOf forest := rfl
  refine ⟨hcalls, ?_⟩
  rw [(expression_of_forest forest calls hcalls).1]
  rfl

end Node

end OData.Filter
