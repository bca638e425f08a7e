import Mathlib.Data.List.Induction
import OData.Proofs.Filter.Balance

/-!
# Parentheses follow groups

Outside literals, the parentheses of a filter are as deep as the groups of the calls that build it,
also where groups are closed that were not opened.

* **Depth and groups** (`depth_follows_groups`): calls whose names hold no parentheses open one for
  each group, and the filter never closes a parenthesis that is not open exactly if the calls never
  close a group that is not open.
* **Two tallies** (`read_outside_runAll`): the second part is the first for another tally
  (`Text.heightTally`), which is lost when a parenthesis is closed that is not open
  (`isSome_read_heightTally_iff`).
-/

namespace OData

/-- What holds of all prefixes of a longer list holds of those before and of the list itself. -/
theorem forall_prefix_concat_iff {α : Type} {P : List α → Prop} {l : List α} {a : α} :
    (∀ p, p <+: l ++ [a] → P p) ↔ (∀ p, p <+: l → P p) ∧ P (l ++ [a]) := by
  simp only [List.prefix_concat_iff]
  constructor
  · intro h
    exact ⟨fun p hp => h p (Or.inr hp), h _ (Or.inl rfl)⟩
  · rintro ⟨h, hlast⟩ p (rfl | hp)
    · exact hlast
    · exact h p hp

/-! ## Texts that never close what is not open -/

namespace Text

/-- Whether a text that is read with this many parentheses open never closes one that is not. -/
def StaysAbove (d : Int) (cs : List Char) : Prop :=
  ∀ p, p <+: cs → 0 ≤ d + depth p

theorem staysAbove_nil_iff {d : Int} : StaysAbove d [] ↔ 0 ≤ d := by
  simp [StaysAbove]

/-- The first character must not close a parenthesis that is not open, and neither must what comes
after it. -/
theorem staysAbove_cons_iff {d : Int} {c : Char} {cs : List Char} :
    StaysAbove d (c :: cs) ↔ 0 ≤ d ∧ StaysAbove (d + depth [c]) cs := by
  have hdepth (q : List Char) : depth (c :: q) = depth [c] + depth q := depth_append [c] q
  unfold StaysAbove
  constructor
  · intro h
    refine ⟨by simpa using h [] (List.nil_prefix), fun q hq => ?_⟩
    have hprefix : c :: q <+: c :: cs := List.cons_prefix_cons.2 ⟨rfl, hq⟩
    rw [Int.add_assoc, ← hdepth]
    exact h _ hprefix
  · rintro ⟨hd, h⟩ p hp
    rcases List.prefix_cons_iff.1 hp with rfl | ⟨q, rfl, hq⟩
    · simpa using hd
    · rw [hdepth, ← Int.add_assoc]
      exact h q hq

/-- A longer text must not end with more parentheses closed than were open. -/
theorem staysAbove_concat_iff {d : Int} {cs : List Char} {c : Char} :
    StaysAbove d (cs ++ [c]) ↔ StaysAbove d cs ∧ 0 ≤ d + depth (cs ++ [c]) :=
  forall_prefix_concat_iff

/-- The number of open parentheses as a tally, which is lost when one is closed that is not open. -/
def heightTally : Tally (Option Nat) where
  opened height := height.map (· + 1)
  closed height := height.bind fun
    | 0 => none
    | n + 1 => some n
  closed_opened height := by cases height <;> rfl

/-- A tally that is lost stays so. -/
theorem read_heightTally_none (cs : List Char) : heightTally.read none cs = none := by
  induction cs with
  | nil => rfl
  | cons c cs ih =>
    have hstep : heightTally.step none c = none := by
      unfold Tally.step
      split
      · rfl
      · split <;> rfl
    rw [Tally.read_cons, hstep, ih]

/-- The tally is kept exactly if no parenthesis is closed that is not open. -/
theorem isSome_read_heightTally_iff (n : Nat) (cs : List Char) :
    (heightTally.read (some n) cs).isSome ↔ StaysAbove n cs := by
  induction cs generalizing n with
  | nil => simp [staysAbove_nil_iff]
  | cons c cs ih =>
    rw [staysAbove_cons_iff, Tally.read_cons, and_iff_right (Int.natCast_nonneg n)]
    by_cases hopen : c = '('
    · subst hopen
      have hstep : heightTally.step (some n) '(' = some (n + 1) := rfl
      have hdepth : (n : Int) + depth ['('] = (n + 1 : Nat) := rfl
      rw [hstep, hdepth, ih]
    · by_cases hclose : c = ')'
      · subst hclose
        cases n with
        | zero =>
          have hstep : heightTally.step (some 0) ')' = none := rfl
          have hdepth : ((0 : Nat) : Int) + depth [')'] = -1 := rfl
          rw [hstep, read_heightTally_none, hdepth]
          exact iff_of_false (by simp) fun h => absurd (h [] List.nil_prefix) (by decide)
        | succ n =>
          have hstep : heightTally.step (some (n + 1)) ')' = some n := rfl
          have hdepth : ((n + 1 : Nat) : Int) + depth [')'] = n := by simp
          rw [hstep, hdepth, ih]
      · have hdepth : (n : Int) + depth [c] = n := by simp [hopen, hclose]
        rw [heightTally.step_other hopen hclose, hdepth, ih]

end Text

namespace Filter

/-! ## Depth while scanning -/

/-- A character that is scanned is one more outside literals, or none. -/
theorem exists_outside_step (sc : Scanner) (c : Char) :
    (sc.step c).tokens.filterMap Token.char? = sc.tokens.filterMap Token.char? ∨
      ∃ x, (sc.step c).tokens.filterMap Token.char? = sc.tokens.filterMap Token.char? ++ [x] := by
  unfold Scanner.step
  split
  · split
    · exact Or.inl rfl
    · exact Or.inr ⟨c, List.filterMap_append⟩
  · split
    · exact Or.inl rfl
    · split
      · refine Or.inl ?_
        rw [List.filterMap_append]
        exact List.append_nil _
      · exact Or.inl rfl
  · exact Or.inl rfl

/-- The depth of a text never falls below zero while it is scanned exactly if what stands outside
its literals never closes a parenthesis that is not open. -/
theorem forall_depth_nonneg_iff (cs : List Char) :
    (∀ p, p <+: cs → 0 ≤ (p.foldl Scanner.step ⟨[], .outside⟩).depth) ↔
      Text.StaysAbove 0 ((cs.foldl Scanner.step ⟨[], .outside⟩).tokens.filterMap Token.char?) := by
  -- From the end: a longer text has one prefix more, and at most one more outside literals.
  induction cs using List.reverseRecOn with
  | nil => simp [Text.StaysAbove, Scanner.depth]
  | append_singleton cs c ih =>
    rw [forall_prefix_concat_iff, ih, Scanner.depth, List.foldl_append, List.foldl_cons,
      List.foldl_nil]
    rcases exists_outside_step (cs.foldl Scanner.step ⟨[], .outside⟩) c with hsame | ⟨x, hmore⟩
    · rw [hsame]
      refine and_iff_left_of_imp fun h => ?_
      simpa using h _ (List.prefix_refl _)
    · rw [hmore, Text.staysAbove_concat_iff, Int.zero_add]

/-! ## Reading tokens -/

/-- A tally reads a quiet piece as it reads what the scanner finds outside its literals. -/
theorem read_tokens {α : Type} (t : Tally α) {p : Piece} (h : p.Quiet) (a : α) :
    t.read a (p.tokens.filterMap Token.char?) = t.readPiece a p := by
  cases p with
  | bare s =>
    show t.read a ((s.toList.map Token.bare).filterMap Token.char?) = t.read a s.toList
    rw [filterMap_char?_map_bare]
  | literal v =>
    cases hv : v.string? with
    | some s =>
      rw [Piece.tokens_of_some hv]
      rfl
    | none =>
      rw [Piece.tokens_of_none hv, filterMap_char?_map_bare]
      exact t.keeps_of_isWord (Value.isWord_literal hv h) a

theorem read_flatMap_tokens {α : Type} (t : Tally α) {ps : List Piece} (h : ∀ p ∈ ps, p.Quiet)
    (a : α) : t.read a ((ps.flatMap Piece.tokens).filterMap Token.char?) = t.readAll a ps := by
  induction ps generalizing a with
  | nil => rfl
  | cons p rest ih =>
    rw [List.forall_mem_cons] at h
    rw [List.flatMap_cons, List.filterMap_append, Tally.read_append, read_tokens t h.1, ih h.2]
    rfl

/-! ## Calls -/

/-- Whether a call opens a group. -/
def Call.opensGroup : Call → Bool
  | .openGroup _ => true
  | _ => false

/-- Whether a call closes a group. -/
def Call.closesGroup : Call → Bool
  | .closeGroup => true
  | _ => false

/-- Whether a call is plain and none of its names holds a parenthesis. -/
structure Call.Unbracketed (call : Call) : Prop where
  /-- No name holds a quote, and no value is an object. -/
  plain : call.Plain
  /-- No name holds a parenthesis. -/
  names : ∀ name ∈ call.names, '(' ∉ name.toList ∧ ')' ∉ name.toList

/-- The parentheses of calls are those of the groups that they open, less those that they close. -/
theorem depth_parentheses (calls : List Call) :
    Text.depth (calls.filterMap Call.parenthesis?) =
      calls.countP Call.opensGroup - calls.countP Call.closesGroup := by
  rw [depth_filterMap_parenthesis?]
  induction calls with
  | nil => rfl
  | cons call rest ih =>
    rw [List.map_cons, List.sum_cons, ih, List.countP_cons, List.countP_cons]
    cases call with
    | openGroup relation => simp [Call.depth, Call.opensGroup, Call.closesGroup]; omega
    | closeGroup => simp [Call.depth, Call.opensGroup, Call.closesGroup]; omega
    | _ => simp [Call.depth, Call.opensGroup, Call.closesGroup]

/-- The parentheses of calls are never closed unless they are open exactly if the groups are not. -/
theorem staysAbove_parentheses_iff (calls : List Call) :
    Text.StaysAbove 0 (calls.filterMap Call.parenthesis?) ↔
      ∀ p, p <+: calls → p.countP Call.closesGroup ≤ p.countP Call.opensGroup := by
  have hdepth (p : List Call) : 0 ≤ 0 + Text.depth (p.filterMap Call.parenthesis?) ↔
      p.countP Call.closesGroup ≤ p.countP Call.opensGroup := by
    rw [depth_parentheses]
    omega
  unfold Text.StaysAbove
  constructor
  · intro h p hp
    exact (hdepth p).1 (h _ (hp.filterMap _))
  · intro h q hq
    obtain ⟨p, hp, rfl⟩ := List.prefix_filterMap_iff.1 hq
    exact (hdepth p).2 (h p hp)

/-- Reading the filter of calls outside literals is reading the parentheses of their groups. -/
theorem read_outside_runAll {α : Type} (t : Tally α) {calls : List Call}
    (h : ∀ call ∈ calls, call.Unbracketed) (a : α) :
    (scan (empty.runAll calls).expression).mode = .outside ∧
      t.read a ((scan (empty.runAll calls).expression).tokens.filterMap Token.char?) =
        t.read a (calls.filterMap Call.parenthesis?) := by
  have hquiet := quiet_addedAll fun call hcall => (h call hcall).plain
  have hscan : scan (empty.runAll calls).expression =
      ⟨(empty.addedAll calls).flatMap Piece.tokens, .outside⟩ := by
    rw [expression_runAll]
    exact (Piece.reads_join hquiet).scan_eq
  have hnames : ∀ s ∈ empty.relation.plain :: calls.flatMap Call.names, t.Keeps s := by
    refine List.forall_mem_cons.2 ⟨t.keeps_of_not_mem (by decide) (by decide), fun s hs => ?_⟩
    obtain ⟨call, hcall, hname⟩ := List.mem_flatMap.1 hs
    obtain ⟨hopen, hclose⟩ := (h call hcall).names s hname
    exact t.keeps_of_not_mem hopen hclose
  rw [hscan]
  refine ⟨rfl, ?_⟩
  rw [read_flatMap_tokens t hquiet, Tally.readAll_addedAll hnames]

/-- **Parentheses follow groups.** The filter that calls build ends outside literals, with one
parenthesis open for each group that they open less those that they close. While it is read, its
depth never falls below zero exactly if at no point more groups were closed than opened. -/
theorem depth_follows_groups {calls : List Call} (h : ∀ call ∈ calls, call.Unbracketed) :
    (scan (empty.runAll calls).expression).mode = .outside ∧
      (scan (empty.runAll calls).expression).depth =
        calls.countP Call.opensGroup - calls.countP Call.closesGroup ∧
      ((∀ p, p <+: (empty.runAll calls).expression.toList →
          0 ≤ (p.foldl Scanner.step ⟨[], .outside⟩).depth) ↔
        ∀ p, p <+: calls → p.countP Call.closesGroup ≤ p.countP Call.opensGroup) := by
  obtain ⟨hmode, hdepth⟩ := read_outside_runAll Text.depthTally h 0
  obtain ⟨-, hheight⟩ := read_outside_runAll Text.heightTally h (some 0)
  refine ⟨hmode, ?_, ?_⟩
  · rw [Text.read_depthTally, Text.read_depthTally, Int.zero_add, Int.zero_add,
      depth_parentheses] at hdepth
    exact hdepth
  · have hsome := congrArg Option.isSome hheight
    rw [forall_depth_nonneg_iff, ← staysAbove_parentheses_iff]
    have houtside := Text.isSome_read_heightTally_iff 0
      ((scan (empty.runAll calls).expression).tokens.filterMap Token.char?)
    have hgroups := Text.isSome_read_heightTally_iff 0 (calls.filterMap Call.parenthesis?)
    rw [hsome] at houtside
    exact houtside.symm.trans hgroups

/-- A group that is closed without being opened, two that are opened and one of them closed, with
parentheses and quotes in values of several kinds. -/
theorem depth_follows_groups_of_hostile_texts :
    let calls : List Call := [
      .closeGroup,
      .textFunction .contains (.value (.text "Name")) (.text "a)' or (b") (.text "and"),
      .openGroup (.text "or"),
      .compare (.items [.condition ⟨.text "City", .text "eq", .text "(("⟩]) .null .null
        (.text "or"),
      .openGroup (.text "and"),
      .distance (.value (.text "Location")) (.text "le")
        (.object [("lat", .int 1), ("radius", .text ")\x5c")]) (.text "and"),
      .closeGroup]
    (∀ call ∈ calls, call.Unbracketed) ∧
      (scan (empty.runAll calls).expression).mode = .outside ∧
      (scan (empty.runAll calls).expression).depth = 0 ∧
      ¬ ∀ p, p <+: (empty.runAll calls).expression.toList →
        0 ≤ (p.foldl Scanner.step ⟨[], .outside⟩).depth := by
  intro calls
  have hcalls : ∀ call ∈ calls, call.Unbracketed := by
    intro call hcall
    simp only [calls, List.mem_cons, List.not_mem_nil, or_false] at hcall
    rcases hcall with rfl | rfl | rfl | rfl | rfl | rfl | rfl <;>
      exact ⟨⟨by decide, by decide⟩, by decide⟩
  obtain ⟨hmode, hdepth, hrunning⟩ := depth_follows_groups hcalls
  refine ⟨hcalls, hmode, hdepth.trans (by decide), fun hall => ?_⟩
  have hfirst : [Call.closeGroup] <+: calls := ⟨calls.tail, rfl⟩
  exact absurd (hrunning.1 hall _ hfirst) (by decide)

end Filter

end OData
