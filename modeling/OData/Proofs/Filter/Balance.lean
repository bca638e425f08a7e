import Mathlib.Algebra.Order.Ring.Int
import OData.Proofs.Filter.Containment
import OData.Proofs.Filter.Tally

/-!
# Parentheses outside literals

A text opens as many parentheses as a scanner finds open after it, outside literals (`Opens`).

* **Calls** (`depthAll_addedAll`): every part of a filter closes what it opens, and groups open and
  close one parenthesis each.
* **Filters** (`opens_replay`): the filter that well-typed calls build ends outside literals with
  one parenthesis open for each group that was opened and not closed, if every value that is written
  is self-contained (`Value.SelfContained`): read alone, it ends outside literals with none open.
-/

namespace OData

/-- Opening parentheses less closing ones. -/
def Text.depth (cs : List Char) : Int :=
  cs.count '(' - cs.count ')'

@[simp] theorem Text.depth_nil : depth [] = 0 := rfl

@[simp] theorem Text.depth_cons (c : Char) (cs : List Char) :
    depth (c :: cs) = (if c = '(' then 1 else if c = ')' then -1 else 0) + depth cs := by
  simp only [depth, List.count_cons, beq_iff_eq]
  by_cases hopen : c = '('
  · subst hopen
    simp
    omega
  · by_cases hclose : c = ')'
    · subst hclose
      simp
      omega
    · simp [hopen, hclose]

@[simp] theorem Text.depth_append (cs ds : List Char) :
    depth (cs ++ ds) = depth cs + depth ds := by
  simp only [depth, List.count_append]
  omega

/-- Without parentheses there is no depth. -/
theorem Text.depth_eq_zero {cs : List Char} (hopen : '(' ∉ cs) (hclose : ')' ∉ cs) :
    depth cs = 0 := by
  rw [depth, List.count_eq_zero_of_not_mem hopen, List.count_eq_zero_of_not_mem hclose]
  rfl

/-- A word has no parentheses. -/
theorem Text.depth_of_isWord {cs : List Char} (h : IsWord cs) : depth cs = 0 :=
  depth_eq_zero (fun hmem => absurd (h _ hmem) (by decide))
    (fun hmem => absurd (h _ hmem) (by decide))

namespace Filter

/-! ## Scanning from outside to outside -/

/-- The depth of what stands outside literals. -/
def Scanner.depth (sc : Scanner) : Int :=
  Text.depth (sc.tokens.filterMap Token.char?)

/-- What was read before does not matter for what is read next. -/
theorem step_append (before tokens : List Token) (mode : Mode) (c : Char) :
    Scanner.step ⟨before ++ tokens, mode⟩ c =
      ⟨before ++ (Scanner.step ⟨tokens, mode⟩ c).tokens, (Scanner.step ⟨tokens, mode⟩ c).mode⟩ := by
  unfold Scanner.step
  cases mode with
  | outside => dsimp only; split <;> simp
  | inside read =>
    dsimp only
    split
    · rfl
    · split <;> simp
  | escaped read => rfl

theorem foldl_step_append (before tokens : List Token) (mode : Mode) (cs : List Char) :
    cs.foldl Scanner.step ⟨before ++ tokens, mode⟩ =
      ⟨before ++ (cs.foldl Scanner.step ⟨tokens, mode⟩).tokens,
        (cs.foldl Scanner.step ⟨tokens, mode⟩).mode⟩ := by
  induction cs generalizing tokens mode with
  | nil => rfl
  | cons c cs ih => rw [List.foldl_cons, List.foldl_cons, step_append, ih]

/-- A text is read from outside to outside exactly if its scan ends there. -/
theorem reads_iff {s : String} {tokens : List Token} :
    Reads s tokens ↔ scan s = ⟨tokens, .outside⟩ := by
  refine ⟨Reads.scan_eq, fun h before => ?_⟩
  have hall := foldl_step_append before [] .outside s.toList
  rw [List.append_nil] at hall
  rw [hall]
  unfold scan at h
  rw [h]

/-- After a text that ends outside literals, the next is scanned as if it stood alone. -/
theorem scan_append {s t : String} {tokens : List Token} (h : Reads s tokens) :
    scan (s ++ t) = ⟨tokens ++ (scan t).tokens, (scan t).mode⟩ := by
  have hall := foldl_step_append tokens [] .outside t.toList
  rw [List.append_nil] at hall
  unfold scan
  rw [String.toList_append, List.foldl_append, h, List.nil_append, hall]

/-- Whether a text, read from outside literals, ends there and opens this many parentheses more than
it closes. -/
def Opens (s : String) (d : Int) : Prop :=
  (scan s).mode = .outside ∧ (scan s).depth = d

instance (s : String) (d : Int) : Decidable (Opens s d) :=
  inferInstanceAs (Decidable (_ ∧ _))

/-- A text that is read as tokens opens what they open. -/
theorem Reads.opens {s : String} {tokens : List Token} (h : Reads s tokens) :
    Opens s (Text.depth (tokens.filterMap Token.char?)) := by
  unfold Opens Scanner.depth
  rw [h.scan_eq]
  exact ⟨rfl, rfl⟩

/-- A text that ends outside literals is read as its tokens. -/
theorem Opens.reads {s : String} {d : Int} (h : Opens s d) : Reads s (scan s).tokens := by
  rw [reads_iff, ← h.1]

/-- After a text that ends outside literals, another opens what it opens alone. -/
theorem opens_append_iff {s t : String} {d e : Int} (hs : Opens s d) :
    Opens (s ++ t) (d + e) ↔ Opens t e := by
  have hdepth : (scan (s ++ t)).depth = d + (scan t).depth := by
    rw [scan_append hs.reads, ← hs.2]
    unfold Scanner.depth
    rw [List.filterMap_append, Text.depth_append]
  have hmode : (scan (s ++ t)).mode = (scan t).mode := by
    rw [scan_append hs.reads]
  unfold Opens
  rw [hdepth, hmode, Int.add_right_inj]

theorem Opens.append {s t : String} {d e : Int} (hs : Opens s d) (ht : Opens t e) :
    Opens (s ++ t) (d + e) :=
  (opens_append_iff hs).2 ht

theorem opens_empty : Opens "" 0 :=
  ⟨rfl, rfl⟩

/-- Characters that are read outside literals are these characters. -/
theorem filterMap_char?_map_bare (cs : List Char) :
    (cs.map Token.bare).filterMap Token.char? = cs := by
  rw [List.filterMap_map]
  exact List.filterMap_some

/-- A text without quotes opens what its characters open. -/
theorem opens_bare {s : String} (h : '\x27' ∉ s.toList) : Opens s (Text.depth s.toList) := by
  have hopens := (reads_bare h).opens
  rwa [filterMap_char?_map_bare] at hopens

end Filter

open OData.Filter

/-! ## Values -/

/-- Whether the literal of a value, read alone, ends outside literals with no parenthesis open. -/
def Value.SelfContained (v : Value) : Prop :=
  Opens v.literal 0

instance (v : Value) : Decidable v.SelfContained :=
  inferInstanceAs (Decidable (Opens _ _))

/-- A value that is no object is self-contained: its literal is a word or the literal of a text. -/
theorem Value.selfContained_of_isDatum {v : Value} (h : v.isDatum = true) : v.SelfContained := by
  unfold SelfContained
  cases hv : v.string? with
  | some s =>
    rw [literal_of_string? hv]
    exact (reads_literal s).opens
  | none =>
    have hword := isWord_literal hv h
    have hquote : '\x27' ∉ v.literal.toList := fun hmem => absurd (hword _ hmem) (by decide)
    have hopens := opens_bare hquote
    rwa [Text.depth_of_isWord hword] at hopens

/-! ## Pieces -/

namespace Piece

/-- What a piece opens outside literals. -/
def depth : Piece → Int
  | .bare s => Text.depth s.toList
  | .literal _ => 0

/-- What pieces open together. -/
def depthAll (ps : List Piece) : Int :=
  (ps.map depth).sum

theorem depthAll_cons (p : Piece) (ps : List Piece) :
    depthAll (p :: ps) = p.depth + depthAll ps := by
  simp [depthAll]

@[simp] theorem depth_literal (v : Value) : (literal v).depth = 0 := rfl

theorem depth_bare (s : String) : (bare s).depth = Text.depth s.toList := rfl

/-- Whether a piece ends outside literals. -/
def Whole : Piece → Prop
  | .bare s => '\x27' ∉ s.toList
  | .literal v => v.SelfContained

/-- Whole pieces open what each of them opens. -/
theorem opens_join {ps : List Piece} (h : ∀ p ∈ ps, p.Whole) : Opens (join ps) (depthAll ps) := by
  induction ps with
  | nil => exact opens_empty
  | cons p rest ih =>
    rw [List.forall_mem_cons] at h
    have hp : Opens p.text p.depth := by
      cases p with
      | bare s => exact opens_bare h.1
      | literal v => exact h.1
    rw [join_cons, depthAll_cons]
    exact hp.append (ih h.2)

end Piece

/-! ## Depth as a tally -/

/-- The depth as a tally. -/
def Text.depthTally : Tally Int where
  opened d := d + 1
  closed d := d - 1
  closed_opened d := Int.add_sub_cancel d 1

/-- Reading a text adds its depth. -/
theorem Text.read_depthTally (d : Int) (cs : List Char) :
    depthTally.read d cs = d + depth cs := by
  induction cs generalizing d with
  | nil => exact (Int.add_zero d).symm
  | cons c cs ih =>
    rw [Tally.read_cons, ih, depth_cons, ← Int.add_assoc]
    congr 1
    unfold Tally.step depthTally
    split
    · rfl
    · split <;> simp [Int.sub_eq_add_neg]

/-- Reading pieces adds what they open. -/
theorem Piece.readAll_depthTally (d : Int) (ps : List Piece) :
    Text.depthTally.readAll d ps = d + depthAll ps := by
  induction ps generalizing d with
  | nil => exact (Int.add_zero d).symm
  | cons p ps ih =>
    rw [depthAll_cons, ← Int.add_assoc]
    cases p with
    | bare s => rw [Tally.readAll_bare, ih, Text.read_depthTally, depth_bare]
    | literal v => rw [Tally.readAll_literal, ih, depth_literal, Int.add_zero]

/-- A name that closes what it opens leaves the depth as it was. -/
theorem Text.keeps_depthTally {s : String} (h : depth s.toList = 0) : depthTally.Keeps s := by
  intro d
  rw [read_depthTally, h, Int.add_zero]

namespace Filter

/-! ## Calls -/

/-- The parentheses that a call opens or closes for good. -/
def Call.depth : Call → Int
  | .openGroup _ => 1
  | .closeGroup => -1
  | _ => 0

/-- The parentheses of calls open what the calls do together. -/
theorem depth_filterMap_parenthesis? (calls : List Call) :
    Text.depth (calls.filterMap Call.parenthesis?) = (calls.map Call.depth).sum := by
  induction calls with
  | nil => rfl
  | cons call rest ih =>
    rw [List.map_cons, List.sum_cons, ← ih]
    cases call with
    | openGroup relation => exact Text.depth_cons _ _
    | closeGroup => exact Text.depth_cons _ _
    | _ => exact (Int.zero_add _).symm

/-- **Calls one after another.** They add what opens as many parentheses as they do together. -/
theorem depthAll_addedAll {calls : List Call}
    (hnames : ∀ name ∈ calls.flatMap Call.names, Text.depth name.toList = 0) :
    Piece.depthAll (empty.addedAll calls) = (calls.map Call.depth).sum := by
  have hkeeps : ∀ s ∈ empty.relation.plain :: calls.flatMap Call.names,
      Text.depthTally.Keeps s :=
    List.forall_mem_cons.2 ⟨Text.keeps_depthTally (by decide),
      fun s hs => Text.keeps_depthTally (hnames s hs)⟩
  have hread := Tally.readAll_addedAll hkeeps 0
  rwa [Piece.readAll_depthTally, Text.read_depthTally, Int.zero_add, Int.zero_add,
    depth_filterMap_parenthesis?] at hread

/-- What calls add is whole if their names hold no quote and their values are self-contained. -/
theorem whole_addedAll {calls : List Call}
    (hnames : ∀ name ∈ calls.flatMap Call.names, '\x27' ∉ name.toList)
    (hvalues : ∀ call ∈ calls, ∀ v ∈ call.values, v.SelfContained) :
    ∀ p ∈ empty.addedAll calls, p.Whole := by
  intro p hp
  rcases addedAll_cases hp with ⟨s, rfl, hmade⟩ | ⟨v, rfl, call, hcall, hv⟩
  · exact hmade.not_mem (by decide) (List.forall_mem_cons.2 ⟨by decide, hnames⟩)
  · exact hvalues call hcall v hv

/-- **Filters keep their structure.** The filter that calls build ends outside literals, and opens
one parenthesis for each group that they open and closes one for each that they close, if their
names close what they open and hold no quote, and their values are self-contained. -/
theorem opens_replay {calls : List Call} {g : Filter} (h : empty.replay calls = .ok g)
    (hnames : ∀ name ∈ calls.flatMap Call.names,
      '\x27' ∉ name.toList ∧ Text.depth name.toList = 0)
    (hvalues : ∀ call ∈ calls, ∀ v ∈ call.values, v.SelfContained) :
    Opens g.expression (calls.map Call.depth).sum := by
  have hwhole := whole_addedAll (fun name hname => (hnames name hname).1) hvalues
  have hexpression : g.expression = Piece.join (empty.addedAll calls) := by
    rw [← runAll_of_replay h, expression_runAll]
    exact String.empty_append
  rw [hexpression, ← depthAll_addedAll fun name hname => (hnames name hname).2]
  exact Piece.opens_join hwhole

end Filter

end OData
