import Mathlib.Data.List.Induction
import OData.Proofs.Filter.Scanner
import OData.Proofs.Value.Showable

/-!
# Literals can be read back

The inside of a literal is written character by character (`Text.slashed`).

* **Four passes are one** (`Text.inPasses_eq`): it is the same as replacing four characters in the
  whole text, one after another, as long as backslashes come first.
* **The insides of literals** (`Text.Escaped`, `Escaped.flatMap_slashed_decode`): without saying how
  they are written, they split from left to right into escapes and characters that need none; each
  of them is the inside of the literal of what it decodes to.
* **Quotes** (`trailing_before_quote`): in front of a quote inside a literal stands an odd number of
  backslashes.
* **Different values** (`Text.literal_injective`, `Value.literal_injective`): texts with the same
  literal are the same, and so are scalars.
* **All of it together** (`Value.literal_exact`).
-/

namespace OData

namespace Text

/-! ## Four passes -/

/-- A text in which every occurrence of a character is replaced. -/
def replaced (old : Char) (new : List Char) (cs : List Char) : List Char :=
  cs.flatMap fun c => if c = old then new else [c]

/-- The inside of a literal in four passes over the text: backslashes, both quotes, NUL. -/
def inPasses (cs : List Char) : List Char :=
  replaced '\x00' ['\x5c', '0'] <| replaced '\x22' ['\x5c', '\x22'] <|
    replaced '\x27' ['\x5c', '\x27'] <| replaced '\x5c' ['\x5c', '\x5c'] cs

theorem inPasses_append (cs ds : List Char) : inPasses (cs ++ ds) = inPasses cs ++ inPasses ds := by
  simp only [inPasses, replaced, List.flatMap_append]

/-- The four passes over one character. A backslash that one pass puts in is left alone by those
after it, since only the first pass replaces backslashes. -/
theorem inPasses_singleton (c : Char) : inPasses [c] = slashed c := by
  unfold slashed
  split
  · rename_i hspecial
    rcases hspecial with rfl | rfl | rfl <;> rfl
  · rename_i hplain
    obtain ⟨hslash, hsingle, hdouble⟩ : c ≠ '\x5c' ∧ c ≠ '\x27' ∧ c ≠ '\x22' := by
      simpa only [not_or] using hplain
    split
    · rename_i hnul
      subst hnul
      rfl
    · rename_i hnul
      simp [inPasses, replaced, hslash, hsingle, hdouble, hnul]

/-- **Four passes are one.** -/
theorem inPasses_eq (cs : List Char) : inPasses cs = cs.flatMap slashed := by
  induction cs with
  | nil => rfl
  | cons c cs ih =>
    rw [← List.singleton_append, inPasses_append, inPasses_singleton, ih]
    rfl

/-! ## Escaped texts -/

/-- The characters that stand behind a backslash inside a literal. -/
def escapes : List Char := ['\x5c', '\x27', '\x22', '0']

/-- The characters that never stand alone inside a literal. -/
def reserved : List Char := ['\x5c', '\x27', '\x22', '\x00']

/-- A text that splits from left to right into escapes and characters that are not reserved. -/
inductive Escaped : List Char → Prop where
  /-- The empty text. -/
  | nil : Escaped []
  /-- An escape in front. -/
  | escape {c : Char} {rest : List Char} (hc : c ∈ escapes) (hrest : Escaped rest) :
      Escaped ('\x5c' :: c :: rest)
  /-- A character that is not reserved in front. -/
  | plain {c : Char} {rest : List Char} (hc : c ∉ reserved) (hrest : Escaped rest) :
      Escaped (c :: rest)

/-- A character is written as an escape, or it is not reserved and written as it is. -/
theorem slashed_cases (c : Char) :
    (∃ e ∈ escapes, slashed c = ['\x5c', e]) ∨ (c ∉ reserved ∧ slashed c = [c]) := by
  unfold slashed
  split
  · rename_i hspecial
    left
    refine ⟨c, ?_, rfl⟩
    rcases hspecial with rfl | rfl | rfl <;> decide
  · rename_i hplain
    split
    · exact Or.inl ⟨'0', by decide, rfl⟩
    · rename_i hnul
      right
      refine ⟨?_, rfl⟩
      simp only [reserved, List.mem_cons, List.not_mem_nil, or_false, not_or]
      simp only [not_or] at hplain
      exact ⟨hplain.1, hplain.2.1, hplain.2.2, hnul⟩

/-- The inside of a literal is escaped. -/
theorem escaped_flatMap_slashed (cs : List Char) : Escaped (cs.flatMap slashed) := by
  induction cs with
  | nil => exact .nil
  | cons c cs ih =>
    rw [List.flatMap_cons]
    rcases slashed_cases c with ⟨e, he, hc⟩ | ⟨hplain, hc⟩
    · rw [hc]
      exact .escape he ih
    · rw [hc]
      exact .plain hplain ih

/-- An escape decodes to the character that is written so. -/
theorem exists_decode_escape {c : Char} (hc : c ∈ escapes) (rest : List Char) :
    ∃ d, Filter.decode ('\x5c' :: c :: rest) = d :: Filter.decode rest ∧
      slashed d = ['\x5c', c] := by
  simp only [escapes, List.mem_cons, List.not_mem_nil, or_false] at hc
  rcases hc with rfl | rfl | rfl | rfl
  · exact ⟨'\x5c', rfl, rfl⟩
  · exact ⟨'\x27', rfl, rfl⟩
  · exact ⟨'\x22', rfl, rfl⟩
  · exact ⟨'\x00', rfl, rfl⟩

/-- A character that is not reserved decodes to itself and is written as it is. -/
theorem decode_plain {c : Char} (hc : c ∉ reserved) (rest : List Char) :
    Filter.decode (c :: rest) = c :: Filter.decode rest ∧ slashed c = [c] := by
  simp only [reserved, List.mem_cons, List.not_mem_nil, or_false, not_or] at hc
  obtain ⟨hslash, hsingle, hdouble, hnul⟩ := hc
  have hwritten : slashed c = [c] := by simp [slashed, hslash, hsingle, hdouble, hnul]
  have hdecode := Filter.decode_slashed_append c rest
  rw [hwritten] at hdecode
  exact ⟨hdecode, hwritten⟩

/-- **An escaped text is the inside of the literal** of what it decodes to. -/
theorem Escaped.flatMap_slashed_decode {cs : List Char} (h : Escaped cs) :
    (Filter.decode cs).flatMap slashed = cs := by
  induction h with
  | nil => rfl
  | @escape c rest hc hrest ih =>
    obtain ⟨d, hdecode, hd⟩ := exists_decode_escape hc rest
    rw [hdecode, List.flatMap_cons, hd, ih]
    rfl
  | @plain c rest hc hrest ih =>
    obtain ⟨hdecode, hwritten⟩ := decode_plain hc rest
    rw [hdecode, List.flatMap_cons, hwritten, ih]
    rfl

/-! ## Quotes and backslashes -/

/-- No NUL stands in an escaped text. -/
theorem Escaped.nul_not_mem {cs : List Char} (h : Escaped cs) : '\x00' ∉ cs := by
  induction h with
  | nil => exact List.not_mem_nil
  | escape hc hrest ih =>
    have hnul : '\x00' ∉ escapes := by decide
    simp only [List.mem_cons, not_or]
    exact ⟨by decide, fun heq => hnul (heq ▸ hc), ih⟩
  | plain hc hrest ih =>
    have hnul : '\x00' ∈ reserved := by decide
    simp only [List.mem_cons, not_or]
    exact ⟨fun heq => hc (heq ▸ hnul), ih⟩

/-- How many backslashes a text ends in. -/
def trailing (cs : List Char) : Nat :=
  (cs.reverse.takeWhile (· = '\x5c')).length

theorem trailing_concat (cs : List Char) (c : Char) :
    trailing (cs ++ [c]) = if c = '\x5c' then trailing cs + 1 else 0 := by
  unfold trailing
  rw [List.reverse_append, List.reverse_singleton, List.singleton_append, List.takeWhile_cons]
  split <;> simp_all

/-- The inside of a literal ends in an even number of backslashes: an escape ends in two, or in
another character. -/
theorem trailing_flatMap_slashed (cs : List Char) : trailing (cs.flatMap slashed) % 2 = 0 := by
  induction cs using List.reverseRecOn with
  | nil => rfl
  | append_singleton cs c ih =>
    rw [List.flatMap_append, List.flatMap_singleton]
    rcases slashed_cases c with ⟨e, -, hc⟩ | ⟨hplain, hc⟩
    · rw [hc, List.append_cons, trailing_concat, trailing_concat, if_pos rfl]
      split
      · omega
      · rfl
    · have hslash : c ≠ '\x5c' := fun heq => hplain (heq ▸ List.mem_cons_self)
      rw [hc, trailing_concat, if_neg hslash]

/-- What stands before a quote inside a literal is the inside of a literal and a backslash. -/
theorem exists_of_flatMap_slashed {cs before after : List Char} {q : Char}
    (hq : q = '\x27' ∨ q = '\x22') (h : cs.flatMap slashed = before ++ q :: after) :
    ∃ front : List Char, before = front.flatMap slashed ++ ['\x5c'] := by
  have hslash : '\x5c' ≠ q := by rcases hq with rfl | rfl <;> decide
  have hreserved : q ∈ reserved := by rcases hq with rfl | rfl <;> decide
  induction cs generalizing before with
  | nil => exact absurd h (by simp)
  | cons c cs ih =>
    rw [List.flatMap_cons] at h
    rcases slashed_cases c with ⟨e, -, hc⟩ | ⟨hplain, hc⟩
    · rw [hc] at h
      -- the quote is the second half of this escape, or it stands in a later piece
      match before, h with
      | [], h => exact absurd (List.cons.inj h).1 hslash
      | [b], h => exact ⟨[], by rw [← (List.cons.inj h).1]; rfl⟩
      | b :: d :: before, h =>
        obtain ⟨hb, hrest⟩ := List.cons.inj h
        obtain ⟨hd, hrest⟩ := List.cons.inj hrest
        obtain ⟨front, hfront⟩ := ih hrest
        exact ⟨c :: front, by rw [List.flatMap_cons, hc, ← hb, ← hd, hfront]; rfl⟩
    · rw [hc] at h
      match before, h with
      | [], h => exact absurd ((List.cons.inj h).1 ▸ hreserved) hplain
      | b :: before, h =>
        obtain ⟨hb, hrest⟩ := List.cons.inj h
        obtain ⟨front, hfront⟩ := ih hrest
        exact ⟨c :: front, by rw [List.flatMap_cons, hc, ← hb, hfront]; rfl⟩

/-- **A quote inside a literal** stands behind an odd number of backslashes. -/
theorem trailing_before_quote {cs before after : List Char} {q : Char}
    (hq : q = '\x27' ∨ q = '\x22') (h : cs.flatMap slashed = before ++ q :: after) :
    trailing before % 2 = 1 := by
  obtain ⟨front, rfl⟩ := exists_of_flatMap_slashed hq h
  have heven := trailing_flatMap_slashed front
  rw [trailing_concat, if_pos rfl]
  omega

/-- Texts with the same literal are the same. -/
theorem literal_injective {s t : String} (h : literal s = literal t) : s = t := by
  unfold literal at h
  have hinside : addSlashes s = addSlashes t := by
    simpa only [String.append_right_inj, String.append_left_inj] using h
  rw [← String.toList_inj, ← Filter.decode_flatMap_slashed s.toList, ← toList_addSlashes,
    hinside, toList_addSlashes, Filter.decode_flatMap_slashed]

end Text

namespace Value

/-! ## Scalars -/

/-- A text, an integer, a truth value or the absent value. -/
inductive IsScalar : Value → Prop where
  /-- A text. -/
  | text (s : String) : IsScalar (.text s)
  /-- An integer. -/
  | int (n : Int) : IsScalar (.int n)
  /-- A truth value. -/
  | bool (b : Bool) : IsScalar (.bool b)
  /-- The absent value. -/
  | null : IsScalar .null

/-- The literal of a text is no word. -/
theorem literal_text_ne {s : String} {w : Value} (hw : w.string? = none)
    (hdatum : w.isDatum = true) : Text.literal s ≠ w.literal := by
  intro h
  have hquote : '\x27' ∈ (Text.literal s).toList := by simp [Text.literal]
  rw [h] at hquote
  exact absurd (isWord_literal hw hdatum _ hquote) (by decide)

/-- Different integers are written differently. -/
theorem toString_injective {m n : Int} (h : toString m = toString n) : m = n := by
  have hdigits {j k : Nat} (heq : Nat.toDigits 10 j = Nat.toDigits 10 k) : j = k := by
    rw [← Nat.ofDigitChars_ten_toDigits (n := j), heq, Nat.ofDigitChars_ten_toDigits]
  have hsign (j k : Nat) : '-' :: Nat.toDigits 10 j ≠ Nat.toDigits 10 k := by
    intro heq
    have hmem : '-' ∈ Nat.toDigits 10 k := heq ▸ List.mem_cons_self
    exact absurd (Nat.isDigit_of_mem_toDigits (by decide) (by decide) hmem) (by decide)
  have hlist := congrArg String.toList h
  rw [toList_toString_int, toList_toString_int] at hlist
  split at hlist <;> split at hlist
  · have hsame := hdigits hlist
    omega
  · exact absurd hlist.symm (hsign _ _)
  · exact absurd hlist (hsign _ _)
  · have hsame := hdigits (List.cons.inj hlist).2
    omega

/-- Whether a character can be at the front of an integer. -/
def isIntegerFront (c : Char) : Bool := c == '-' || c.isDigit

/-- An integer is not written as a word that does not begin as an integer does. -/
theorem toString_ne_of_front {word : String} (hword : word.toList.head?.all isIntegerFront = false)
    (n : Int) : toString n ≠ word := by
  rintro rfl
  rw [toList_toString_int] at hword
  split at hword
  · cases hdigits : Nat.toDigits 10 n.toNat with
    | nil => exact Nat.toDigits_ne_nil hdigits
    | cons c rest =>
      have hmem : c ∈ Nat.toDigits 10 n.toNat := hdigits ▸ List.mem_cons_self
      have hdigit : c.isDigit = true := Nat.isDigit_of_mem_toDigits (by decide) (by decide) hmem
      rw [hdigits, List.head?_cons, Option.all_some, isIntegerFront, hdigit, Bool.or_true] at hword
      cases hword
  · cases hword

/-- The words for the absent value and the truth values do not begin as an integer does. -/
theorem front_literal : null.literal.toList.head?.all isIntegerFront = false ∧
    ∀ b : Bool, (bool b).literal.toList.head?.all isIntegerFront = false := by
  decide

/-- The truth values and the absent value are three words. -/
theorem literal_bool : (∀ b d : Bool, (bool b).literal = (bool d).literal → b = d) ∧
    ∀ b : Bool, (bool b).literal ≠ null.literal := by
  decide

/-- **Scalars with the same literal are the same.** -/
theorem literal_injective {v w : Value} (hv : v.IsScalar) (hw : w.IsScalar)
    (h : v.literal = w.literal) : v = w := by
  obtain ⟨hnull, hbool⟩ := front_literal
  cases hv with
  | text s =>
    cases hw with
    | text t => rw [Text.literal_injective h]
    | _ => exact absurd h (literal_text_ne rfl rfl)
  | int m =>
    cases hw with
    | text t => exact absurd h.symm (literal_text_ne rfl rfl)
    | int n => rw [toString_injective h]
    | bool b => exact absurd h (toString_ne_of_front (hbool b) m)
    | null => exact absurd h (toString_ne_of_front hnull m)
  | bool b =>
    cases hw with
    | text t => exact absurd h.symm (literal_text_ne rfl rfl)
    | int n => exact absurd h.symm (toString_ne_of_front (hbool b) n)
    | bool d => rw [literal_bool.1 b d h]
    | null => exact absurd h (literal_bool.2 b)
  | null =>
    cases hw with
    | text t => exact absurd h.symm (literal_text_ne rfl rfl)
    | int n => exact absurd h.symm (toString_ne_of_front hnull n)
    | bool b => exact absurd h.symm (literal_bool.2 b)
    | null => rfl

/-- A literal that is shown is the literal of the value. -/
theorem showLiteral_eq_ok_iff {v : Value} {s : String} :
    v.showLiteral = .ok s ↔ v.showable = true ∧ v.literal = s := by
  unfold showLiteral shownAs
  split
  · rename_i h
    rw [Except.ok.injEq, and_iff_right h]
  · rename_i h
    exact iff_of_false (fun hshown => nomatch hshown) fun hboth => h hboth.1

/-- A scalar is shown unless it is an integer with too many digits. -/
theorem exists_showLiteral_iff {v : Value} (hv : v.IsScalar) :
    (∃ s, v.showLiteral = .ok s) ↔ ∀ n, v = .int n → n.natAbs < 10 ^ digitLimit := by
  simp only [showLiteral_eq_ok_iff, exists_and_left, exists_eq', and_true]
  cases hv with
  | int n =>
    rw [showable, showableInteger_iff]
    exact ⟨fun h m heq => int.inj heq ▸ h, fun h => h n rfl⟩
  | text s =>
    refine iff_of_true rfl fun n heq => ?_
    cases heq
  | bool b =>
    refine iff_of_true rfl fun n heq => ?_
    cases heq
  | null =>
    refine iff_of_true rfl fun n heq => ?_
    cases heq

/-- A list of texts is written as the text that they make with commas between them. -/
theorem showLiteral_texts (texts : List String) :
    (list (texts.map .text)).showLiteral = (text (String.intercalate "," texts)).showLiteral := by
  have hshowable : (list (texts.map .text)).showable = true := by
    rw [showable_list_iff, List.forall_mem_map]
    exact fun s _ => rfl
  have hplain : (texts.map text).map plain = texts := by
    rw [List.map_map]
    exact List.map_id texts
  rw [showLiteral_text, showLiteral_eq_ok_iff]
  refine ⟨hshowable, ?_⟩
  rw [literal, hplain]

end Value

/-! ## Main statement -/

/-- What holds of a text and the inside of its literal. -/
structure Text.ReadsBack (s : String) (inside : List Char) : Prop where
  /-- Four passes over the text write it. -/
  passes : inside = inPasses s.toList
  /-- One substitution for each character writes it. -/
  substituted : inside = s.toList.flatMap slashed
  /-- It splits into escapes and characters that are not reserved. -/
  escaped : Escaped inside
  /-- It holds no NUL. -/
  nul_not_mem : '\x00' ∉ inside
  /-- A quote in it stands behind an odd number of backslashes. -/
  quotes : ∀ before q after, inside = before ++ q :: after → q = '\x27' ∨ q = '\x22' →
    trailing before % 2 = 1
  /-- It decodes to the text. -/
  decodes : Filter.decode inside = s.toList

namespace Value

/-- **Literals can be read back.** A text stands between quotes and can be read back from between
them; every escaped text is the inside of the literal of what it decodes to; scalars with the same
literal are the same, and all are shown but integers with too many digits; and a list of texts is
written as the text that they make with commas between them. -/
theorem literal_exact :
    (∀ s : String, (text s).showLiteral = .ok ("'" ++ Text.addSlashes s ++ "'") ∧
      Text.ReadsBack s (Text.addSlashes s).toList) ∧
    (∀ cs : List Char, Text.Escaped cs →
      (Text.addSlashes (String.ofList (Filter.decode cs))).toList = cs) ∧
    (∀ v w : Value, v.IsScalar → w.IsScalar → ∀ s, v.showLiteral = .ok s →
      w.showLiteral = .ok s → v = w) ∧
    (∀ v : Value, v.IsScalar →
      ((∃ s, v.showLiteral = .ok s) ↔ ∀ n, v = .int n → n.natAbs < 10 ^ digitLimit)) ∧
    ∀ texts : List String, (list (texts.map .text)).showLiteral =
      (text (String.intercalate "," texts)).showLiteral := by
  refine ⟨fun s => ⟨rfl, ?_⟩, ?_, ?_, fun v hv => exists_showLiteral_iff hv, showLiteral_texts⟩
  · rw [Text.toList_addSlashes]
    have hescaped := Text.escaped_flatMap_slashed s.toList
    exact ⟨(Text.inPasses_eq _).symm, rfl, hescaped, hescaped.nul_not_mem,
      fun before q after h hq => Text.trailing_before_quote hq h,
      Filter.decode_flatMap_slashed _⟩
  · intro cs h
    rw [Text.toList_addSlashes, String.toList_ofList, h.flatMap_slashed_decode]
  · intro v w hv hw s hs ht
    have hsame : v.literal = w.literal :=
      (showLiteral_eq_ok_iff.1 hs).2.trans (showLiteral_eq_ok_iff.1 ht).2.symm
    exact literal_injective hv hw hsame

end Value

end OData
