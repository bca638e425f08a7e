import OData.Filter.Literal

/-!
# Words

A value that is neither a text, a list nor an object is written into a filter as a word: letters,
digits, points and signs, hence no quote, no backslash, no parenthesis and no space.

* **Values** (`isWord_literal`): the literal of such a value is a word.
* **Numbers** (`isWord_render`, `isWord_toString`): it rests on the shape of their decimal form,
  which is digits, a point, signs and the letter of an exponent, whatever the digits are.
-/

namespace OData

namespace Text

/-- Whether a character may stand in a word. -/
def isWordChar (c : Char) : Bool :=
  c.isAlphanum || c == '.' || c == '-' || c == '+'

/-- Whether all characters of a list may stand in a word. -/
def IsWord (cs : List Char) : Prop :=
  ∀ c ∈ cs, isWordChar c = true

instance (cs : List Char) : Decidable (IsWord cs) :=
  decidable_of_iff (cs.all isWordChar = true) List.all_eq_true

theorem IsWord.append {cs ds : List Char} (hc : IsWord cs) (hd : IsWord ds) :
    IsWord (cs ++ ds) := by
  intro c hmem
  rcases List.mem_append.1 hmem with h | h
  · exact hc c h
  · exact hd c h

theorem IsWord.cons {c : Char} {cs : List Char} (hc : isWordChar c = true) (hcs : IsWord cs) :
    IsWord (c :: cs) := by
  intro d hmem
  rcases List.mem_cons.1 hmem with rfl | h
  · exact hc
  · exact hcs d h

theorem IsWord.of_subset {cs ds : List Char} (h : IsWord cs) (hsub : ds ⊆ cs) : IsWord ds :=
  fun c hc => h c (hsub hc)

theorem isWord_replicate_zero (n : Nat) : IsWord (List.replicate n '0') := by
  intro c hc
  rw [List.eq_of_mem_replicate hc]
  decide

/-- Decimal digits make a word. -/
theorem isWord_toDigits (n : Nat) : IsWord (Nat.toDigits 10 n) := by
  intro c hc
  have hdigit : c.isDigit = true := Nat.isDigit_of_mem_toDigits (by decide) (by decide) hc
  simp [isWordChar, Char.isAlphanum, hdigit]

end Text

open Text

namespace Decimal

/-- The digits that are shown of a decimal make a word. -/
theorem isWord_significantDigits (g : Binary.Grid) : IsWord (significantDigits g).1 := by
  apply (isWord_toDigits g.digits).of_subset
  intro c hc
  simp only [significantDigits, List.mem_reverse] at hc
  exact List.mem_reverse.1 ((List.dropWhile_sublist _).subset hc)

/-- An exponent makes a word. -/
theorem isWord_exponentText (width : Nat) (e : Int) : IsWord (exponentText width e) := by
  unfold exponentText
  apply IsWord.append _ (isWord_toDigits _)
  apply IsWord.cons _ (isWord_replicate_zero _)
  split <;> decide

/-- Digits that make a word are laid out as a word. -/
theorem isWord_place (l : Layout) {ds : List Char} (h : IsWord ds) (e : Int) :
    IsWord (l.place ds e) := by
  have htake (n : Nat) : IsWord (ds.take n) := h.of_subset (List.take_subset n ds)
  have hdrop (n : Nat) : IsWord (ds.drop n) := h.of_subset (List.drop_subset n ds)
  unfold Layout.place
  split
  · split
    · exact IsWord.cons (by decide) (IsWord.cons (by decide) ((isWord_replicate_zero _).append h))
    · refine ((htake _).append (isWord_replicate_zero _)).append (IsWord.cons (by decide) ?_)
      split
      · exact IsWord.cons (by decide) (fun c hc => nomatch hc)
      · exact hdrop _
  · refine ((htake _).append ?_).append (IsWord.cons (by decide) (isWord_exponentText _ _))
    split
    · exact fun c hc => nomatch hc
    · exact IsWord.cons (by decide) (hdrop _)

/-- A double is shown as a word. -/
theorem isWord_render (x : Float) : IsWord (render x).toList := by
  unfold render Double.render
  split
  · decide
  · split <;> decide
  · rename_i b _
    have hbody : IsWord (if b.significand = 0 then Layout.standard.place ['0'] 0
        else Layout.standard.place (significantDigits b.shortest).1
          (significantDigits b.shortest).2) := by
      split
      · exact isWord_place _ (by decide) _
      · exact isWord_place _ (isWord_significantDigits _) _
    rw [String.toList_ofList]
    split
    · exact IsWord.cons (by decide) hbody
    · exact hbody

end Decimal

/-- An integer is its digits, after a minus sign if it is negative. -/
theorem toList_toString_int (n : Int) : (toString n).toList =
    if 0 ≤ n then Nat.toDigits 10 n.toNat else '-' :: Nat.toDigits 10 (-n).toNat := by
  rw [Int.toString_eq_repr, Int.repr_eq_if]
  split
  · exact Nat.toList_repr
  · rw [String.toList_append, Nat.toList_repr]
    rfl

/-- An integer is shown as a word. -/
theorem isWord_toString (n : Int) : IsWord (toString n).toList := by
  rw [toList_toString_int]
  split
  · exact isWord_toDigits _
  · exact IsWord.cons (by decide) (isWord_toDigits _)

namespace Value

/-- The text that a value stands for in a literal between quotes: a text itself, a list its items
joined by commas. Other values are written without quotes. -/
def string? : Value → Option String
  | .text s => some s
  | .list items => some (String.intercalate "," (items.map plain))
  | _ => none

/-- Whether a value is no object. -/
def isDatum : Value → Bool
  | .object _ => false
  | _ => true

/-- A value with a text is written as its literal. -/
theorem literal_of_string? {v : Value} {s : String} (h : v.string? = some s) :
    v.literal = Text.literal s := by
  cases v <;> simp_all [string?, literal]

/-- **A value without a text is written as a word**, unless it is an object. -/
theorem isWord_literal {v : Value} (h : v.string? = none) (hdatum : v.isDatum = true) :
    IsWord v.literal.toList := by
  cases v with
  | null => decide
  | bool b => cases b <;> decide
  | int n => exact isWord_toString n
  | float x => exact Decimal.isWord_render x
  | text s => cases h
  | list items => cases h
  | object members => cases hdatum

end Value

end OData
