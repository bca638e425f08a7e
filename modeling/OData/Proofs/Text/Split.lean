import OData.Text.Blank

/-!
# Splitting texts

A text is split in two ways: at the first occurrence of a character (`before`, `after?`), and at all
of them, by `List.splitOn`.

* **At the first one** (`before_append_cons`, `after?_append_cons`): what splitting gives of a text
  that was put together with the character between its parts.
* **At all of them** (`splitOn_intercalate_eq_flatMap`): parts that were joined are split at the
  separators between them and at those inside them.
-/

namespace OData.Text

/-! ## At the first occurrence -/

/-- What stands before the first occurrence of a character: everything if it does not occur. -/
def before (sep : Char) (cs : List Char) : List Char :=
  cs.takeWhile (· != sep)

/-- What stands after the first occurrence of a character, if it occurs. -/
def after? (sep : Char) (cs : List Char) : Option (List Char) :=
  (cs.dropWhile (· != sep)).tail?

variable {sep : Char} {cs : List Char}

theorem bne_of_not_mem (h : sep ∉ cs) : ∀ c ∈ cs, (c != sep) = true := by
  intro c hc
  exact bne_iff_ne.2 fun heq => h (heq ▸ hc)

/-- The separator ends what stands before it. -/
theorem before_append_cons (h : sep ∉ cs) (rest : List Char) :
    before sep (cs ++ sep :: rest) = cs := by
  rw [before, List.takeWhile_append_of_pos (bne_of_not_mem h)]
  simp

/-- What follows the separator stands after it. -/
theorem after?_append_cons (h : sep ∉ cs) (rest : List Char) :
    after? sep (cs ++ sep :: rest) = some rest := by
  rw [after?, List.dropWhile_append_of_pos (bne_of_not_mem h)]
  simp

/-- Everything stands before a separator that does not occur. -/
theorem before_of_not_mem (h : sep ∉ cs) : before sep cs = cs := by
  have happend : (cs ++ []).takeWhile (· != sep) = cs ++ [].takeWhile (· != sep) :=
    List.takeWhile_append_of_pos (bne_of_not_mem h)
  simpa [before] using happend

/-- Nothing stands after a separator that does not occur. -/
theorem after?_of_not_mem (h : sep ∉ cs) : after? sep cs = none := by
  have happend : (cs ++ []).dropWhile (· != sep) = [].dropWhile (· != sep) :=
    List.dropWhile_append_of_pos (bne_of_not_mem h)
  rw [List.append_nil] at happend
  rw [after?, happend]
  rfl

/-- What stands after the first occurrence of a character in the first of two texts goes on with
the second. -/
theorem after?_append_of_mem (h : sep ∈ cs) (more : List Char) :
    ∃ rest, after? sep cs = some rest ∧ after? sep (cs ++ more) = some (rest ++ more) := by
  obtain ⟨front, rest, rfl, hfront⟩ := List.eq_append_cons_of_mem h
  refine ⟨rest, after?_append_cons hfront rest, ?_⟩
  rw [List.append_assoc, List.cons_append]
  exact after?_append_cons hfront (rest ++ more)

/-! ## At all occurrences -/

/-- Joined texts are split at the separators between them and at those inside them. -/
theorem splitOn_intercalate_eq_flatMap {chunks : List (List Char)} (hne : chunks ≠ []) :
    ([sep].intercalate chunks).splitOn sep = chunks.flatMap (List.splitOn sep) := by
  induction chunks with
  | nil => exact absurd rfl hne
  | cons chunk rest ih =>
    cases rest with
    | nil => simp
    | cons next more =>
      rw [List.intercalate_cons_cons, List.append_assoc, List.singleton_append,
        List.splitOn_append_cons_self, ih (List.cons_ne_nil _ _)]
      rfl

/-- A text in front of joined texts is in front of the first of them. -/
theorem append_intercalate_cons (front chunk : List Char) (rest : List (List Char)) :
    front ++ [sep].intercalate (chunk :: rest) = [sep].intercalate ((front ++ chunk) :: rest) := by
  cases rest with
  | nil => simp
  | cons next more => simp [List.intercalate_cons_cons]

end OData.Text
