import Mathlib.Data.List.DropRight
import OData.Text.Trim

/-!
# Padding around a text

Characters of one kind at the ends of a text, which trimming leaves out. A trimmed text stands for
all texts that differ in their padding.

* **Padding does not matter** (`trimmed_pad`) to the trimmed text, and every text is a trimmed one
  with padding (`exists_pad`).
* **Slashes** (`sameButEndSlashes_iff`, `sameButOuterSlashes_iff`): two texts are the same but for
  their padding exactly if they are the same when trimmed.
-/

namespace OData.Text

/-! ## Characters of any kind -/

section Kind

variable {p : Char → Bool} {l r : List Char}

/-- What is dropped at the end of a text may as well be added there. -/
theorem dropFinal_append_of_forall (hr : ∀ c ∈ r, p c = true) (cs : List Char) :
    dropFinal p (cs ++ r) = dropFinal p cs := by
  have hreverse : ∀ c ∈ r.reverse, p c = true := fun c hc => hr c (List.mem_reverse.1 hc)
  rw [dropFinal, List.reverse_append, List.dropWhile_append_of_pos hreverse, dropFinal]

/-- What is behind a text is trimmed alone unless nothing is left of it. -/
theorem dropFinal_append_of_ne_nil (hr : dropFinal p r ≠ []) (cs : List Char) :
    dropFinal p (cs ++ r) = cs ++ dropFinal p r := by
  have hreverse : r.reverse.dropWhile p ≠ [] := fun h => hr (congrArg List.reverse h)
  rw [dropFinal, List.reverse_append, List.dropWhile_append, if_neg (by simpa using hreverse),
    List.reverse_append, List.reverse_reverse, dropFinal]

/-- The first character is dropped at the end only if all others are. -/
theorem dropFinal_cons (p : Char → Bool) (c : Char) (cs : List Char) :
    dropFinal p (c :: cs) =
      if dropFinal p cs = [] ∧ p c = true then [] else c :: dropFinal p cs := by
  rw [dropFinal, List.reverse_cons, List.dropWhile_append, dropFinal]
  by_cases hrest : cs.reverse.dropWhile p = [] <;> by_cases hc : p c = true <;>
    simp [hrest, hc]

/-- The two ends of a text are trimmed in either order. -/
theorem dropWhile_dropFinal (p : Char → Bool) (cs : List Char) :
    (dropFinal p cs).dropWhile p = dropFinal p (cs.dropWhile p) := by
  induction cs with
  | nil => rfl
  | cons c rest ih =>
    rw [dropFinal_cons]
    by_cases hc : p c = true
    · rw [List.dropWhile_cons_of_pos hc, ← ih]
      split
      · rename_i hempty
        rw [hempty.1]
      · rw [List.dropWhile_cons_of_pos hc]
    · rw [if_neg fun h => hc h.2, List.dropWhile_cons_of_neg hc, List.dropWhile_cons_of_neg hc,
        dropFinal_cons, if_neg fun h => hc h.2]

/-- Padding does not matter to what is trimmed. -/
theorem trimmed_pad (hl : ∀ c ∈ l, p c = true) (hr : ∀ c ∈ r, p c = true) (cs : List Char) :
    dropFinal p ((l ++ cs ++ r).dropWhile p) = dropFinal p (cs.dropWhile p) := by
  rw [← dropWhile_dropFinal, dropFinal_append_of_forall hr, dropWhile_dropFinal,
    List.dropWhile_append_of_pos hl]

/-- What is dropped at the end is padding. -/
theorem exists_final_pad (p : Char → Bool) (cs : List Char) :
    ∃ r, (∀ c ∈ r, p c = true) ∧ dropFinal p cs ++ r = cs :=
  ⟨cs.rtakeWhile p, fun _ hc => List.mem_rtakeWhile_imp hc, List.rdropWhile_append_rtakeWhile⟩

/-- Every text is a trimmed one with padding. -/
theorem exists_pad (p : Char → Bool) (cs : List Char) :
    ∃ l r, (∀ c ∈ l, p c = true) ∧ (∀ c ∈ r, p c = true) ∧
      l ++ dropFinal p (cs.dropWhile p) ++ r = cs := by
  obtain ⟨r, hr, hback⟩ := exists_final_pad p (cs.dropWhile p)
  refine ⟨cs.takeWhile p, r, fun c hc => List.mem_takeWhile_imp hc, hr, ?_⟩
  rw [List.append_assoc, hback, List.takeWhile_append_dropWhile]

end Kind

/-! ## Slashes -/

/-- Whether a text holds slashes only. -/
def OnlySlashes (s : String) : Prop :=
  ∀ c ∈ s.toList, c = '/'

/-- A text without the slashes at its two ends. -/
def trimSlashes (s : String) : String :=
  trimStartSlashes (trimEndSlashes s)

/-- Whether two texts are the same but for slashes at the end: each is a common text with any
number of slashes behind it. -/
def SameButEndSlashes (s t : String) : Prop :=
  ∃ stem l m, OnlySlashes l ∧ OnlySlashes m ∧ s = stem ++ l ∧ t = stem ++ m

/-- Whether two texts are the same but for slashes at their two ends: each is a common text with any
number of slashes before and behind it. -/
def SameButOuterSlashes (s t : String) : Prop :=
  ∃ stem l r l' r', OnlySlashes l ∧ OnlySlashes r ∧ OnlySlashes l' ∧ OnlySlashes r' ∧
    s = l ++ stem ++ r ∧ t = l' ++ stem ++ r'

variable {s t l r : String}

theorem onlySlashes_iff : OnlySlashes s ↔ ∀ c ∈ s.toList, (c == '/') = true :=
  forall₂_congr fun _ _ => beq_iff_eq.symm

theorem onlySlashes_ofList {cs : List Char} (h : ∀ c ∈ cs, (c == '/') = true) :
    OnlySlashes (String.ofList cs) := by
  rw [onlySlashes_iff, String.toList_ofList]
  exact h

/-- Nothing is left of a text that holds slashes only. -/
theorem trimEndSlashes_eq_empty_iff : trimEndSlashes s = "" ↔ OnlySlashes s := by
  rw [← String.toList_inj, trimEndSlashes, toList_trimEnd, String.toList_empty]
  exact List.rdropWhile_eq_nil_iff.trans (by simp [OnlySlashes])

/-- Nothing is left of it either if it is trimmed from the front. -/
theorem trimStartSlashes_eq_empty_iff : trimStartSlashes s = "" ↔ OnlySlashes s := by
  rw [← String.toList_inj, trimStartSlashes, toList_trimStart, String.toList_empty,
    List.dropWhile_eq_nil_iff, onlySlashes_iff]

/-- The two ends are trimmed of slashes in either order. -/
theorem trimSlashes_eq (s : String) : trimSlashes s = trimEndSlashes (trimStartSlashes s) := by
  rw [← String.toList_inj, trimSlashes, trimStartSlashes, toList_trimStart, trimEndSlashes,
    toList_trimEnd, dropWhile_dropFinal, trimEndSlashes, toList_trimEnd, trimStartSlashes,
    toList_trimStart]

theorem toList_trimSlashes (s : String) :
    (trimSlashes s).toList = dropFinal (· == '/') (s.toList.dropWhile (· == '/')) := by
  rw [trimSlashes_eq, trimEndSlashes, toList_trimEnd, trimStartSlashes, toList_trimStart]

/-- Slashes at the end do not matter to what is trimmed there. -/
theorem trimEndSlashes_append (s : String) (hr : OnlySlashes r) :
    trimEndSlashes (s ++ r) = trimEndSlashes s := by
  rw [← String.toList_inj, trimEndSlashes, trimEndSlashes, toList_trimEnd, toList_trimEnd,
    String.toList_append, dropFinal_append_of_forall (onlySlashes_iff.1 hr)]

/-- A text is not trimmed behind which more than slashes follow. -/
theorem trimEndSlashes_append_of_more (s : String) (hr : ¬ OnlySlashes r) :
    trimEndSlashes (s ++ r) = s ++ trimEndSlashes r := by
  have hleft : dropFinal (· == '/') r.toList ≠ [] := by
    intro hempty
    refine hr (trimEndSlashes_eq_empty_iff.1 (String.toList_inj.1 ?_))
    rw [trimEndSlashes, toList_trimEnd, hempty, String.toList_empty]
  rw [← String.toList_inj, trimEndSlashes, toList_trimEnd, String.toList_append,
    dropFinal_append_of_ne_nil hleft, String.toList_append, trimEndSlashes, toList_trimEnd]

/-- Slashes in front do not matter to what is trimmed there. -/
theorem trimStartSlashes_append (hl : OnlySlashes l) (s : String) :
    trimStartSlashes (l ++ s) = trimStartSlashes s := by
  rw [← String.toList_inj, trimStartSlashes, trimStartSlashes, toList_trimStart, toList_trimStart,
    String.toList_append, List.dropWhile_append_of_pos (onlySlashes_iff.1 hl)]

@[simp] theorem trimStartSlashes_trimStartSlashes (s : String) :
    trimStartSlashes (trimStartSlashes s) = trimStartSlashes s := by
  rw [← String.toList_inj, trimStartSlashes, trimStartSlashes, toList_trimStart, toList_trimStart]
  exact List.dropWhile_idempotent _ _

/-- Slashes at both ends do not matter to what is trimmed at both. -/
theorem trimSlashes_pad (hl : OnlySlashes l) (hr : OnlySlashes r) (s : String) :
    trimSlashes (l ++ s ++ r) = trimSlashes s := by
  rw [← String.toList_inj, toList_trimSlashes, toList_trimSlashes, String.toList_append,
    String.toList_append, trimmed_pad (onlySlashes_iff.1 hl) (onlySlashes_iff.1 hr)]

/-- A text is the trimmed one with slashes behind it. -/
theorem exists_end_slashes (s : String) : ∃ r, OnlySlashes r ∧ trimEndSlashes s ++ r = s := by
  obtain ⟨r, hr, hs⟩ := exists_final_pad (· == '/') s.toList
  refine ⟨String.ofList r, onlySlashes_ofList hr, ?_⟩
  rw [← String.toList_inj, String.toList_append, trimEndSlashes, toList_trimEnd,
    String.toList_ofList, hs]

/-- A text is the trimmed one with slashes around it. -/
theorem exists_outer_slashes (s : String) :
    ∃ l r, OnlySlashes l ∧ OnlySlashes r ∧ l ++ trimSlashes s ++ r = s := by
  obtain ⟨l, r, hl, hr, hs⟩ := exists_pad (· == '/') s.toList
  refine ⟨String.ofList l, String.ofList r, onlySlashes_ofList hl, onlySlashes_ofList hr, ?_⟩
  rw [← String.toList_inj, String.toList_append, String.toList_append, toList_trimSlashes,
    String.toList_ofList, String.toList_ofList, hs]

/-- Texts are the same but for slashes at the end exactly if they are the same without them. -/
theorem sameButEndSlashes_iff : SameButEndSlashes s t ↔ trimEndSlashes s = trimEndSlashes t := by
  constructor
  · rintro ⟨stem, l, m, hl, hm, rfl, rfl⟩
    rw [trimEndSlashes_append stem hl, trimEndSlashes_append stem hm]
  · intro h
    obtain ⟨l, hl, hs⟩ := exists_end_slashes s
    obtain ⟨m, hm, ht⟩ := exists_end_slashes t
    exact ⟨trimEndSlashes s, l, m, hl, hm, hs.symm, by rw [h, ht]⟩

/-- Texts are the same but for slashes at their two ends exactly if they are the same without
them. -/
theorem sameButOuterSlashes_iff : SameButOuterSlashes s t ↔ trimSlashes s = trimSlashes t := by
  constructor
  · rintro ⟨stem, l, r, l', r', hl, hr, hl', hr', rfl, rfl⟩
    rw [trimSlashes_pad hl hr, trimSlashes_pad hl' hr']
  · intro h
    obtain ⟨l, r, hl, hr, hs⟩ := exists_outer_slashes s
    obtain ⟨l', r', hl', hr', ht⟩ := exists_outer_slashes t
    exact ⟨trimSlashes s, l, r, l', r', hl, hr, hl', hr', hs.symm, by rw [h, ht]⟩

/-- A slash after a text without slashes at the end is the only one there. -/
theorem trimEndSlashes_append_slash (s : String) :
    trimEndSlashes (trimEndSlashes s ++ "/") = trimEndSlashes s := by
  obtain ⟨r, hr, hs⟩ := exists_end_slashes s
  have hslash : OnlySlashes "/" := fun c hc => List.mem_singleton.1 hc
  calc
    trimEndSlashes (trimEndSlashes s ++ "/") = trimEndSlashes (trimEndSlashes s) :=
      trimEndSlashes_append _ hslash
    _ = trimEndSlashes (trimEndSlashes s ++ r) := (trimEndSlashes_append _ hr).symm
    _ = trimEndSlashes s := by rw [hs]

end OData.Text
