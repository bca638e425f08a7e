import OData.Proofs.Text.Split
import OData.Query.Address

/-!
# The pieces of an address

* **An address** (`toList_assemble`): a resource and, after a question mark, pieces with ampersands
  between them, one for each option and the filter last.
* **The options alone** (`toList_options`): their pieces with ampersands between them.
-/

namespace OData.Query

/-- An address is the resource, the options behind a question mark, and the filter behind another
or behind an ampersand. -/
theorem assemble_eq (resource options filter : String) :
    assemble resource options filter = resource ++
      (if options = "" then "" else "?" ++ options) ++
      (if filter = "" then "" else
        (if options = "" then "?" else "&") ++ "$filter=" ++ filter) := by
  unfold assemble
  split <;> split <;> simp [String.append_assoc]

/-- What the piece of a filter begins with. -/
def filterMark : List Char := "$filter=".toList

/-- The pieces of the options. -/
def optionPieces (ps : List (String × String)) : List (List Char) :=
  ps.map fun p => p.1.toList ++ '=' :: p.2.toList

/-- The pieces of an address: those of its options, and that of its filter unless it is empty. -/
def pieces (ps : List (String × String)) (filter : String) : List (List Char) :=
  optionPieces ps ++ if filter = "" then [] else [filterMark ++ filter.toList]

variable {ps : List (String × String)} {filter : String}

theorem toList_assignment (p : String × String) :
    (Options.assignment p).toList = p.1.toList ++ '=' :: p.2.toList := by
  simp [Options.assignment]

/-- The options as they are written are their pieces joined by ampersands. -/
theorem toList_options (ps : List (String × String)) :
    (String.intercalate "&" (ps.map Options.assignment)).toList =
      ['&'].intercalate (optionPieces ps) := by
  rw [String.toList_intercalate, List.map_map, optionPieces]
  congr 1
  exact List.map_congr_left fun p _ => toList_assignment p

/-- Options are written as nothing exactly if there are none. -/
theorem options_eq_empty_iff (ps : List (String × String)) :
    String.intercalate "&" (ps.map Options.assignment) = "" ↔ ps = [] := by
  constructor
  · intro h
    cases ps with
    | nil => rfl
    | cons p rest =>
      have hlist := toList_options (p :: rest)
      rw [h, optionPieces] at hlist
      cases rest with
      | nil => simp at hlist
      | cons next more => simp [List.intercalate_cons_cons] at hlist
  · rintro rfl
    rfl

theorem pieces_eq_nil_iff : pieces ps filter = [] ↔ ps = [] ∧ filter = "" := by
  unfold pieces optionPieces
  by_cases h : filter = "" <;> simp [h]

/-- A piece after joined pieces. -/
theorem intercalate_concat {ls : List (List Char)} (h : ls ≠ []) (last : List Char) :
    ['&'].intercalate (ls ++ [last]) = ['&'].intercalate ls ++ '&' :: last := by
  induction ls with
  | nil => exact absurd rfl h
  | cons l rest ih =>
    cases rest with
    | nil => simp [List.intercalate_cons_cons]
    | cons next more =>
      rw [List.cons_append, List.cons_append, List.intercalate_cons_cons, ← List.cons_append,
        ih (List.cons_ne_nil _ _), List.intercalate_cons_cons]
      simp

/-- **What an address is made of.** The resource comes first; if there are pieces, a question mark
and the pieces joined by ampersands follow. -/
theorem toList_assemble (resource : String) (ps : List (String × String)) (filter : String) :
    (assemble resource (String.intercalate "&" (ps.map Options.assignment)) filter).toList =
      resource.toList ++
        if pieces ps filter = [] then [] else '?' :: ['&'].intercalate (pieces ps filter) := by
  have hoptions := toList_options ps
  have hempty := options_eq_empty_iff ps
  unfold assemble
  by_cases hps : ps = []
  · subst hps
    by_cases hfilter : filter = ""
    · simp [hfilter, pieces, optionPieces]
    · have hmark : "$filter=".toList = filterMark := rfl
      simp [hfilter, pieces, optionPieces, hmark]
  · have hne : optionPieces ps ≠ [] := by simpa [optionPieces] using hps
    rw [if_neg (mt hempty.1 hps), if_neg (fun h => hps (pieces_eq_nil_iff.1 h).1)]
    by_cases hfilter : filter = ""
    · simp [hfilter, pieces, hoptions]
    · have hmark : "$filter=".toList = filterMark := rfl
      rw [if_neg hfilter, if_neg (mt hempty.1 hps), pieces, if_neg hfilter, intercalate_concat hne]
      simp [hoptions, hmark]

end OData.Query
