import OData.Proofs.Value.Word
import OData.Query.Call

/-!
# The values of options

What is written of the options of a query whose lists hold texts.

* **Lists** (`csv_text`): a list of fields is written as its fields that are not blank, without the
  blanks at their ends.
* **Counts** (`Options.Holds.pairs_eq_ok_iff`): options can be written exactly if both of their
  counts can.
* **Values** (`Options.not_mem_value`): options whose texts do not hold an ampersand have values
  that do not hold one.
-/

namespace OData

/-! ## Characters of texts -/

namespace Text

/-- Trimming the end of a text adds no character. -/
theorem dropFinal_subset (p : Char → Bool) (cs : List Char) : dropFinal p cs ⊆ cs := by
  intro c hc
  have hmem : c ∈ cs.reverse.dropWhile p := List.mem_reverse.1 hc
  exact List.mem_reverse.1 ((List.dropWhile_sublist p).subset hmem)

/-- Stripping a text adds no character. -/
theorem strip_subset (s : String) : (strip s).toList ⊆ s.toList := by
  rw [toList_strip]
  intro c hc
  exact (List.dropWhile_sublist isBlank).subset (dropFinal_subset isBlank _ hc)

/-- A character of joined texts is one of the separator or of some text. -/
theorem mem_intercalate {c : Char} {sep : String} {parts : List String}
    (h : c ∈ (String.intercalate sep parts).toList) :
    c ∈ sep.toList ∨ ∃ part ∈ parts, c ∈ part.toList := by
  induction parts with
  | nil => cases h
  | cons part rest ih =>
    cases rest with
    | nil =>
      rw [String.intercalate_singleton] at h
      exact Or.inr ⟨part, List.mem_cons_self, h⟩
    | cons next more =>
      rw [String.intercalate_cons_cons, String.toList_append, String.toList_append] at h
      rcases List.mem_append.1 h with h | h
      · rcases List.mem_append.1 h with h | h
        · exact Or.inr ⟨part, List.mem_cons_self, h⟩
        · exact Or.inl h
      · rcases ih h with h | ⟨other, hother, hc⟩
        · exact Or.inl h
        · exact Or.inr ⟨other, List.mem_cons_of_mem part hother, hc⟩

end Text

namespace Options

/-! ## Lists of fields -/

/-- The fields of a list that are written: those that are not blank, without the blanks at their
ends. -/
def written (fields : List String) : List String :=
  (fields.map Text.strip).filter (· ≠ "")

theorem csvField_text (s : String) :
    csvField (.text s) = .ok (if Text.strip s = "" then none else some (Text.strip s)) := by
  unfold csvField
  by_cases h : s = ""
  · subst h
    rfl
  · have htruthy : (Value.text s).truthy = true := bne_iff_ne.2 h
    rw [if_pos htruthy]

/-- Of a list of texts the fields that are not blank are written. -/
theorem csvFields_text (fields : List String) :
    csvFields (fields.map .text) = .ok (written fields) := by
  induction fields with
  | nil => rfl
  | cons s rest ih =>
    rw [List.map_cons, csvFields, csvField_text, ih]
    unfold written
    by_cases h : Text.strip s = "" <;> simp [bind, Except.bind, h]

/-- A list of texts is written as its fields joined by commas. -/
theorem csv_text (fields : List String) :
    csv (fields.map .text) = .ok (String.intercalate "," (written fields)) := by
  rw [csv, csvFields_text]
  rfl

/-- A written field is a field without the blanks at its ends. -/
theorem mem_written {s : String} {fields : List String} :
    s ∈ written fields ↔ s ≠ "" ∧ ∃ field ∈ fields, Text.strip field = s := by
  simp [written, and_comm]

/-- Fields are written as nothing exactly if all of them are blank. -/
theorem csv_eq_empty_iff (fields : List String) :
    String.intercalate "," (written fields) = "" ↔ written fields = [] := by
  constructor
  · intro hempty
    cases hfields : written fields with
    | nil => rfl
    | cons s rest =>
      have hs : s ≠ "" := (mem_written.1 (hfields ▸ List.mem_cons_self)).1
      rw [hfields] at hempty
      cases rest with
      | nil => exact absurd hempty (by simpa using hs)
      | cons next more => simp [String.intercalate_cons_cons] at hempty
  · intro hnil
    rw [hnil]
    rfl

/-- Joining written fields adds no character but the comma. -/
theorem not_mem_csv {c : Char} {fields : List String} (hcomma : c ≠ ',')
    (h : ∀ field ∈ fields, c ∉ field.toList) :
    c ∉ (String.intercalate "," (written fields)).toList := by
  intro hc
  rcases Text.mem_intercalate hc with hsep | ⟨s, hs, hc⟩
  · exact hcomma (by simpa using hsep)
  · obtain ⟨-, field, hfield, rfl⟩ := mem_written.1 hs
    exact h field hfield (Text.strip_subset field hc)

/-! ## Options whose lists hold texts -/

/-- Options with lists of texts: the selected fields, the expanded properties and what the order
terms say. -/
structure Holds (o : Options) (selected expanded terms : List String) : Prop where
  /-- The selected fields. -/
  selected : o.selected = selected.map .text
  /-- The expanded properties. -/
  expanded : o.expanded = expanded.map .text
  /-- What the order terms say. -/
  terms : orderTexts o.orderTerms = .ok terms

/-- The options whose values are lists. -/
def lists (selected expanded terms : List String) : List (String × String) :=
  listed "$select" (String.intercalate "," (written selected)) ++
    listed "$expand" (String.intercalate "," (written expanded)) ++
    listed "$orderby" (String.intercalate "," (written terms))

/-- The option with the given name, if its count is set. -/
def shown (name : String) (count : Option Int) : List (String × String) :=
  count.toList.map fun n => (name, toString n)

variable {o : Options} {selected expanded terms : List String}

theorem counted_some (name : String) (n : Int) :
    counted name (some n) =
      if showableInteger n = true then .ok [(name, toString n)] else .error .badContent := by
  unfold counted showInteger
  by_cases h : showableInteger n = true
  · simp only [if_pos h]
    rfl
  · simp only [if_neg h]
    rfl

/-- A count is written exactly if it can be shown. -/
theorem counted_eq_ok_iff {name : String} {count : Option Int} {ps : List (String × String)} :
    counted name count = .ok ps ↔
      (∀ n ∈ count, showableInteger n = true) ∧ ps = shown name count := by
  cases count with
  | none =>
    constructor
    · intro h
      exact ⟨fun n hn => absurd hn (by simp), (Except.ok.inj h).symm⟩
    · rintro ⟨-, rfl⟩
      rfl
  | some n =>
    rw [counted_some]
    split
    · rename_i hn
      constructor
      · intro hok
        exact ⟨fun m hm => Option.some.inj hm ▸ hn, (Except.ok.inj hok).symm⟩
      · rintro ⟨-, rfl⟩
        rfl
    · rename_i hn
      constructor
      · intro herror
        cases herror
      · rintro ⟨hall, -⟩
        exact absurd (hall n rfl) hn

/-- **What is written.** The lists come first, and then the counts, which have to be ones that can
be shown. -/
theorem Holds.pairs_eq_ok_iff (h : o.Holds selected expanded terms) {ps : List (String × String)} :
    o.pairs = .ok ps ↔
      ((∀ n ∈ o.top, showableInteger n = true) ∧ (∀ n ∈ o.skip, showableInteger n = true)) ∧
        ps = lists selected expanded terms ++ shown "$top" o.top ++ shown "$skip" o.skip := by
  unfold pairs
  rw [h.selected, h.expanded, h.terms]
  simp only [bind, Except.bind, csv_text]
  constructor
  · intro hok
    cases htop : counted "$top" o.top with
    | error cause => simp [htop] at hok
    | ok top =>
      cases hskip : counted "$skip" o.skip with
      | error cause => simp [htop, hskip] at hok
      | ok skip =>
        obtain ⟨hn, rfl⟩ := counted_eq_ok_iff.1 htop
        obtain ⟨hm, rfl⟩ := counted_eq_ok_iff.1 hskip
        simp only [htop, hskip, Except.ok.injEq] at hok
        exact ⟨⟨hn, hm⟩, by rw [← hok]; rfl⟩
  · rintro ⟨⟨hn, hm⟩, rfl⟩
    rw [counted_eq_ok_iff.2 ⟨hn, rfl⟩, counted_eq_ok_iff.2 ⟨hm, rfl⟩]
    rfl

/-- The names of options. -/
def names : List String := ["$select", "$expand", "$orderby", "$top", "$skip"]

theorem mem_listed {name text : String} {p : String × String} :
    p ∈ listed name text ↔ p = (name, text) ∧ text ≠ "" := by
  unfold listed
  split <;> simp_all

/-- An option is written with one of the names. -/
theorem name_mem_names {p : String × String}
    (hp : p ∈ lists selected expanded terms ++ shown "$top" o.top ++ shown "$skip" o.skip) :
    p.1 ∈ names := by
  simp only [lists, shown, List.mem_append, List.mem_map, mem_listed] at hp
  rcases hp with (((⟨rfl, -⟩ | ⟨rfl, -⟩) | ⟨rfl, -⟩) | ⟨n, -, rfl⟩) | ⟨n, -, rfl⟩ <;> simp [names]

/-- **Values without a character.** If the texts do not hold a character, the values of the options
do not either, unless it is a comma or one of a number. -/
theorem not_mem_value {c : Char} (hcomma : c ≠ ',') (hword : Text.isWordChar c = false)
    (hselected : ∀ s ∈ selected, c ∉ s.toList) (hexpanded : ∀ s ∈ expanded, c ∉ s.toList)
    (hterms : ∀ s ∈ terms, c ∉ s.toList) {p : String × String}
    (hp : p ∈ lists selected expanded terms ++ shown "$top" o.top ++ shown "$skip" o.skip) :
    c ∉ p.2.toList := by
  have hcount (n : Int) : c ∉ (toString n).toList := by
    intro hc
    exact absurd (hword.symm.trans (isWord_toString n c hc)) (by decide)
  simp only [lists, shown, List.mem_append, List.mem_map, mem_listed] at hp
  rcases hp with (((⟨rfl, -⟩ | ⟨rfl, -⟩) | ⟨rfl, -⟩) | ⟨n, -, rfl⟩) | ⟨n, -, rfl⟩
  · exact not_mem_csv hcomma hselected
  · exact not_mem_csv hcomma hexpanded
  · exact not_mem_csv hcomma hterms
  · exact hcount n
  · exact hcount n

/-- The selected fields are written under their name exactly if one of them is not blank. -/
theorem select_mem_iff {value : String} :
    ("$select", value) ∈
        lists selected expanded terms ++ shown "$top" o.top ++ shown "$skip" o.skip ↔
      value = String.intercalate "," (written selected) ∧ written selected ≠ [] := by
  have hne := not_congr (csv_eq_empty_iff selected)
  simp only [lists, shown, List.mem_append, List.mem_map, mem_listed, Prod.mk.injEq]
  constructor
  · rintro ((((⟨⟨-, hvalue⟩, h⟩ | ⟨⟨h, -⟩, -⟩) | ⟨⟨h, -⟩, -⟩) | ⟨n, -, h, -⟩) | ⟨n, -, h, -⟩)
    · exact ⟨hvalue, hne.1 h⟩
    · exact absurd h (by decide)
    · exact absurd h (by decide)
    · exact absurd h (by decide)
    · exact absurd h (by decide)
  · rintro ⟨hvalue, h⟩
    exact Or.inl (Or.inl (Or.inl (Or.inl ⟨⟨trivial, hvalue⟩, hne.2 h⟩)))

/-! ## Options without ampersands -/

/-- Options whose lists hold texts without an ampersand. -/
structure Plain (o : Options) : Prop where
  /-- The selected fields are texts without an ampersand. -/
  selected : ∀ v ∈ o.selected, ∃ s, v = .text s ∧ '&' ∉ s.toList
  /-- The expanded properties are texts without an ampersand. -/
  expanded : ∀ v ∈ o.expanded, ∃ s, v = .text s ∧ '&' ∉ s.toList
  /-- The order terms say texts without an ampersand. -/
  terms : ∀ v ∈ o.orderTerms, ∃ s, orderTerm v = .ok s ∧ '&' ∉ s.toList

/-- Values that are texts are the values of texts. -/
theorem exists_texts {items : List Value}
    (h : ∀ v ∈ items, ∃ s, v = .text s ∧ '&' ∉ s.toList) :
    ∃ ss : List String, items = ss.map Value.text ∧ ∀ s ∈ ss, '&' ∉ s.toList := by
  induction items with
  | nil => exact ⟨[], rfl, fun _ h => absurd h List.not_mem_nil⟩
  | cons v rest ih =>
    obtain ⟨s, rfl, hs⟩ := h v List.mem_cons_self
    obtain ⟨ss, rfl, hss⟩ := ih fun w hw => h w (List.mem_cons_of_mem _ hw)
    refine ⟨s :: ss, rfl, ?_⟩
    intro t ht
    rcases List.mem_cons.1 ht with rfl | ht
    · exact hs
    · exact hss t ht

/-- Order terms that say texts say the texts of a list. -/
theorem exists_orderTexts {items : List Value}
    (h : ∀ v ∈ items, ∃ s, orderTerm v = .ok s ∧ '&' ∉ s.toList) :
    ∃ ss : List String, orderTexts items = .ok ss ∧ ∀ s ∈ ss, '&' ∉ s.toList := by
  induction items with
  | nil => exact ⟨[], rfl, fun _ h => absurd h List.not_mem_nil⟩
  | cons v rest ih =>
    obtain ⟨s, hs, hfree⟩ := h v List.mem_cons_self
    obtain ⟨ss, hss, hrest⟩ := ih fun w hw => h w (List.mem_cons_of_mem _ hw)
    refine ⟨s :: ss, ?_, ?_⟩
    · rw [orderTexts, hs, hss]
      rfl
    · intro t ht
      rcases List.mem_cons.1 ht with rfl | ht
      · exact hfree
      · exact hrest t ht

/-- The selected fields that are texts. -/
def selectedTexts (o : Options) : List String :=
  o.selected.filterMap Value.text?

/-- Plain options hold lists of texts without an ampersand. -/
theorem Plain.exists_holds (h : o.Plain) :
    ∃ expanded terms, o.Holds o.selectedTexts expanded terms ∧
      (∀ s ∈ o.selectedTexts, '&' ∉ s.toList) ∧ (∀ s ∈ expanded, '&' ∉ s.toList) ∧
      ∀ s ∈ terms, '&' ∉ s.toList := by
  obtain ⟨selected, hselected, hfree⟩ := exists_texts h.selected
  obtain ⟨expanded, hexpanded, hfree'⟩ := exists_texts h.expanded
  obtain ⟨terms, hterms, hfree''⟩ := exists_orderTexts h.terms
  have htexts : o.selectedTexts = selected := by
    rw [selectedTexts, hselected, List.filterMap_map]
    exact List.filterMap_some
  rw [htexts]
  exact ⟨expanded, terms, ⟨hselected, hexpanded, hterms⟩, hfree, hfree', hfree''⟩

end Options

end OData
