import OData.Text.Blank

/-!
# Occurrences in texts that were put together

Where a sequence of characters occurs in a text that was joined, stripped or split.

* **Joined texts** (`infix_intercalate_iff`): a separator that is not in the sequence keeps the
  parts apart.
* **Stripped texts** (`infix_stripChars_iff`): blanks around a text do not matter to a sequence
  without blanks.
* **Split texts** (`exists_mem_splitOn_iff`): a sequence begins a piece exactly if it begins the
  text or follows a separator.
-/

namespace OData.Text

variable {sep : Char} {p a b : List Char}

theorem occursInChars_iff {s : List Char} : occursInChars p s = true ↔ p <:+: s := by
  induction s with
  | nil => rw [occursInChars, List.isEmpty_iff, List.infix_nil]
  | cons c rest ih =>
    rw [occursInChars, Bool.or_eq_true, List.isPrefixOf_iff_prefix, ih, List.infix_cons_iff]

/-- A text occurs in another if its characters follow each other there. -/
theorem occursIn_iff {part s : String} : occursIn part s = true ↔ part.toList <:+: s.toList :=
  occursInChars_iff

/-- A text begins with another if its characters do. -/
theorem beginsWith_iff {start s : String} :
    beginsWith start s = true ↔ start.toList <+: s.toList :=
  List.isPrefixOf_iff_prefix

/-! ## Around a separator -/

/-- What a separator ends does not matter to what begins before it. -/
theorem prefix_append_cons_iff (hsep : sep ∉ p) : p <+: a ++ sep :: b ↔ p <+: a := by
  constructor
  · intro hp
    rcases List.prefix_or_prefix_of_prefix hp (List.prefix_append a (sep :: b)) with hpa | hap
    · exact hpa
    · obtain ⟨t, rfl⟩ := hap
      rw [List.prefix_append_right_inj, List.prefix_cons_iff] at hp
      rcases hp with rfl | ⟨rest, rfl, -⟩
      · exact (List.append_nil a).symm ▸ List.prefix_refl a
      · exact absurd (List.mem_append_right a List.mem_cons_self) hsep
  · intro hp
    exact hp.trans (List.prefix_append a _)

/-- What occurs around a separator that is not part of it occurs on one side. -/
theorem infix_append_cons_iff (hsep : sep ∉ p) : p <:+: a ++ sep :: b ↔ p <:+: a ∨ p <:+: b := by
  constructor
  · intro hp
    rcases List.infix_append_iff.1 hp with hpa | hpb | ⟨first, second, rfl, hfirst, hsecond⟩
    · exact Or.inl hpa
    · rcases List.infix_cons_iff.1 hpb with hbegins | hinside
      · have hempty : p <+: [] := prefix_append_cons_iff (a := []) hsep |>.1 hbegins
        rw [List.prefix_nil.1 hempty]
        exact Or.inl List.nil_infix
      · exact Or.inr hinside
    · rcases List.prefix_cons_iff.1 hsecond with rfl | ⟨rest, rfl, -⟩
      · rw [List.append_nil]
        exact Or.inl hfirst.isInfix
      · exact absurd (List.mem_append_right first List.mem_cons_self) hsep
  · rintro (hpa | hpb)
    · exact hpa.trans (List.prefix_append a _).isInfix
    · exact (List.infix_cons hpb).trans (List.suffix_append a _).isInfix

/-- What begins with a character occurs behind a text without the character. -/
theorem cons_infix_append_iff {c : Char} {w : List Char} (hc : c ∉ a) :
    c :: w <:+: a ++ b ↔ c :: w <:+: b := by
  induction a with
  | nil => rfl
  | cons x rest ih =>
    rw [List.mem_cons, not_or] at hc
    rw [List.cons_append, List.infix_cons_iff, List.cons_prefix_cons, ih hc.2]
    constructor
    · rintro (⟨rfl, -⟩ | h)
      · exact absurd rfl hc.1
      · exact h
    · exact Or.inr

/-! ## Stripping and joining -/

/-- Leaving out characters at the front does not matter to what has none of them. -/
theorem infix_dropWhile_iff {q : Char → Bool} {cs : List Char} (hne : p ≠ [])
    (hp : ∀ c ∈ p, q c = false) : p <:+: cs.dropWhile q ↔ p <:+: cs := by
  obtain ⟨c, w, rfl⟩ := List.exists_cons_of_ne_nil hne
  have hc : c ∉ cs.takeWhile q := by
    intro hmem
    have htrue := List.all_eq_true.1 List.all_takeWhile c hmem
    rw [hp c List.mem_cons_self] at htrue
    cases htrue
  have hsplit : c :: w <:+: cs.takeWhile q ++ cs.dropWhile q ↔ c :: w <:+: cs.dropWhile q :=
    cons_infix_append_iff hc
  rw [List.takeWhile_append_dropWhile] at hsplit
  exact hsplit.symm

/-- Leaving out characters at the end does not matter to what has none of them. -/
theorem infix_dropFinal_iff {q : Char → Bool} {cs : List Char} (hne : p ≠ [])
    (hp : ∀ c ∈ p, q c = false) : p <:+: dropFinal q cs ↔ p <:+: cs := by
  have hreverse : p.reverse <:+: cs.reverse.dropWhile q ↔ p.reverse <:+: cs.reverse :=
    infix_dropWhile_iff (List.reverse_ne_nil_iff.2 hne) fun c hc => hp c (List.mem_reverse.1 hc)
  rw [dropFinal, ← List.reverse_infix, List.reverse_reverse, hreverse, List.reverse_infix]

/-- Blanks around a text do not matter to what has no blanks. -/
theorem infix_stripChars_iff {cs : List Char} (hne : p ≠ []) (hp : ∀ c ∈ p, isBlank c = false) :
    p <:+: stripChars cs ↔ p <:+: cs :=
  (infix_dropFinal_iff hne hp).trans (infix_dropWhile_iff hne hp)

/-- What has no separator occurs in joined texts exactly if it occurs in one of them. -/
theorem infix_intercalate_iff {parts : List (List Char)} (hne : p ≠ []) (hsep : sep ∉ p) :
    p <:+: [sep].intercalate parts ↔ ∃ part ∈ parts, p <:+: part := by
  induction parts with
  | nil => simpa using hne
  | cons part rest ih =>
    cases rest with
    | nil => simp
    | cons next more =>
      rw [List.intercalate_cons_cons, List.append_assoc, List.singleton_append,
        infix_append_cons_iff hsep, ih]
      simp only [List.mem_cons, exists_eq_or_imp]

/-! ## Splitting -/

/-- A piece of a split text begins with what has no separator exactly if the text begins with it or
has it after a separator. -/
theorem exists_mem_splitOn_iff {s : List Char} (hsep : sep ∉ p) :
    (∃ piece ∈ s.splitOn sep, p <+: piece) ↔ p <+: s ∨ sep :: p <:+: s := by
  obtain ⟨n, hn⟩ : ∃ n, s.length = n := ⟨_, rfl⟩
  -- The pieces of a text are what stands before its first separator and those of what is after it.
  induction n using Nat.strongRecOn generalizing s with
  | ind n ih =>
    by_cases hmem : sep ∈ s
    · obtain ⟨front, rest, rfl, hfront⟩ := List.eq_append_cons_of_mem hmem
      have hrest := ih rest.length (by simp at hn; omega) rfl
      rw [List.splitOn_append_cons_self_of_not_mem hfront, prefix_append_cons_iff hsep,
        cons_infix_append_iff hfront, List.infix_cons_iff, List.cons_prefix_cons]
      simp only [List.mem_cons, exists_eq_or_imp, true_and, hrest]
    · have hnone : ¬ sep :: p <:+: s := fun h => hmem (h.subset List.mem_cons_self)
      rw [List.splitOn_eq_singleton hmem]
      simp [hnone]

end OData.Text
