import OData.Proofs.Paging.Distinct
import OData.Proofs.Text.Occurrence
import OData.Proofs.Text.Padding

/-!
# Resolving endpoints

An endpoint that begins with one of two schemes is an address of its own, and any other is joined to
the address that the client keeps.

* **Resolving twice** (`resolve_resolve_iff`): every address that was resolved resolves to itself
  exactly if the address that the client keeps is absolute or consists of slashes.
* **Addresses of services** (`isAbsolute_base_iff`): the address that the client keeps is absolute
  exactly if the one that it was set up for names a host.
-/

namespace OData.Client

variable {c : Client} {s : String}

/-! ## Absolute addresses -/

/-- An address of its own begins with one of two schemes. -/
theorem isAbsolute_iff : isAbsolute s = true ↔
    ∃ scheme rest, (scheme = "http://" ∨ scheme = "https://") ∧ s = scheme ++ rest := by
  have hbegins (scheme : String) :
      Text.beginsWith scheme s = true ↔ ∃ rest, s = scheme ++ rest := by
    rw [Text.beginsWith_iff]
    constructor
    · rintro ⟨rest, hrest⟩
      refine ⟨String.ofList rest, ?_⟩
      rw [← String.toList_inj, String.toList_append, String.toList_ofList, hrest]
    · rintro ⟨rest, rfl⟩
      rw [String.toList_append]
      exact List.prefix_append _ _
  rw [isAbsolute, Bool.or_eq_true, hbegins, hbegins]
  constructor
  · rintro (⟨rest, hrest⟩ | ⟨rest, hrest⟩)
    · exact ⟨_, rest, Or.inl rfl, hrest⟩
    · exact ⟨_, rest, Or.inr rfl, hrest⟩
  · rintro ⟨scheme, rest, rfl | rfl, hrest⟩
    · exact Or.inl ⟨rest, hrest⟩
    · exact Or.inr ⟨rest, hrest⟩

/-- What follows an address of its own leaves it one. -/
theorem isAbsolute_append (h : isAbsolute s = true) (more : String) :
    isAbsolute (s ++ more) = true := by
  obtain ⟨scheme, rest, hscheme, rfl⟩ := isAbsolute_iff.1 h
  exact isAbsolute_iff.2 ⟨scheme, rest ++ more, hscheme, String.append_assoc⟩

/-- An address of its own does not begin with a slash. -/
theorem trimStartSlashes_of_absolute (h : isAbsolute s = true) : Text.trimStartSlashes s = s := by
  obtain ⟨scheme, rest, hscheme, rfl⟩ := isAbsolute_iff.1 h
  rw [← String.toList_inj, Text.trimStartSlashes, Text.toList_trimStart, String.toList_append]
  rcases hscheme with rfl | rfl <;> rfl

/-- A resource is relative if it is so without the slashes in front of it. -/
theorem isAbsolute_trimSlashes (h : isAbsolute (Text.trimStartSlashes s) = false) :
    isAbsolute (Text.trimSlashes s) = false := by
  rw [Bool.eq_false_iff] at h ⊢
  intro habsolute
  obtain ⟨r, -, hr⟩ := Text.exists_end_slashes (Text.trimStartSlashes s)
  rw [Text.trimSlashes_eq] at habsolute
  exact h (hr ▸ isAbsolute_append habsolute r)

/-- Without the slashes at its end a resource is still relative. -/
theorem isAbsolute_trimEndSlashes (h : isAbsolute (Text.trimSlashes s) = false) :
    isAbsolute (Text.trimEndSlashes s) = false := by
  rw [Bool.eq_false_iff] at h ⊢
  intro habsolute
  rw [Text.trimSlashes, trimStartSlashes_of_absolute habsolute] at h
  exact h habsolute

/-! ## Resolving -/

/-- Whether an address names a host: one of the two schemes with more than slashes behind it. -/
def NamesHost (base : String) : Prop :=
  ∃ scheme rest, (scheme = "http://" ∨ scheme = "https://") ∧ base = scheme ++ rest ∧
    ¬ Text.OnlySlashes rest

/-- A scheme without the slashes at its end is not an address of its own, also with one slash. -/
theorem isAbsolute_scheme {scheme : String} (h : scheme = "http://" ∨ scheme = "https://") :
    isAbsolute (Text.trimEndSlashes scheme) = false ∧
      isAbsolute (Text.trimEndSlashes scheme ++ "/") = false := by
  rcases h with rfl | rfl <;> decide

/-- An address names a host exactly if it is absolute without the slashes at its end. -/
theorem namesHost_iff : NamesHost s ↔ isAbsolute (Text.trimEndSlashes s) = true := by
  constructor
  · rintro ⟨scheme, rest, hscheme, rfl, hmore⟩
    rw [Text.trimEndSlashes_append_of_more scheme hmore]
    exact isAbsolute_iff.2 ⟨scheme, _, hscheme, rfl⟩
  · intro habsolute
    obtain ⟨r, -, hr⟩ := Text.exists_end_slashes s
    obtain ⟨scheme, rest, hscheme, hrest⟩ := isAbsolute_iff.1 habsolute
    have hs : s = scheme ++ (rest ++ r) := by rw [← String.append_assoc, ← hrest, hr]
    refine ⟨scheme, rest ++ r, hscheme, hs, fun honly => ?_⟩
    rw [hs, Text.trimEndSlashes_append scheme honly, (isAbsolute_scheme hscheme).1] at habsolute
    cases habsolute

/-- The address that a client keeps is absolute exactly if the one it was given names a host. -/
theorem isAbsolute_base_iff (hbase : c.base = Text.trimEndSlashes s ++ "/") :
    isAbsolute c.base = true ↔ NamesHost s := by
  rw [hbase]
  constructor
  · intro habsolute
    have htrimmed := Text.trimEndSlashes_append_slash s
    obtain ⟨scheme, rest, hscheme, hrest⟩ := isAbsolute_iff.1 habsolute
    by_cases honly : Text.OnlySlashes rest
    · rw [hrest, Text.trimEndSlashes_append scheme honly] at htrimmed
      rw [← htrimmed, (isAbsolute_scheme hscheme).2] at habsolute
      cases habsolute
    · have hhost : NamesHost (Text.trimEndSlashes s ++ "/") :=
        ⟨scheme, rest, hscheme, hrest, honly⟩
      rw [namesHost_iff, htrimmed] at hhost
      exact namesHost_iff.2 hhost
  · intro hhost
    exact isAbsolute_append (namesHost_iff.1 hhost) "/"

/-- Every address that was resolved resolves to itself exactly if the address that the client keeps
is absolute or holds slashes only. -/
theorem resolve_resolve_iff : (∀ endpoint, c.resolve (c.resolve endpoint) = c.resolve endpoint) ↔
    isAbsolute c.base = true ∨ Text.OnlySlashes c.base := by
  constructor
  · intro h
    -- the empty endpoint resolves to the address that the client keeps
    have hempty : c.resolve "" = c.base := by
      rw [resolve_of_relative (by decide)]
      exact String.append_empty
    have hbase := h ""
    rw [hempty] at hbase
    by_cases habsolute : isAbsolute c.base = true
    · exact Or.inl habsolute
    · rw [resolve_of_relative habsolute] at hbase
      refine Or.inr (Text.trimStartSlashes_eq_empty_iff.1 ((String.append_right_inj c.base).1 ?_))
      rw [hbase, String.append_empty]
  · intro h endpoint
    by_cases hendpoint : isAbsolute endpoint = true
    · rw [resolve_of_absolute hendpoint, resolve_of_absolute hendpoint]
    · rw [resolve_of_relative hendpoint]
      by_cases hresolved : isAbsolute (c.base ++ Text.trimStartSlashes endpoint) = true
      · exact resolve_of_absolute hresolved
      · rcases h with habsolute | honly
        · exact absurd (isAbsolute_append habsolute _) hresolved
        · rw [resolve_of_relative hresolved, Text.trimStartSlashes_append honly,
            Text.trimStartSlashes_trimStartSlashes]

end OData.Client
