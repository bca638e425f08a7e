import OData.Proofs.Query.Fields
import OData.Proofs.Query.Pieces
import OData.Proofs.Text.Occurrence

/-!
# Page sizes in addresses

Nothing in an address is escaped, so a text that is written into it may bring a page size of its
own: a piece that begins with `$top=`.

* **One page size** (`pageSizes_of_pieces`): the page size of the options is the only one in the
  address exactly if nothing in front of the options brings another, no list holds `&$top=` and the
  filter does not either.
* **Lists** (`bringsSize_csv_iff`): a list brings a page size exactly if one of its fields does.
-/

namespace OData.Query

/-! ## Pieces that are page sizes -/

/-- What the piece of a page size begins with. -/
def sizeMark : List Char := "$top=".toList

/-- The pieces that begin as page sizes do. -/
def sizePieces (query : List Char) : List (List Char) :=
  (query.splitOn '&').filter sizeMark.isPrefixOf

/-- The pieces of an address that begin as page sizes do: among those after its first question
mark. -/
def pageSizes (url : String) : List String :=
  (sizePieces ((Text.after? '?' url.toList).getD [])).map String.ofList

/-- The piece of a page size. -/
def sizePiece (n : Int) : List Char := sizeMark ++ (toString n).toList

/-- Whether a text holds a page size that follows an ampersand. -/
def BringsSize (cs : List Char) : Prop := '&' :: sizeMark <:+: cs

theorem not_mem_sizeMark : '&' ∉ sizeMark := by decide

/-- A text has no piece that is a page size unless it begins with one or brings one. -/
theorem sizePieces_eq_nil_iff {cs : List Char} :
    sizePieces cs = [] ↔ ¬ (sizeMark <+: cs ∨ BringsSize cs) := by
  unfold BringsSize
  rw [← Text.exists_mem_splitOn_iff not_mem_sizeMark, sizePieces, List.filter_eq_nil_iff]
  simp only [List.isPrefixOf_iff_prefix, not_exists, not_and]

/-- The page sizes of joined texts are those of the texts. -/
theorem sizePieces_intercalate {chunks : List (List Char)} (hne : chunks ≠ []) :
    sizePieces (['&'].intercalate chunks) = chunks.flatMap sizePieces := by
  rw [sizePieces, Text.splitOn_intercalate_eq_flatMap hne, List.filter_flatMap]
  rfl

/-- The piece of a page size is one. -/
theorem sizePieces_sizePiece (n : Int) : sizePieces (sizePiece n) = [sizePiece n] := by
  have hdigits : '&' ∉ (toString n).toList := by
    intro hc
    exact absurd (isWord_toString n '&' hc) (by decide)
  have hfree : '&' ∉ sizePiece n := by
    rw [sizePiece, List.mem_append, not_or]
    exact ⟨not_mem_sizeMark, hdigits⟩
  have hbegins : sizeMark.isPrefixOf (sizePiece n) = true :=
    List.isPrefixOf_iff_prefix.2 (List.prefix_append _ _)
  rw [sizePieces, List.splitOn_eq_singleton hfree, List.filter_cons_of_pos hbegins]
  rfl

/-- Among joined texts, one of which is the piece of a page size, that is the only one exactly if
the others have none. -/
theorem sizePieces_intercalate_eq_singleton_iff {first last : List (List Char)} {n : Int} :
    sizePieces (['&'].intercalate (first ++ sizePiece n :: last)) = [sizePiece n] ↔
      ∀ chunk, chunk ∈ first ∨ chunk ∈ last → sizePieces chunk = [] := by
  have hsplit : sizePieces (['&'].intercalate (first ++ sizePiece n :: last)) =
      first.flatMap sizePieces ++ sizePiece n :: last.flatMap sizePieces := by
    rw [sizePieces_intercalate (by simp), List.flatMap_append, List.flatMap_cons,
      sizePieces_sizePiece]
    rfl
  have hnone (chunks : List (List Char)) :
      chunks.flatMap sizePieces = [] ↔ ∀ chunk ∈ chunks, sizePieces chunk = [] :=
    List.flatMap_eq_nil_iff
  rw [hsplit]
  constructor
  · intro h chunk hchunk
    have hlength := congrArg List.length h
    simp only [List.length_append, List.length_cons, List.length_nil] at hlength
    rcases hchunk with hchunk | hchunk
    · exact (hnone first).1 (List.length_eq_zero_iff.1 (by omega)) chunk hchunk
    · exact (hnone last).1 (List.length_eq_zero_iff.1 (by omega)) chunk hchunk
  · intro h
    rw [(hnone first).2 fun chunk hchunk => h chunk (Or.inl hchunk),
      (hnone last).2 fun chunk hchunk => h chunk (Or.inr hchunk)]
    rfl

/-! ## Page sizes that texts bring -/

/-- The names of the pieces that are no page sizes. -/
def otherNames : List String := ["$select", "$expand", "$orderby", "$skip", "$filter"]

variable {name : String}

/-- A piece with a name brings a page size only in its value. -/
theorem bringsSize_named_iff (hname : name ∈ otherNames) {value : List Char} :
    BringsSize (name.toList ++ '=' :: value) ↔ BringsSize value := by
  have hfree : '&' ∉ name.toList ++ ['='] := by
    revert name
    decide
  have happend : name.toList ++ '=' :: value = (name.toList ++ ['=']) ++ value := by simp
  rw [happend]
  exact Text.cons_infix_append_iff hfree

/-- A piece with a name other than that of page sizes has one inside exactly if its value brings
one. -/
theorem sizePieces_named_eq_nil_iff (hname : name ∈ otherNames) {value : List Char} :
    sizePieces (name.toList ++ '=' :: value) = [] ↔ ¬ BringsSize value := by
  have hbegins : ¬ sizeMark <+: name.toList ++ '=' :: value := by
    rw [← List.isPrefixOf_iff_prefix]
    simp only [otherNames, List.mem_cons, List.not_mem_nil, or_false] at hname
    rcases hname with rfl | rfl | rfl | rfl | rfl <;> exact Bool.false_ne_true
  rw [sizePieces_eq_nil_iff, bringsSize_named_iff hname, not_or]
  exact and_iff_right hbegins

/-- A text brings a page size exactly if `&$top=` occurs in it. -/
theorem bringsSize_iff {s : String} : BringsSize s.toList ↔ Text.occursIn "&$top=" s = true := by
  have hmark : "&$top=".toList = '&' :: sizeMark := rfl
  rw [Text.occursIn_iff, hmark, BringsSize]

/-- What is in front of a question mark goes its own way. -/
theorem sizePieces_question_eq_nil_iff {front chunk : List Char} :
    sizePieces (front ++ '?' :: chunk) = [] ↔ sizePieces front = [] ∧ ¬ BringsSize chunk := by
  have hmark : '?' ∉ sizeMark := by decide
  have hbrings : '?' ∉ '&' :: sizeMark := by decide
  have hboth : BringsSize (front ++ '?' :: chunk) ↔ BringsSize front ∨ BringsSize chunk :=
    Text.infix_append_cons_iff hbrings
  rw [sizePieces_eq_nil_iff, sizePieces_eq_nil_iff, Text.prefix_append_cons_iff hmark, hboth,
    ← or_assoc, not_or]

theorem not_bringsSize_empty : ¬ BringsSize "".toList :=
  fun h => List.cons_ne_nil _ _ (List.infix_nil.1 h)

/-- Digits bring no page size. -/
theorem not_bringsSize_toString (n : Int) : ¬ BringsSize (toString n).toList := by
  intro h
  have hmem : '&' ∈ (toString n).toList := h.subset List.mem_cons_self
  exact absurd (isWord_toString n '&' hmem) (by decide)

/-- Joined fields bring a page size exactly if one of the fields does. -/
theorem bringsSize_csv_iff (fields : List String) :
    BringsSize (String.intercalate "," (Options.written fields)).toList ↔
      ∃ field ∈ fields, BringsSize field.toList := by
  have hne : '&' :: sizeMark ≠ [] := List.cons_ne_nil _ _
  have hcomma : ',' ∉ '&' :: sizeMark := by decide
  have hblank : ∀ c ∈ '&' :: sizeMark, Text.isBlank c = false := by
    simp [sizeMark, Text.isBlank]
  have hstrip (s : String) : BringsSize (Text.strip s).toList ↔ BringsSize s.toList := by
    rw [Text.toList_strip]
    exact Text.infix_stripChars_iff hne hblank
  rw [String.toList_intercalate]
  unfold BringsSize
  refine (Text.infix_intercalate_iff hne hcomma).trans ?_
  constructor
  · rintro ⟨part, hpart, h⟩
    obtain ⟨s, hs, rfl⟩ := List.mem_map.1 hpart
    obtain ⟨-, field, hfield, rfl⟩ := Options.mem_written.1 hs
    exact ⟨field, hfield, (hstrip field).1 h⟩
  · rintro ⟨field, hfield, h⟩
    have hstripped := (hstrip field).2 h
    have hwritten : Text.strip field ≠ "" := fun heq => not_bringsSize_empty (heq ▸ hstripped)
    exact ⟨_, List.mem_map_of_mem (Options.mem_written.2 ⟨hwritten, field, hfield, rfl⟩), hstripped⟩

/-- The lists of options bring a page size exactly if one of their texts does. -/
theorem bringsSize_lists_iff {selected expanded terms : List String} :
    (∀ p ∈ Options.lists selected expanded terms, ¬ BringsSize p.2.toList) ↔
      ∀ s ∈ selected ++ expanded ++ terms, ¬ BringsSize s.toList := by
  have hlisted (name : String) (fields : List String) :
      (∀ p ∈ Options.listed name (String.intercalate "," (Options.written fields)),
        ¬ BringsSize p.2.toList) ↔ ∀ s ∈ fields, ¬ BringsSize s.toList := by
    have hcsv := not_congr (bringsSize_csv_iff fields)
    simp only [not_exists, not_and] at hcsv
    rw [← hcsv]
    constructor
    · intro h hbrings
      refine h _ (Options.mem_listed.2 ⟨rfl, fun hempty => ?_⟩) hbrings
      exact not_bringsSize_empty (hempty ▸ hbrings)
    · intro h p hp
      obtain ⟨rfl, -⟩ := Options.mem_listed.1 hp
      exact h
  unfold Options.lists
  simp only [List.forall_mem_append, hlisted]

/-! ## The page sizes of an address -/

variable {selected expanded terms : List String} {skip : Option Int} {n : Int} {filter : String}

/-- The pieces of lists have names other than that of page sizes. -/
theorem name_of_mem_lists {p : String × String} (hp : p ∈ Options.lists selected expanded terms) :
    p.1 ∈ otherNames := by
  simp only [Options.lists, List.mem_append, Options.mem_listed] at hp
  rcases hp with (⟨rfl, -⟩ | ⟨rfl, -⟩) | ⟨rfl, -⟩ <;> simp [otherNames]

/-- The pieces after the page size: the number of records left out and the filter. -/
def piecesAfterSize (skip : Option Int) (filter : String) : List (List Char) :=
  pieces (Options.shown "$skip" skip) filter

/-- The pieces of options with a page size: those of the lists, the page size, and the others. -/
theorem pieces_of_size (ls : List (String × String)) :
    pieces (ls ++ Options.shown "$top" (some n) ++ Options.shown "$skip" skip) filter =
      optionPieces ls ++ sizePiece n :: piecesAfterSize skip filter := by
  have hsize : optionPieces (Options.shown "$top" (some n)) = [sizePiece n] := by
    simp [optionPieces, Options.shown, sizePiece, sizeMark]
  have happend : optionPieces
      (ls ++ Options.shown "$top" (some n) ++ Options.shown "$skip" skip) =
      optionPieces ls ++ sizePiece n :: optionPieces (Options.shown "$skip" skip) := by
    rw [← List.singleton_append, ← hsize]
    simp [optionPieces]
  rw [piecesAfterSize, pieces, pieces, happend, List.append_assoc, List.cons_append]

/-- After the page size only the filter can bring another. -/
theorem piecesAfterSize_iff :
    (∀ chunk ∈ piecesAfterSize skip filter, sizePieces chunk = []) ↔
      ¬ BringsSize filter.toList := by
  have hskip : ∀ chunk ∈ optionPieces (Options.shown "$skip" skip), sizePieces chunk = [] := by
    have hname : "$skip" ∈ otherNames := by decide
    intro chunk hchunk
    obtain ⟨p, hp, rfl⟩ := List.mem_map.1 hchunk
    obtain ⟨m, -, rfl⟩ := List.mem_map.1 hp
    exact (sizePieces_named_eq_nil_iff hname).2 (not_bringsSize_toString m)
  have hfilter : sizePieces (filterMark ++ filter.toList) = [] ↔ ¬ BringsSize filter.toList := by
    have hname : "$filter" ∈ otherNames := by decide
    exact sizePieces_named_eq_nil_iff hname
  unfold piecesAfterSize pieces
  by_cases hempty : filter = ""
  · subst hempty
    rw [if_pos rfl, List.append_nil]
    exact iff_of_true hskip not_bringsSize_empty
  · rw [if_neg hempty, List.forall_mem_append]
    simp only [List.mem_singleton, forall_eq, hfilter]
    exact and_iff_right hskip

/-- The pieces of lists have no page size exactly if their values bring none. -/
theorem optionPieces_lists_iff {ls : List (String × String)} (hls : ∀ p ∈ ls, p.1 ∈ otherNames) :
    (∀ chunk ∈ optionPieces ls, sizePieces chunk = []) ↔ ∀ p ∈ ls, ¬ BringsSize p.2.toList := by
  unfold optionPieces
  rw [List.forall_mem_map]
  exact forall₂_congr fun p hp => sizePieces_named_eq_nil_iff (hls p hp)

/-- Behind lists and in front of a filter a page size is the only one exactly if neither the lists
nor the filter bring another. -/
theorem sizePieces_pieces_iff {ls : List (String × String)} (hls : ∀ p ∈ ls, p.1 ∈ otherNames) :
    sizePieces (['&'].intercalate (optionPieces ls ++ sizePiece n :: piecesAfterSize skip filter)) =
        [sizePiece n] ↔
      (∀ p ∈ ls, ¬ BringsSize p.2.toList) ∧ ¬ BringsSize filter.toList := by
  rw [sizePieces_intercalate_eq_singleton_iff]
  simp only [or_imp, forall_and]
  exact and_congr (optionPieces_lists_iff hls) piecesAfterSize_iff

/-- Text in front of a question mark goes on with the first list, and has to be free of page sizes
as well. -/
theorem sizePieces_question_pieces_iff {p : String × String} {ls : List (String × String)}
    (hp : p.1 ∈ otherNames) (hls : ∀ p ∈ ls, p.1 ∈ otherNames) (rest : List Char) :
    sizePieces (rest ++ '?' :: ['&'].intercalate
        (optionPieces (p :: ls) ++ sizePiece n :: piecesAfterSize skip filter)) = [sizePiece n] ↔
      sizePieces rest = [] ∧ (∀ q ∈ p :: ls, ¬ BringsSize q.2.toList) ∧
        ¬ BringsSize filter.toList := by
  have hjoined : (rest ++ ['?']) ++ ['&'].intercalate
        (optionPieces (p :: ls) ++ sizePiece n :: piecesAfterSize skip filter) =
      ['&'].intercalate (((rest ++ ['?']) ++ (p.1.toList ++ '=' :: p.2.toList)) ::
        (optionPieces ls ++ sizePiece n :: piecesAfterSize skip filter)) :=
    Text.append_intercalate_cons _ _ _
  rw [List.append_cons, hjoined, ← List.cons_append, sizePieces_intercalate_eq_singleton_iff,
    ← List.append_cons]
  simp only [or_imp, forall_and]
  rw [piecesAfterSize_iff, List.forall_mem_cons, List.forall_mem_cons, optionPieces_lists_iff hls,
    sizePieces_question_eq_nil_iff, bringsSize_named_iff hp, and_assoc, and_assoc, and_assoc]

/-- **The page size of an address.** Let an address be a text and, after a question mark, the pieces
of options with a page size and of a filter. If the text holds no question mark, or there are lists
among the options, the page size of the options is the only one in the address exactly if no other
follows a question mark of the text, and neither the lists nor the filter bring one. -/
theorem pageSizes_of_pieces {front : List Char} {url : String}
    (hurl : url.toList = front ++ '?' :: ['&'].intercalate
      (pieces (Options.lists selected expanded terms ++ Options.shown "$top" (some n) ++
        Options.shown "$skip" skip) filter))
    (hfront : '?' ∉ front ∨ Options.lists selected expanded terms ≠ []) :
    pageSizes url = ["$top=" ++ toString n] ↔
      (∀ rest ∈ Text.after? '?' front, sizePieces rest = []) ∧
        (∀ p ∈ Options.lists selected expanded terms, ¬ BringsSize p.2.toList) ∧
        ¬ BringsSize filter.toList := by
  have hpiece : "$top=" ++ toString n = String.ofList (sizePiece n) := by
    rw [sizePiece, String.ofList_append, String.ofList_toList]
    rfl
  have hpages (query : List Char) (hquery : Text.after? '?' url.toList = some query) :
      pageSizes url = [String.ofList (sizePiece n)] ↔ sizePieces query = [sizePiece n] := by
    unfold pageSizes
    rw [hquery, Option.getD_some, List.map_eq_singleton_iff]
    simp only [String.ofList_inj, exists_eq_right]
  have hnames : ∀ p ∈ Options.lists selected expanded terms, p.1 ∈ otherNames :=
    fun p hp => name_of_mem_lists hp
  rw [pieces_of_size] at hurl
  by_cases hmem : '?' ∈ front
  · obtain ⟨p, ls, hls⟩ := List.exists_cons_of_ne_nil (hfront.resolve_left (not_not_intro hmem))
    rw [hls, List.forall_mem_cons] at hnames
    obtain ⟨rest, hrest, hquery⟩ := Text.after?_append_of_mem hmem
      ('?' :: ['&'].intercalate (optionPieces (Options.lists selected expanded terms) ++
        sizePiece n :: piecesAfterSize skip filter))
    rw [← hurl] at hquery
    rw [hpiece, hpages _ hquery, hrest, hls, sizePieces_question_pieces_iff hnames.1 hnames.2]
    simp only [Option.mem_def, Option.some.injEq, forall_eq']
  · have hquery := Text.after?_append_cons hmem (['&'].intercalate
      (optionPieces (Options.lists selected expanded terms) ++
        sizePiece n :: piecesAfterSize skip filter))
    rw [← hurl] at hquery
    rw [hpiece, hpages _ hquery, sizePieces_pieces_iff hnames, Text.after?_of_not_mem hmem]
    simp only [Option.mem_def, reduceCtorEq, false_imp_iff, implies_true, true_and]

end OData.Query
