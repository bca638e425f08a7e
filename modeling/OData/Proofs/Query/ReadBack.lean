import Mathlib.Data.List.Basic
import OData.Proofs.Query.Fields
import OData.Proofs.Query.Pieces

/-!
# Reading an address back

`Query.read` takes an address apart: at the first question mark, then at the ampersands, up to a
piece that begins the filter, which is all that is left.

* **Parts** (`read_assemble`): what is put together reads as its parts.
* **Queries** (`read_address`): if the resource holds no question mark and the lists no ampersand,
  whatever the filter is, the address of a query reads as its parts, so that two such queries with
  one address have the same parts.
-/

namespace OData.Query

/-! ## The reader -/

/-- The parts of an address. -/
structure Reading where
  /-- The resource. -/
  resource : String
  /-- The options: names and values. -/
  options : List (String × String)
  /-- The filter, if there is one. -/
  filter : Option String
deriving DecidableEq, Repr

/-- Whether a piece begins the filter. -/
def beginsFilter (piece : List Char) : Bool :=
  filterMark.isPrefixOf piece

/-- The name and the value of a piece, which stand on the two sides of its first equals sign. -/
def pairOf (piece : List Char) : String × String :=
  (String.ofList (Text.before '=' piece), String.ofList ((Text.after? '=' piece).getD []))

/-- The filter that begins with the first of the given pieces: all of them, without the mark. -/
def filterOf : List (List Char) → Option String
  | [] => none
  | first :: more =>
    some (String.ofList ((['&'].intercalate (first :: more)).drop filterMark.length))

/-- The parts of an address with the given resource and pieces. -/
def readPieces (resource : String) (listed : List (List Char)) : Reading where
  resource := resource
  options := (listed.takeWhile fun piece => !beginsFilter piece).map pairOf
  filter := filterOf (listed.dropWhile fun piece => !beginsFilter piece)

/-- Takes an address apart. -/
def read (url : String) : Reading :=
  let resource := String.ofList (Text.before '?' url.toList)
  match Text.after? '?' url.toList with
  | none => ⟨resource, [], none⟩
  | some query => readPieces resource (query.splitOn '&')

/-! ## Reading pieces -/

/-- Splitting joined pieces at the ampersands between them splits the last piece only. -/
theorem splitOn_intercalate_concat {ls : List (List Char)} (h : ∀ l ∈ ls, '&' ∉ l)
    (last : List Char) :
    (['&'].intercalate (ls ++ [last])).splitOn '&' = ls ++ last.splitOn '&' := by
  have hsplit (l : List Char) (hl : l ∈ ls) : l.splitOn '&' = [l] :=
    List.splitOn_eq_singleton (h l hl)
  have hwhole : ls.flatMap (List.splitOn '&') = ls :=
    (List.flatMap_congr hsplit).trans (List.flatMap_singleton' ls)
  have hne : ls ++ [last] ≠ [] := List.append_ne_nil_of_right_ne_nil ls (List.cons_ne_nil _ _)
  rw [Text.splitOn_intercalate_eq_flatMap hne, List.flatMap_append, hwhole,
    List.flatMap_singleton]

/-- The first piece of a filter begins it. -/
theorem exists_splitOn_filter (filter : List Char) :
    ∃ first more, (filterMark ++ filter).splitOn '&' = first :: more ∧
      beginsFilter first = true := by
  by_cases h : '&' ∈ filter
  · obtain ⟨front, rest, rfl, hfront⟩ := List.eq_append_cons_of_mem h
    have hmem : '&' ∉ filterMark ++ front := by
      simp only [List.mem_append, not_or]
      exact ⟨by decide, hfront⟩
    refine ⟨filterMark ++ front, rest.splitOn '&', ?_, ?_⟩
    · rw [← List.append_assoc]
      exact List.splitOn_append_cons_self_of_not_mem hmem rest
    · exact List.isPrefixOf_iff_prefix.2 (List.prefix_append _ _)
  · have hmem : '&' ∉ filterMark ++ filter := by
      simp only [List.mem_append, not_or]
      exact ⟨by decide, h⟩
    refine ⟨filterMark ++ filter, [], List.splitOn_eq_singleton hmem, ?_⟩
    exact List.isPrefixOf_iff_prefix.2 (List.prefix_append _ _)

/-- The filter is read from its pieces, into which its own ampersands split it. -/
theorem filterOf_splitOn (filter : List Char) :
    filterOf ((filterMark ++ filter).splitOn '&') = some (String.ofList filter) := by
  obtain ⟨first, more, hsplit, -⟩ := exists_splitOn_filter filter
  have hjoined : ['&'].intercalate ((filterMark ++ filter).splitOn '&') = filterMark ++ filter :=
    List.intercalate_splitOn '&'
  rw [hsplit] at hjoined ⊢
  rw [filterOf, hjoined, List.drop_left]

variable {ps : List (String × String)}

/-- A piece of an option with one of the names does not begin the filter. -/
theorem beginsFilter_option {name : String} (h : name ∈ Options.names) (value : List Char) :
    beginsFilter (name.toList ++ '=' :: value) = false := by
  simp only [Options.names, List.mem_cons, List.not_mem_nil, or_false] at h
  rcases h with rfl | rfl | rfl | rfl | rfl <;> rfl

/-- A piece of an option with one of the names reads as its name and value. -/
theorem pairOf_option {p : String × String} (h : p.1 ∈ Options.names) :
    pairOf (p.1.toList ++ '=' :: p.2.toList) = p := by
  have hname : '=' ∉ p.1.toList := by
    simp only [Options.names, List.mem_cons, List.not_mem_nil, or_false] at h
    rcases h with h | h | h | h | h <;> rw [h] <;> decide
  rw [pairOf, Text.before_append_cons hname, Text.after?_append_cons hname]
  simp

/-- Pieces of options are read up to the first of a filter. -/
theorem readPieces_options (hname : ∀ p ∈ ps, p.1 ∈ Options.names) (resource : String)
    {rest : List (List Char)} (hrest : rest.head?.all beginsFilter = true) :
    readPieces resource (optionPieces ps ++ rest) = ⟨resource, ps, filterOf rest⟩ := by
  have hoption : ∀ piece ∈ optionPieces ps, (!beginsFilter piece) = true := by
    intro piece hpiece
    obtain ⟨p, hp, rfl⟩ := List.mem_map.1 hpiece
    rw [beginsFilter_option (hname p hp)]
    rfl
  have hpairs : (optionPieces ps).map pairOf = ps := by
    rw [optionPieces, List.map_map]
    exact (List.map_congr_left fun p hp => pairOf_option (hname p hp)).trans (List.map_id ps)
  have htake : rest.takeWhile (fun piece => !beginsFilter piece) = [] := by
    cases rest <;> simp_all
  have hdrop : rest.dropWhile (fun piece => !beginsFilter piece) = rest := by
    cases rest <;> simp_all
  rw [readPieces, List.takeWhile_append_of_pos hoption, List.dropWhile_append_of_pos hoption,
    htake, hdrop, List.append_nil, hpairs]

/-- Splitting the joined pieces of an address splits the filter only. -/
theorem readPieces_splitOn (hname : ∀ p ∈ ps, p.1 ∈ Options.names)
    (hvalue : ∀ p ∈ ps, '&' ∉ p.2.toList) (resource : String) {filter : String}
    (hne : pieces ps filter ≠ []) :
    readPieces resource ((['&'].intercalate (pieces ps filter)).splitOn '&') =
      ⟨resource, ps, if filter = "" then none else some filter⟩ := by
  have hfree : ∀ piece ∈ optionPieces ps, '&' ∉ piece := by
    intro piece hpiece
    obtain ⟨p, hp, rfl⟩ := List.mem_map.1 hpiece
    have hmem := hname p hp
    simp only [Options.names, List.mem_cons, List.not_mem_nil, or_false] at hmem
    simp only [List.mem_append, List.mem_cons, not_or]
    refine ⟨?_, by decide, hvalue p hp⟩
    rcases hmem with h | h | h | h | h <;> rw [h] <;> decide
  by_cases hfilter : filter = ""
  · have hpieces : pieces ps filter = optionPieces ps ++ [] := by rw [pieces, if_pos hfilter]
    rw [hpieces, List.append_nil] at hne ⊢
    rw [List.splitOn_intercalate '&' hfree hne, if_pos hfilter]
    exact List.append_nil (optionPieces ps) ▸ readPieces_options hname resource rfl
  · obtain ⟨first, more, hsplit, hbegins⟩ := exists_splitOn_filter filter.toList
    rw [pieces, if_neg hfilter, splitOn_intercalate_concat hfree,
      readPieces_options hname resource, filterOf_splitOn, String.ofList_toList, if_neg hfilter]
    rw [hsplit]
    exact hbegins

/-- **Reading undoes assembling.** -/
theorem read_assemble {resource : String} (hresource : '?' ∉ resource.toList)
    (hname : ∀ p ∈ ps, p.1 ∈ Options.names) (hvalue : ∀ p ∈ ps, '&' ∉ p.2.toList)
    (filter : String) :
    read (assemble resource (String.intercalate "&" (ps.map Options.assignment)) filter) =
      ⟨resource, ps, if filter = "" then none else some filter⟩ := by
  unfold read
  rw [toList_assemble]
  by_cases hne : pieces ps filter = []
  · obtain ⟨rfl, rfl⟩ := pieces_eq_nil_iff.1 hne
    rw [if_pos hne, List.append_nil, Text.before_of_not_mem hresource,
      Text.after?_of_not_mem hresource, String.ofList_toList]
    rfl
  · rw [if_neg hne, Text.before_append_cons hresource, Text.after?_append_cons hresource,
      String.ofList_toList]
    exact readPieces_splitOn hname hvalue resource hne

/-! ## Queries under construction -/

/-- The query after calls one after another, of which a refused one changes nothing. -/
def after (q : Query) (calls : List Call) : Query :=
  calls.foldl (fun q call => (q.run call).toOption.getD q) q

/-- A call on the filter leaves the rest of a query as it is. -/
theorem runFilter_eq_ok_iff {q next : Query} {call : Filter.Call} :
    q.runFilter call = .ok next ↔
      ∃ f, q.filter.run call = .ok f ∧ ⟨q.base, f, q.options⟩ = next := by
  unfold runFilter
  rw [bind_eq_ok_iff]
  simp

/-- A call leaves the resource as it is. -/
theorem base_of_run {q next : Query} {call : Call} (h : q.run call = .ok next) :
    next.base = q.base := by
  cases call with
  | option c =>
    obtain ⟨o, -, hnext⟩ := bind_eq_ok_iff.1 h
    rw [← Except.ok.inj hnext]
  | filter c =>
    obtain ⟨f, -, rfl⟩ := runFilter_eq_ok_iff.1 h
    rfl
  | addFilter field operator value logical function =>
    obtain ⟨f, -, rfl⟩ := runFilter_eq_ok_iff.1 h
    rfl

/-- Calls leave the resource as it is. -/
theorem base_after (q : Query) (calls : List Call) : (q.after calls).base = q.base := by
  induction calls generalizing q with
  | nil => rfl
  | cons call rest ih =>
    show (Query.after ((q.run call).toOption.getD q) rest).base = q.base
    rw [ih]
    cases h : q.run call with
    | error cause => rfl
    | ok next => exact base_of_run h

/-- What an address is assembled from. -/
theorem address_eq_ok_iff {base : String} {q : Query} (hbase : q.base = .text base)
    {url : String} :
    q.address = .ok url ↔ ∃ ps, q.options.pairs = .ok ps ∧
      assemble (Text.trimEndSlashes base) (String.intercalate "&" (ps.map Options.assignment))
        q.filter.expression = url := by
  unfold address Options.render
  rw [hbase]
  cases q.options.pairs <;> simp [bind, Except.bind]

variable {base : String} {q : Query}

/-- A query with plain options has an address exactly if its counts can be shown. -/
theorem exists_address_iff (hbase : q.base = .text base) (h : q.options.Plain) :
    (∃ url, q.address = .ok url) ↔
      (∀ n ∈ q.options.top, showableInteger n = true) ∧
        ∀ n ∈ q.options.skip, showableInteger n = true := by
  obtain ⟨expanded, terms, hholds, -⟩ := h.exists_holds
  constructor
  · rintro ⟨url, hurl⟩
    obtain ⟨ps, hps, -⟩ := (address_eq_ok_iff hbase).1 hurl
    exact (hholds.pairs_eq_ok_iff.1 hps).1
  · intro hcounts
    exact ⟨_, (address_eq_ok_iff hbase).2 ⟨_, hholds.pairs_eq_ok_iff.2 ⟨hcounts, rfl⟩, rfl⟩⟩

/-- Trimming keeps a resource free of question marks. -/
theorem not_mem_trimEndSlashes (h : '?' ∉ base.toList) :
    '?' ∉ (Text.trimEndSlashes base).toList := by
  rw [Text.trimEndSlashes, Text.toList_trimEnd]
  exact fun hmem => h (Text.dropFinal_subset _ _ hmem)

/-- The parts that the address of a query with plain options reads as. -/
theorem read_of_address (hbase : q.base = .text base) (hmark : '?' ∉ base.toList)
    (h : q.options.Plain) {url : String} (hurl : q.address = .ok url) :
    ∃ ps, q.options.pairs = .ok ps ∧ read url =
      ⟨Text.trimEndSlashes base, ps,
        if q.filter.expression = "" then none else some q.filter.expression⟩ := by
  obtain ⟨ps, hps, rfl⟩ := (address_eq_ok_iff hbase).1 hurl
  obtain ⟨expanded, terms, hholds, hselected, hexpanded, hterms⟩ := h.exists_holds
  obtain ⟨-, hlisted⟩ := hholds.pairs_eq_ok_iff.1 hps
  refine ⟨ps, hps, read_assemble (not_mem_trimEndSlashes hmark) ?_ ?_ _⟩
  · intro p hp
    rw [hlisted] at hp
    exact Options.name_mem_names hp
  · intro p hp
    rw [hlisted] at hp
    exact Options.not_mem_value (by decide) (by decide) hselected hexpanded hterms hp

/-- An address holds a question mark exactly if it has a piece. -/
theorem question_mem_assemble_iff {resource : String} (h : '?' ∉ resource.toList)
    (ps : List (String × String)) (filter : String) :
    '?' ∈ (assemble resource (String.intercalate "&" (ps.map Options.assignment)) filter).toList ↔
      ps ≠ [] ∨ filter ≠ "" := by
  have hnil : ¬ pieces ps filter = [] ↔ ps ≠ [] ∨ filter ≠ "" := by
    rw [pieces_eq_nil_iff, Decidable.not_and_iff_or_not]
  rw [toList_assemble, List.mem_append, ← hnil]
  by_cases hpieces : pieces ps filter = []
  · rw [if_pos hpieces]
    simp [h, hpieces]
  · rw [if_neg hpieces]
    simp [hpieces]

/-- The value under the name of the selected fields is the text that splits at its commas into the
fields that are written. -/
theorem select_mem_iff (h : q.options.Plain)
    (hcomma : ∀ s ∈ q.options.selectedTexts, ',' ∉ s.toList)
    {ps : List (String × String)} (hps : q.options.pairs = .ok ps) (value : String) :
    ("$select", value) ∈ ps ↔ Options.written q.options.selectedTexts ≠ [] ∧
      value.toList.splitOn ',' = (Options.written q.options.selectedTexts).map String.toList := by
  obtain ⟨expanded, terms, hholds, -⟩ := h.exists_holds
  obtain ⟨-, rfl⟩ := hholds.pairs_eq_ok_iff.1 hps
  have hfree : ∀ l ∈ (Options.written q.options.selectedTexts).map String.toList, ',' ∉ l := by
    intro l hl hmem
    obtain ⟨s, hs, rfl⟩ := List.mem_map.1 hl
    obtain ⟨-, field, hfield, rfl⟩ := Options.mem_written.1 hs
    exact hcomma field hfield (Text.strip_subset field hmem)
  rw [Options.select_mem_iff]
  constructor
  · rintro ⟨rfl, hne⟩
    refine ⟨hne, ?_⟩
    rw [String.toList_intercalate]
    exact List.splitOn_intercalate ',' hfree (by simpa using hne)
  · rintro ⟨hne, hsplit⟩
    refine ⟨?_, hne⟩
    have hjoined : [','].intercalate (value.toList.splitOn ',') = value.toList :=
      List.intercalate_splitOn ','
    rw [hsplit] at hjoined
    rw [← String.toList_inj, String.toList_intercalate, ← hjoined]
    rfl

/-- Two ways to leave out an empty filter agree on the same filter only. -/
theorem filter_eq_of_optional_eq {a b : String}
    (h : (if a = "" then none else some a) = if b = "" then none else some b) : a = b := by
  split at h <;> split at h <;> simp_all

/-- **Addresses can be read back.** Let calls be made on a query whose resource holds no question
mark, and let the lists that they leave hold no ampersand. The query has an address exactly if its
counts can be shown. The address reads as the resource without trailing slashes, the options in
order, and the filter unless it is empty; it holds a question mark exactly if there are options or a
filter; and if no selected field holds a comma, the selected fields are read by splitting their
option at its commas. Another such query with the same address has the same parts. -/
theorem read_address {base : String} (hbase : '?' ∉ base.toList) {calls : List Call}
    (hplain : ((ofBase (.text base)).after calls).options.Plain) :
    let q := (ofBase (.text base)).after calls
    ((∃ url, q.address = .ok url) ↔
        (∀ n ∈ q.options.top, showableInteger n = true) ∧
          ∀ n ∈ q.options.skip, showableInteger n = true) ∧
      ∀ url, q.address = .ok url →
        ∃ ps, q.options.pairs = .ok ps ∧
          read url = ⟨Text.trimEndSlashes base, ps,
            if q.filter.expression = "" then none else some q.filter.expression⟩ ∧
          ('?' ∈ url.toList ↔ ps ≠ [] ∨ q.filter.expression ≠ "") ∧
          ((∀ s ∈ q.options.selectedTexts, ',' ∉ s.toList) →
            ∀ value, ("$select", value) ∈ ps ↔ Options.written q.options.selectedTexts ≠ [] ∧
              value.toList.splitOn ',' =
                (Options.written q.options.selectedTexts).map String.toList) ∧
          ∀ (otherBase : String) (otherCalls : List Call), '?' ∉ otherBase.toList →
            let other := (ofBase (.text otherBase)).after otherCalls
            other.options.Plain → other.address = .ok url →
              Text.trimEndSlashes otherBase = Text.trimEndSlashes base ∧
                other.options.pairs = .ok ps ∧
                other.filter.expression = q.filter.expression := by
  intro q
  have hq : q.base = .text base := base_after _ calls
  refine ⟨exists_address_iff hq hplain, fun url hurl => ?_⟩
  obtain ⟨ps, hps, hread⟩ := read_of_address hq hbase hplain hurl
  refine ⟨ps, hps, hread, ?_, fun hcomma => select_mem_iff hplain hcomma hps, ?_⟩
  · obtain ⟨ps', hps', rfl⟩ := (address_eq_ok_iff hq).1 hurl
    obtain rfl : ps = ps' := Except.ok.inj (hps.symm.trans hps')
    exact question_mem_assemble_iff (not_mem_trimEndSlashes hbase) ps q.filter.expression
  · intro otherBase otherCalls hotherBase other hotherPlain hother
    obtain ⟨others, hothers, hotherRead⟩ :=
      read_of_address (base_after _ otherCalls) hotherBase hotherPlain hother
    have hsame := hotherRead.symm.trans hread
    simp only [Reading.mk.injEq] at hsame
    obtain ⟨hresource, rfl, hfilter⟩ := hsame
    exact ⟨hresource, hothers, filter_eq_of_optional_eq hfilter⟩

/-- An address whose filter holds an ampersand, a question mark and the mark of a filter. -/
theorem read_address_of_marked_filter :
    let calls : List Call := [
      .option (.select (.list [.text " ListingKey ", .text "", .text "City?"])),
      .option (.orderBy (.list [.list [.text "ListPrice", .text "desc"]])),
      .option (.top (.int 0)),
      .filter (.compare (.value (.text "City")) (.text "eq") (.text "A&B?$filter=C") (.text "and"))]
    let q := (ofBase (.text "https://h/odata/Property//")).after calls
    let url := "https://h/odata/Property?$select=ListingKey,City?&$orderby=ListPrice desc&$top=0" ++
      "&$filter=City eq 'A&B?$filter=C'"
    q.options.Plain ∧ q.address = .ok url ∧
      read url = ⟨"https://h/odata/Property",
        [("$select", "ListingKey,City?"), ("$orderby", "ListPrice desc"), ("$top", "0")],
        some "City eq 'A&B?$filter=C'"⟩ ∧
      "ListingKey,City?".toList.splitOn ',' = ["ListingKey".toList, "City?".toList] := by
  intro calls q url
  have hoptions : q.options = ⟨[.text " ListingKey ", .text "", .text "City?"], [],
      [.list [.text "ListPrice", .text "desc"]], some 0, none⟩ := rfl
  have hplain : q.options.Plain := by
    rw [hoptions]
    constructor
    · simp
    · simp
    · intro v hv
      obtain rfl := List.mem_singleton.1 hv
      exact ⟨"ListPrice desc", rfl, by decide⟩
  have hurl : q.address = .ok url := by rfl
  have hcomma : ∀ s ∈ q.options.selectedTexts, ',' ∉ s.toList := by
    rw [hoptions]
    simp [Options.selectedTexts, Value.text?]
  obtain ⟨ps, hps, hread, -, hselect, -⟩ :=
    (read_address (by decide : '?' ∉ "https://h/odata/Property//".toList) hplain).2 url hurl
  obtain rfl : ps = [("$select", "ListingKey,City?"), ("$orderby", "ListPrice desc"),
      ("$top", "0")] := Except.ok.inj (hps.symm.trans rfl)
  refine ⟨hplain, hurl, ?_, ?_⟩
  · exact hread
  · exact ((hselect hcomma "ListingKey,City?").1 List.mem_cons_self).2

end OData.Query
