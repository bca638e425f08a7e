import OData.Proofs.Gateway.Outcome

/-!
# Entities of a type

A form without a type is answered with the records of all pages of its run, and one with a type from
the entries of its first page alone, whatever number of pages it allows.

* **When the answers agree** (`entities_answer_iff`): the second answer is the first one, less the
  records that do not declare the type, exactly if no record after those of the first page declares
  it.
* **What is found** (`answer_eq_found_iff`, `answer_eq_found_entities_iff`): by a form without a
  type and by one with a type, from the pages that arrive.
* **A record on a later page** (`entities_answer_without_later_page`).
-/

namespace OData.Gateway

/-- Whether a record declares the type with a name. -/
def declaresType (type : String) (record : Members) : Bool :=
  Payload.declares ("#" ++ type) (.object record)

/-- A form that names a type, and is otherwise as given. -/
def Form.ofType (f : Form) (type : String) : Form :=
  { f with entityType := some type }

/-- Whether a page is in the newer layout: nothing of it is in an object under `d`. -/
def Newer (page : Members) : Prop :=
  ∀ inner, page.lookup "d" ≠ some (.object inner)

/-- Whether all pages to come are in the newer layout. -/
def AllNewer (net : Network) : Prop :=
  ∀ a ∈ net.dataAnswers, ∀ page, a.page? = some page → Newer page

/-- In the newer layout the entries of a page are its records. -/
theorem Newer.entriesOf_eq {page : Members} (h : Newer page) :
    entriesOf page = Payload.results (.object page) := by
  rw [Payload.results]
  split
  · rename_i inner hinner
    exact absurd hinner (h inner)
  · rfl

/-! ## What is found -/

variable {g : Gateway} {env : Environment} {r other : Request} {form : Form} {conn : Connection}
  {cap pageCap : Int} {net : Network} {type url : String} {found : List Members}

/-- A form without a type finds the records of all pages of a run, if they arrive and the run does
not fail. -/
theorem answer_eq_found_iff (h : Admitted g r form)
    (htype : form.entityType = none ∨ form.entityType = some "")
    (hconn : g.connect env = .ok conn) (hcap : g.maxTop = .int cap)
    (hpages : g.maxPages = .int pageCap) :
    (answer g env r net).1 = .found url found ↔
      (∃ q, form.query (.int cap) = .ok q ∧ q.address = .ok url) ∧
        ∃ pages, net.Delivers conn.settings.authorization pages ∧
          Whole (form.pageLimit pageCap) 0 [] pages ∧ ¬ Halts (form.pageLimit pageCap) 0 pages ∧
          pages.flatMap recordsOf = found.map .object := by
  obtain ⟨c, opened, hdescribes, htokens, hdata, hanswer⟩ := exists_collect hconn hcap hpages net
  obtain ⟨q, hq, hreply⟩ := hanswer r form h
  have hauthorization : c.authenticator.authorization = conn.settings.authorization :=
    funext hdescribes.authorization
  have hlimit : 1 ≤ form.pageLimit pageCap := by
    unfold Form.pageLimit
    omega
  have hreadAll : collect c form q (.int (min form.maxPages pageCap)) opened =
      c.readAll q (.int (form.pageLimit pageCap)) opened := by
    rw [collect_of_untyped htype, c.readAll_max_one]
    rfl
  rw [hreply, hreadAll, replyTo_eq_found_iff, ← hauthorization]
  simp only [← Network.delivers_congr hdata htokens]
  constructor
  · rintro ⟨haddress, hitems⟩
    refine ⟨⟨q, hq, haddress⟩, ?_⟩
    rcases c.whole_or_failed_readAll haddress hlimit opened with
      ⟨pages, hdelivers, hwhole⟩ | ⟨endpoints, pages, last, failure, -, -, -, hfailed⟩
    · obtain ⟨hfails, hfinishes⟩ := Client.readAll_whole haddress hlimit hwhole hdelivers
      have hhalts : ¬ Halts (form.pageLimit pageCap) 0 pages := by
        intro hhalts
        obtain ⟨cause, hcause⟩ := hfails hhalts
        cases hcause.symm.trans hitems
      rw [hfinishes hhalts] at hitems
      exact ⟨pages, hdelivers, hwhole, hhalts, Except.ok.inj hitems⟩
    · cases hfailed.symm.trans hitems
  · rintro ⟨⟨_, hquery, haddress⟩, pages, hdelivers, hwhole, hhalts, hrecords⟩
    obtain rfl := Except.ok.inj (hq.symm.trans hquery)
    have hfinished := (Client.readAll_whole haddress hlimit hwhole hdelivers).2 hhalts
    rw [hfinished, hrecords]
    exact ⟨haddress, rfl⟩

/-- A form with a type finds those entries of the first page that declare the type, if it
arrives. -/
theorem answer_eq_found_entities_iff (h : Admitted g r form) (htype : form.entityType = some type)
    (hne : type ≠ "") (hconn : g.connect env = .ok conn) (hcap : g.maxTop = .int cap)
    (hpages : g.maxPages = .int pageCap) :
    (answer g env r net).1 = .found url found ↔
      (∃ q, form.query (.int cap) = .ok q ∧ q.address = .ok url) ∧
        ∃ page entries, net.Delivers conn.settings.authorization [page] ∧
          (entriesOf page).elements = .ok entries ∧
          entries.filter (Payload.declares (Payload.declaredName type)) = found.map .object := by
  obtain ⟨c, opened, hdescribes, htokens, hdata, hanswer⟩ := exists_collect hconn hcap hpages net
  obtain ⟨q, hq, hreply⟩ := hanswer r form h
  have hauthorization : c.authenticator.authorization = conn.settings.authorization :=
    funext hdescribes.authorization
  have hdelivers (endpoint : String) (page : Members) :
      net.Delivers conn.settings.authorization [page] ↔ (c.page endpoint opened).1 = .ok page := by
    rw [← hauthorization, ← Network.delivers_congr hdata htokens,
      Client.delivers_singleton_iff endpoint]
  rw [hreply, collect_of_typed htype hne, replyTo_eq_found_iff]
  constructor
  · rintro ⟨haddress, hitems⟩
    refine ⟨⟨q, hq, haddress⟩, ?_⟩
    rw [entities_of_address haddress] at hitems
    cases hpage : (c.page url opened).1 with
    | error failure =>
      rw [hpage] at hitems
      cases hitems
    | ok page =>
      rw [hpage] at hitems
      simp only [Except.bind, entities_eq] at hitems
      cases hentries : (entriesOf page).elements with
      | error cause =>
        rw [hentries] at hitems
        cases hitems
      | ok entries =>
        rw [hentries] at hitems
        exact ⟨page, entries, (hdelivers url page).2 hpage, hentries, Except.ok.inj hitems⟩
  · rintro ⟨⟨_, hquery, haddress⟩, page, entries, hpage, hentries, hfound⟩
    obtain rfl := Except.ok.inj (hq.symm.trans hquery)
    refine ⟨haddress, ?_⟩
    rw [entities_of_address haddress, (hdelivers url page).1 hpage]
    simp only [Except.bind, entities_eq, hentries, Except.map, hfound]
    rfl

/-! ## Two answers -/

/-- The entries of a page in the newer layout that declare a type are those records that do. -/
theorem filter_declares_map (hplain : Text.beginsWith "#" type = false) (first : List Members) :
    (first.map Value.object).filter (Payload.declares (Payload.declaredName type)) =
      (first.filter (declaresType type)).map .object := by
  have hname : Payload.declaredName type = "#" ++ type := by
    rw [Payload.declaredName, hplain]
    rfl
  rw [hname, List.filter_map]
  rfl

/-- The records of some pages that are all objects are those of the first and those of the others,
and the first holds a list of them. -/
theorem exists_split_of_records {page : Members} {rest : List Members} {n : Nat}
    (hhalts : ¬ Halts n 0 (page :: rest))
    (hrecords : (page :: rest).flatMap recordsOf = found.map .object) :
    ∃ first later, found = first ++ later ∧
      Payload.results (.object page) = .list (first.map .object) := by
  rw [List.flatMap_cons, List.append_eq_map_iff] at hrecords
  obtain ⟨first, later, hsplit, hfirst, -⟩ := hrecords
  have hwalkable : Walkable (Payload.results (.object page)) := by
    by_contra hbroken
    exact hhalts (Or.inl ⟨page, List.mem_cons_self, hbroken⟩)
  have hobjects : AllObjects (recordsOf page) := exists_map_object_iff.1 ⟨first, hfirst.symm⟩
  obtain ⟨items, hitems, -⟩ := holdsObjects_iff.2 ⟨hwalkable, hobjects⟩
  refine ⟨first, later, hsplit, ?_⟩
  rw [hitems, hfirst, recordsOf, hitems]
  rfl

/-- Two requests that a gateway lets pass, of which the second names a type and the first does not.
Their forms agree otherwise. -/
structure Retyped (g : Gateway) (r other : Request) (form : Form) (type : String) : Prop where
  /-- The first passes. -/
  admitted : Admitted g r form
  /-- The second passes. -/
  retyped : Admitted g other (form.ofType type)
  /-- The first names no type. -/
  untyped : form.entityType = none ∨ form.entityType = some ""
  /-- The type has a name. -/
  ne_empty : type ≠ ""
  /-- The name is not in its declared form. -/
  plain : Text.beginsWith "#" type = false

/-- The second of two requests is answered with those records on the first page that declare the
type, if the page is in the newer layout. -/
theorem answer_ofType (h : Retyped g r other form type) (hconn : g.connect env = .ok conn)
    (hcap : g.maxTop = .int cap) (hpages : g.maxPages = .int pageCap) {q : Query}
    (hq : form.query (.int cap) = .ok q) (hurl : q.address = .ok url) {page : Members}
    (hpage : net.Delivers conn.settings.authorization [page]) (hnewer : Newer page)
    {first : List Members} (hfirst : Payload.results (.object page) = .list (first.map .object)) :
    (answer g env other net).1 = .found url (first.filter (declaresType type)) := by
  rw [answer_eq_found_entities_iff h.retyped rfl h.ne_empty hconn hcap hpages]
  refine ⟨⟨q, hq, hurl⟩, page, first.map .object, hpage, ?_, filter_declares_map h.plain first⟩
  rw [hnewer.entriesOf_eq, hfirst]
  rfl

/-! ## Two pages -/

/-- A page with one record and a link. -/
def linkedPage (record : Members) (link : String) : Members :=
  [("value", .list [.object record]), ("@odata.nextLink", .text link)]

/-- A page with one record. -/
def finalPage (record : Members) : Members :=
  [("value", .list [.object record])]

section Pages

variable {one two link : String} {record last : Members}

/-- Two documents that spell a linked page and a final one deliver them, if every request is
authorized. -/
theorem delivers_of_documents {authorization : List Answer → Except Failure String}
    (hauthorized : ∀ tokens, ∃ header, authorization tokens = .ok header)
    (hone : Payload.spells one (linkedPage record link) = true)
    (htwo : Payload.spells two (finalPage last) = true) :
    (Network.ofAnswers [.document one, .document two] []).Delivers authorization
      [linkedPage record link, finalPage last] := by
  refine ⟨fun i _ => hauthorized _, ?_⟩
  have hfirst := Answer.page?_document hone
  have hsecond := Answer.page?_document htwo
  simp [Network.ofAnswers, hfirst, hsecond]

/-- Both are in the newer layout. -/
theorem allNewer_of_documents (hone : Payload.spells one (linkedPage record link) = true)
    (htwo : Payload.spells two (finalPage last) = true) :
    AllNewer (Network.ofAnswers [.document one, .document two] []) := by
  intro a ha page hpage inner
  simp only [Network.ofAnswers, List.mem_cons, List.not_mem_nil, or_false] at ha
  rcases ha with rfl | rfl
  · rw [Answer.page?_document hone] at hpage
    obtain rfl := Option.some.inj hpage
    intro h
    cases h
  · rw [Answer.page?_document htwo] at hpage
    obtain rfl := Option.some.inj hpage
    intro h
    cases h

end Pages

/-- Of two requests that allow two pages, the first is answered with the records of both and the
second with those on the first that declare the type. -/
theorem answers_of_two_pages (h : Retyped g r other form type) (hconn : g.connect env = .ok conn)
    (hcap : g.maxTop = .int cap) (hpages : g.maxPages = .int pageCap)
    (hlimit : 2 ≤ form.pageLimit pageCap) {q : Query} (hq : form.query (.int cap) = .ok q)
    (hurl : q.address = .ok url) {one two : Members} {link : String} (hlink : link ≠ "")
    (hdelivers : net.Delivers conn.settings.authorization [linkedPage one link, finalPage two]) :
    (answer g env r net).1 = .found url [one, two] ∧
      (answer g env other net).1 = .found url ([one].filter (declaresType type)) := by
  have hnewer : Newer (linkedPage one link) := by
    intro inner h
    cases h
  refine ⟨?_, answer_ofType h hconn hcap hpages hq hurl hdelivers.first hnewer rfl⟩
  rw [answer_eq_found_iff h.admitted h.untyped hconn hcap hpages]
  refine ⟨⟨q, hq, hurl⟩, _, hdelivers, ?_, ?_, rfl⟩
  · have hpasses : Passes Walkable (form.pageLimit pageCap) 0 [] (linkedPage one link) link :=
      ⟨rfl, hlink, List.not_mem_nil, fun _ => ⟨_, rfl⟩, hlimit⟩
    refine .cons hpasses (.last fun next hnext => ?_)
    cases hnext.link_eq
  · rintro (⟨page, hpage, hbroken⟩ | ⟨-, last, hlast, htruthy, -⟩)
    · simp only [List.mem_cons, List.not_mem_nil, or_false] at hpage
      rcases hpage with rfl | rfl <;> exact hbroken ⟨_, rfl⟩
    · cases hlast
      cases htruthy

/-- A form that says how many pages are wanted and nothing else. -/
def Form.ofPages (n : Nat) : Form :=
  ⟨defaultResource, none, none, none, none, none, [], none, n⟩

theorem exists_query_ofPages : ∃ q, (Form.ofPages 2).query (.int 500) = .ok q ∧
    q.address = .ok "Property?$top=500" :=
  ⟨_, rfl, rfl⟩

/-- Two forms that allow two pages, one of which names a type. -/
theorem retyped_submitting {key : String} (hkey : g.admits key = true) :
    Retyped g (Request.submitting key "\x7b\x22max_pages\x22: 2\x7d")
      (Request.submitting key "\x7b\x22max_pages\x22: 2, \x22entity_type\x22: \x22T\x22\x7d")
      (Form.ofPages 2) "T" := by
  have huntyped : Payload.spells "\x7b\x22max_pages\x22: 2\x7d" [("max_pages", .int 2)] = true := by
    decide +kernel
  have htyped : Payload.spells "\x7b\x22max_pages\x22: 2, \x22entity_type\x22: \x22T\x22\x7d"
      [("max_pages", .int 2), ("entity_type", .text "T")] = true := by
    decide +kernel
  refine ⟨?_, ?_, Or.inl rfl, by decide, by decide⟩
  · exact admitted_submitting hkey huntyped rfl
  · exact admitted_submitting hkey htyped rfl

/-! ## Entities and records -/

/-- **Entities of a type.** If a form without a type is answered with what was found, then the same
form with a type is answered with those of the records on the first page that declare it. These are
all the found ones that do exactly if none of those after the first page does. -/
theorem entities_answer_iff (h : Retyped g r other form type) (hconn : g.connect env = .ok conn)
    (hcap : g.maxTop = .int cap) (hpages : g.maxPages = .int pageCap)
    (hnewer : AllNewer net) (hfound : (answer g env r net).1 = .found url found) :
    ∃ page first later, net.Delivers conn.settings.authorization [page] ∧
      Payload.results (.object page) = .list (first.map .object) ∧ found = first ++ later ∧
      (answer g env other net).1 = .found url (first.filter (declaresType type)) ∧
      ((answer g env other net).1 = .found url (found.filter (declaresType type)) ↔
        ∀ record ∈ later, declaresType type record = false) := by
  obtain ⟨⟨q, hq, hurl⟩, pages, hdelivers, hwhole, hhalts, hrecords⟩ :=
    (answer_eq_found_iff h.admitted h.untyped hconn hcap hpages).1 hfound
  obtain ⟨page, rest, rfl⟩ := List.exists_cons_of_ne_nil hwhole.ne_nil
  obtain ⟨first, later, rfl, hfirst⟩ := exists_split_of_records hhalts hrecords
  have hpage : net.Delivers conn.settings.authorization [page] := hdelivers.first
  obtain ⟨a, ha, hholds⟩ := hdelivers.exists_answer List.mem_cons_self
  have hanswer : (answer g env other net).1 = .found url (first.filter (declaresType type)) :=
    answer_ofType h hconn hcap hpages hq hurl hpage (hnewer a ha page hholds) hfirst
  refine ⟨page, first, later, hpage, hfirst, rfl, hanswer, ?_⟩
  rw [hanswer, Reply.found.injEq, List.filter_append]
  simp [List.filter_eq_nil_iff]

/-- The record of the first page declares the type, and that of the second does not. -/
theorem entities_answer_of_first_page :
    let g := GatewayOverrides.resolve {
      baseUrl := .text "https://up/odata"
      apiKey := .text "upk"
      bearerToken := .text "tok"
      gatewayKey := .text "gw" } []
    let r := Request.submitting "gw" "\x7b\x22max_pages\x22: 2\x7d"
    let other := Request.submitting "gw"
      "\x7b\x22max_pages\x22: 2, \x22entity_type\x22: \x22T\x22\x7d"
    let net := Network.ofAnswers [
      .document ("\x7b\x22value\x22: [\x7b\x22@odata.type\x22: \x22#T\x22\x7d], " ++
        "\x22@odata.nextLink\x22: \x22b\x22\x7d"),
      .document "\x7b\x22value\x22: [\x7b\x22a\x22: 2\x7d]\x7d"] []
    let found : List Members := [[("@odata.type", .text "#T")], [("a", .int 2)]]
    (∃ form, Retyped g r other form "T") ∧ (∃ conn, g.connect [] = .ok conn) ∧
      g.maxTop = .int 500 ∧ g.maxPages = .int 10 ∧ AllNewer net ∧
      (answer g [] r net).1 = .found "Property?$top=500" found ∧
      (answer g [] other net).1 = .found "Property?$top=500" (found.filter (declaresType "T")) := by
  intro g r other net found
  have hretyped : Retyped g r other (Form.ofPages 2) "T" := retyped_submitting rfl
  have hconn : g.connect [] = .ok _ := rfl
  have hone : Payload.spells
      ("\x7b\x22value\x22: [\x7b\x22@odata.type\x22: \x22#T\x22\x7d], " ++
        "\x22@odata.nextLink\x22: \x22b\x22\x7d")
      (linkedPage [("@odata.type", .text "#T")] "b") = true := by
    decide +kernel
  have htwo : Payload.spells "\x7b\x22value\x22: [\x7b\x22a\x22: 2\x7d]\x7d"
      (finalPage [("a", .int 2)]) = true := by
    decide +kernel
  obtain ⟨q, hq, hurl⟩ := exists_query_ofPages
  have hnewer : AllNewer net := allNewer_of_documents hone htwo
  have hfound : (answer g [] r net).1 = .found "Property?$top=500" found :=
    (answers_of_two_pages hretyped hconn rfl rfl (by decide) hq hurl (by decide)
      (delivers_of_documents (fun _ => ⟨"Bearer tok", rfl⟩) hone htwo)).1
  obtain ⟨page, first, later, hdelivers, hfirst, hsplit, hanswer, hiff⟩ :=
    entities_answer_iff hretyped hconn rfl rfl hnewer hfound
  refine ⟨⟨_, hretyped⟩, ⟨_, hconn⟩, rfl, rfl, hnewer, hfound, hiff.2 ?_⟩
  have harrived : [some (linkedPage [("@odata.type", .text "#T")] "b")] = [some page] := by
    rw [← Answer.page?_document hone]
    exact hdelivers.answered
  obtain rfl := Option.some.inj (List.cons.inj harrived).1
  obtain ⟨record, rfl, hrecord⟩ := List.map_eq_singleton_iff.1 (Value.list.inj hfirst).symm
  obtain ⟨rfl, rfl⟩ := List.cons.inj hsplit
  decide

/-- The record of the second page declares the type, and that of the first does not. Both are found
without the type, and with it neither is. -/
theorem entities_answer_without_later_page :
    let g := GatewayOverrides.resolve {
      baseUrl := .text "https://up/odata"
      apiKey := .text "upk"
      bearerToken := .text "tok"
      gatewayKey := .text "gw" } []
    let r := Request.submitting "gw" "\x7b\x22max_pages\x22: 2\x7d"
    let other := Request.submitting "gw"
      "\x7b\x22max_pages\x22: 2, \x22entity_type\x22: \x22T\x22\x7d"
    let net := Network.ofAnswers [
      .document "\x7b\x22value\x22: [\x7b\x22a\x22: 1\x7d], \x22@odata.nextLink\x22: \x22b\x22\x7d",
      .document "\x7b\x22value\x22: [\x7b\x22@odata.type\x22: \x22#T\x22\x7d]\x7d"] []
    let found : List Members := [[("a", .int 1)], [("@odata.type", .text "#T")]]
    (∃ form, Retyped g r other form "T") ∧ AllNewer net ∧
      (answer g [] r net).1 = .found "Property?$top=500" found ∧
      found.filter (declaresType "T") = [[("@odata.type", .text "#T")]] ∧
      (answer g [] other net).1 = .found "Property?$top=500" [] := by
  intro g r other net found
  have hretyped : Retyped g r other (Form.ofPages 2) "T" := retyped_submitting rfl
  have hconn : g.connect [] = .ok _ := rfl
  have hone : Payload.spells
      "\x7b\x22value\x22: [\x7b\x22a\x22: 1\x7d], \x22@odata.nextLink\x22: \x22b\x22\x7d"
      (linkedPage [("a", .int 1)] "b") = true := by
    decide +kernel
  have htwo : Payload.spells "\x7b\x22value\x22: [\x7b\x22@odata.type\x22: \x22#T\x22\x7d]\x7d"
      (finalPage [("@odata.type", .text "#T")]) = true := by
    decide +kernel
  obtain ⟨q, hq, hurl⟩ := exists_query_ofPages
  have hnewer : AllNewer net := allNewer_of_documents hone htwo
  have hdelivers := delivers_of_documents (fun _ => ⟨"Bearer tok", rfl⟩) hone htwo
  obtain ⟨hfound, hentities⟩ :=
    answers_of_two_pages hretyped hconn rfl rfl (by decide) hq hurl (by decide) hdelivers
  exact ⟨⟨_, hretyped⟩, hnewer, hfound, rfl, hentities⟩

end OData.Gateway
