import OData.Proofs.Client.Outcome
import OData.Proofs.Gateway.Document
import OData.Proofs.Gateway.FirstRequest
import OData.Proofs.Paging.Completion

/-!
# What becomes of a form

A form that is run is answered with what was found, or the gateway passes on that the service failed
(`Reply.Proper`).

* **When it is so** (`proper_answer_iff`): the page size can be shown, the pages that arrive are
  none with which the form cannot be answered (`Form.Unusable`), and the answers do not break off
  where the form asks for more (`Form.AsksOn`).
* **Reading all records** (`proper_readAll_iff`) and **asking for entities**
  (`proper_entities_iff`): the same for the two ways to run a form.
* **Pages of the wrong shape** (`broken_answer_of_misshapen_page`): valid forms that are not
  handled.
-/

namespace OData

/-! ## Failures that are passed on -/

/-- Whether no answer to come is a failure of the operating system. -/
def Network.Working (net : Network) : Prop :=
  ∀ a ∈ net.dataAnswers ++ net.tokenAnswers, a ≠ .systemFailure

/-- Only the answers to come decide whether a network works. -/
theorem Network.Working.congr {net other : Network} (h : net.Working)
    (hdata : other.dataAnswers = net.dataAnswers)
    (htokens : other.tokenAnswers = net.tokenAnswers) : other.Working := by
  unfold Working
  rw [hdata, htokens]
  exact h

/-- Documents are no failure of the operating system. -/
theorem Network.working_of_document (text : String) :
    (Network.ofAnswers [.document text] []).Working := by
  intro a ha
  rw [List.mem_singleton.1 ha]
  exact Answer.noConfusion

/-- What is answered next is the first answer to come, unless there is none. -/
theorem Answer.head?_of_headD {answers : List Answer} {a : Answer}
    (h : answers.headD .exhausted = a) (hne : a ≠ .exhausted) : answers.head? = some a := by
  cases answers with
  | nil => exact absurd h.symm hne
  | cons first rest => exact congrArg some h

theorem Answer.headD_ne_systemFailure {answers : List Answer}
    (h : ∀ a ∈ answers, a ≠ .systemFailure) : answers.headD .exhausted ≠ .systemFailure := by
  intro hsystem
  have hhead := head?_of_headD hsystem Answer.noConfusion
  exact h _ (List.mem_of_mem_head? hhead) rfl

/-- Whether a token to authorize requests with is a text. -/
def Settings.TextToken (s : Settings) : Prop :=
  ∀ token, s.credentials = .token token → ∃ text, token = .text text

theorem Settings.textToken_of_text {s : Settings} {text : String}
    (h : s.credentials = .token (.text text)) : s.TextToken := by
  intro token htoken
  rw [h] at htoken
  exact ⟨text, (Credentials.token.inj htoken).symm⟩

/-- A request that these settings do not authorize fails in a way that is passed on, or an answer is
given up. -/
theorem Settings.class_of_authorization {s : Settings} (hs : s.TextToken) {tokens : List Answer}
    (htokens : ∀ a ∈ tokens, a ≠ .systemFailure) {failure : Failure}
    (h : s.authorization tokens = .error failure) :
    failure.class?.isSome = true ∨ ∃ cause, failure = .argument cause := by
  unfold authorization at h
  cases hcredentials : s.credentials with
  | token token =>
    obtain ⟨text, rfl⟩ := hs token hcredentials
    rw [hcredentials] at h
    cases h
  | client clientId clientSecret =>
    rw [hcredentials] at h
    simp only at h
    rcases ClientCredentials.ofAnswer_cases (tokens.headD .exhausted) with
      ⟨token, htoken⟩ | ⟨cause, hcause⟩ | hsystem | ⟨r, hr, hdeep⟩
    · rw [htoken] at h
      cases h
    · rw [hcause] at h
      cases h
      exact .inl rfl
    · exact absurd hsystem (Answer.headD_ne_systemFailure htokens)
    · rw [hr, ClientCredentials.ofAnswer, ClientCredentials.tokenOf] at h
      split at h
      · rw [hdeep] at h
        cases h
        exact .inr ⟨_, rfl⟩
      · cases h
        exact .inl rfl

namespace Client

variable {c : Client} {s : Settings} {net : Network}

/-- A request for a page takes answers and adds none. -/
theorem working_page (h : net.Working) (endpoint : String) : (c.page endpoint net).2.Working := by
  have htokens : (c.authenticator.authorize net).2.tokenAnswers ⊆ net.tokenAnswers := by
    cases c.authenticator with
    | client credentials => exact (List.tail_sublist _).subset
    | _ => exact List.Subset.refl _
  intro a ha
  apply h a
  rw [List.mem_append] at ha ⊢
  cases hauthorized : (c.authenticator.authorize net).1 with
  | error failure =>
    rw [page_of_refused hauthorized, dataAnswers_authorize] at ha
    exact ha.imp_right fun ha => htokens ha
  | ok header =>
    have hrequested := (page_of_authorized hauthorized endpoint).2
    rw [hrequested.dataAnswers, hrequested.tokenAnswers] at ha
    exact ha.imp List.mem_of_mem_tail fun ha => htokens ha

theorem working_after (h : net.Working) (endpoints : List String) :
    (c.after net endpoints).Working := by
  induction endpoints generalizing net with
  | nil => exact h
  | cons endpoint rest ih => exact ih (working_page h endpoint)

/-- A request that brings no page fails in a way that is passed on, or it gives an answer up. -/
theorem class_of_page (hc : s.Describes c) (hs : s.TextToken) (hnet : net.Working)
    {endpoint : String} {failure : Failure} (h : (c.page endpoint net).1 = .error failure) :
    failure.class?.isSome = true ∨ net.BreaksOff c.authenticator.authorization [] := by
  rw [breaksOff_nil_iff]
  cases page_eq_error_iff.1 h with
  | unauthorized h hother =>
    rw [hc.authorization] at h ⊢
    refine (Settings.class_of_authorization hs (fun a ha => ?_) h).imp_right ?_
    · exact hnet a (List.mem_append_right _ ha)
    · rintro ⟨cause, rfl⟩
      exact .token h
  | system hauthorized hanswer =>
    refine absurd hanswer (Answer.headD_ne_systemFailure fun a ha => ?_)
    exact hnet a (List.mem_append_left _ ha)
  | @unexplained header r cause hauthorized hanswer hstatus hbody =>
    have hread : r.GivenUp := .inl ⟨hstatus, Response.not_explicable_iff.2 ⟨cause, hbody⟩⟩
    exact .inr (.response hauthorized (Answer.head?_of_headD hanswer Answer.noConfusion) hread)
  | @payload header r cause hauthorized hanswer hstatus hbody =>
    by_cases hdeep : ∃ isObject, cause = .malformed (.tooDeep isObject)
    · obtain ⟨isObject, rfl⟩ := hdeep
      have hread : r.GivenUp :=
        .inr ⟨hstatus, isObject, Payload.ofDocument_eq_malformed_iff.1 hbody⟩
      exact .inr (.response hauthorized (Answer.head?_of_headD hanswer Answer.noConfusion) hread)
    · rw [Undecoded.failure_eq_payload fun isObject heq => hdeep ⟨isObject, heq⟩]
      exact .inl rfl
  | token => exact .inl rfl
  | unreachable => exact .inl rfl
  | reported => exact .inl rfl

end Client

namespace Gateway

/-! ## Replies -/

/-- Whether a reply gives what was found or passes on that the service failed. -/
def Reply.Proper (reply : Reply) : Prop :=
  (∃ url items, reply = .found url items) ∨ reply.status = 502

theorem Reply.not_proper_broken : ¬ Reply.broken.Proper := by
  rintro (⟨url, items, h⟩ | h) <;> cases h

/-- A failure that belongs to the protocol, and no other, is passed on. -/
theorem Reply.proper_ofFailure_iff {failure : Failure} :
    (ofFailure failure).Proper ↔ failure.class?.isSome = true := by
  cases failure with
  | token cause => exact iff_of_true (Or.inr rfl) rfl
  | unreachable reason => exact iff_of_true (Or.inr rfl) rfl
  | reported error => exact iff_of_true (Or.inr rfl) rfl
  | payload cause => exact iff_of_true (Or.inr rfl) rfl
  | _ => exact iff_of_false not_proper_broken Bool.false_ne_true

/-- Values that are all objects are those of their members. -/
theorem allMembers?_eq_some_iff {items : List Value} {found : List Members} :
    allMembers? items = some found ↔ items = found.map .object := by
  induction items generalizing found with
  | nil => cases found <;> simp [allMembers?]
  | cons v rest ih =>
    cases v with
    | object members =>
      rw [allMembers?, Option.map_eq_some_iff]
      simp only [ih]
      cases found with
      | nil => simp
      | cons first others => simp [and_comm]
    | _ => cases found <;> simp [allMembers?]

variable {q : Query} {endpoint : String} {items : List Value} {found : List Members}

/-- What was found is what a run that did not fail gives, if it consists of objects. -/
theorem replyTo_eq_found_iff {result : Except Failure (List Value)} {url : String} :
    replyTo q result = .found url found ↔
      q.address = .ok url ∧ result = .ok (found.map .object) := by
  constructor
  · intro h
    cases result with
    | error failure => cases failure <;> cases h
    | ok items =>
      rw [replyTo] at h
      split at h
      · rename_i haddress hitems
        cases h
        exact ⟨haddress, by rw [allMembers?_eq_some_iff.1 hitems]⟩
      · cases h
  · rintro ⟨haddress, rfl⟩
    rw [replyTo, haddress, allMembers?_eq_some_iff.2 rfl]

/-- Values are all objects. -/
def AllObjects (items : List Value) : Prop :=
  ∀ v ∈ items, ∃ members, v = .object members

/-- Values that are all objects are those of some members. -/
theorem exists_map_object_iff : (∃ found : List Members, items = found.map .object) ↔
    AllObjects items := by
  constructor
  · rintro ⟨found, rfl⟩ v hv
    obtain ⟨members, -, rfl⟩ := List.mem_map.1 hv
    exact ⟨members, rfl⟩
  · intro h
    induction items with
    | nil => exact ⟨[], rfl⟩
    | cons v rest ih =>
      obtain ⟨⟨members, rfl⟩, hrest⟩ := List.forall_mem_cons.1 h
      obtain ⟨found, rfl⟩ := ih hrest
      exact ⟨members :: found, rfl⟩

/-- Records are found exactly if they are objects. -/
theorem proper_replyTo_iff (haddress : q.address = .ok endpoint) :
    (replyTo q (.ok items)).Proper ↔ AllObjects items := by
  rw [← exists_map_object_iff]
  constructor
  · intro h
    rw [replyTo, haddress] at h
    cases hfound : allMembers? items with
    | none =>
      rw [hfound] at h
      exact absurd h Reply.not_proper_broken
    | some found => exact ⟨found, allMembers?_eq_some_iff.1 hfound⟩
  · rintro ⟨found, rfl⟩
    exact Or.inl ⟨endpoint, found, replyTo_eq_found_iff.2 ⟨haddress, rfl⟩⟩

/-- A reply that neither gives what was found nor passes on a failure reports that the request could
not be handled. -/
theorem eq_broken_of_not_proper {result : Except Failure (List Value)}
    (h : ¬ (replyTo q result).Proper) : replyTo q result = .broken := by
  cases result with
  | error failure =>
    cases failure with
    | token cause => exact absurd (Or.inr rfl) h
    | unreachable reason => exact absurd (Or.inr rfl) h
    | reported error => exact absurd (Or.inr rfl) h
    | payload cause => exact absurd (Or.inr rfl) h
    | _ => rfl
  | ok items =>
    cases hurl : q.address with
    | error cause => simp [replyTo, hurl]
    | ok url =>
      cases hfound : allMembers? items with
      | none => simp [replyTo, hurl, hfound]
      | some found =>
        rw [allMembers?_eq_some_iff.1 hfound] at h
        exact absurd (Or.inl ⟨url, found, replyTo_eq_found_iff.2 ⟨hurl, rfl⟩⟩) h

/-! ## Pages that a form cannot be answered with -/

/-- What stands for the entries of a page whose type a form names. -/
def entriesOf (page : Members) : Value :=
  ((page.lookup "value").getD .null).orElse (.list [])

/-- Whether the records of a page are a list of objects. -/
def HoldsObjects (page : Members) : Prop :=
  ∃ items, Payload.results (.object page) = .list items ∧ AllObjects items

/-- Whether pages hold something of the wrong shape: records that are no list of objects, or, if
fewer than `n` hold records, a last link that is no text. -/
def Misshapen (n : Nat) (pages : List Members) : Prop :=
  (∃ page ∈ pages, ¬ HoldsObjects page) ∨
    pages.countP holdsRecords < n ∧ ∃ last ∈ pages.getLast?, Mislinked last

namespace Form

/-- The number of pages with records that a form takes below a cap. At least one is. -/
def pageLimit (f : Form) (cap : Int) : Nat :=
  (max 1 (min (f.maxPages : Int) cap)).toNat

/-- Whether pages are all that a form asks for and it cannot be answered with them: for entities
of a type, one page whose entries cannot be walked through, and otherwise those of a run of which
something has the wrong shape. -/
def Unusable (f : Form) (cap : Int) (pages : List Members) : Prop :=
  match f.entityType with
  | none | some "" => Whole (f.pageLimit cap) 0 [] pages ∧ Misshapen (f.pageLimit cap) pages
  | some _ => ∃ page, pages = [page] ∧ ¬ Walkable (entriesOf page)

/-- Whether a form asks for more after these pages: for entities of a type, the first page, and
otherwise what the last of them leads to. -/
def AsksOn (f : Form) (cap : Int) (pages : List Members) : Prop :=
  match f.entityType with
  | none | some "" => Unfinished (f.pageLimit cap) 0 [] pages
  | some _ => pages = []

variable {f : Form} {cap : Int} {pages : List Members}

/-- A form names no type, or one that is not empty. -/
theorem entityType_cases (f : Form) :
    (f.entityType = none ∨ f.entityType = some "") ∨
      ∃ type, f.entityType = some type ∧ type ≠ "" := by
  cases h : f.entityType with
  | none => exact Or.inl (Or.inl rfl)
  | some type =>
    by_cases hempty : type = ""
    · exact Or.inl (Or.inr (by rw [hempty]))
    · exact Or.inr ⟨type, rfl, hempty⟩

theorem unusable_records_iff (h : f.entityType = none ∨ f.entityType = some "") :
    f.Unusable cap pages ↔
      Whole (f.pageLimit cap) 0 [] pages ∧ Misshapen (f.pageLimit cap) pages := by
  unfold Unusable
  rcases h with h | h <;> simp only [h]

theorem unusable_entities_iff {type : String} (h : f.entityType = some type) (hne : type ≠ "") :
    f.Unusable cap pages ↔ ∃ page, pages = [page] ∧ ¬ Walkable (entriesOf page) := by
  unfold Unusable
  rw [h]
  split
  · contradiction
  · rename_i heq
    exact absurd (Option.some.inj heq) hne
  · rfl

theorem asksOn_records_iff (h : f.entityType = none ∨ f.entityType = some "") :
    f.AsksOn cap pages ↔ Unfinished (f.pageLimit cap) 0 [] pages := by
  unfold AsksOn
  rcases h with h | h <;> simp only [h]

theorem asksOn_entities_iff {type : String} (h : f.entityType = some type) (hne : type ≠ "") :
    f.AsksOn cap pages ↔ pages = [] := by
  unfold AsksOn
  rw [h]
  split
  · contradiction
  · rename_i heq
    exact absurd (Option.some.inj heq) hne
  · rfl

end Form

/-- Walking through something that counts as present meets objects only if it is a list. -/
theorem eq_list_of_elements {v : Value} {items : List Value} (hv : v.truthy = true)
    (helements : v.elements = .ok items) (hitems : AllObjects items) : v = .list items := by
  cases v with
  | list others =>
    cases helements
    rfl
  | text s =>
    cases helements
    cases hs : s.toList with
    | nil =>
      rw [String.toList_eq_nil_iff.1 hs] at hv
      cases hv
    | cons c rest =>
      obtain ⟨members, hmembers⟩ := hitems (.text (String.singleton c)) (by simp [hs])
      cases hmembers
  | object members =>
    cases helements
    cases members with
    | nil => cases hv
    | cons m rest =>
      obtain ⟨others, hothers⟩ := hitems (.text m.1) (by simp)
      cases hothers
  | _ => cases helements

/-- Records are a list of objects exactly if they can be walked through and nothing else is met. -/
theorem holdsObjects_iff {page : Members} :
    HoldsObjects page ↔
      Walkable (Payload.results (.object page)) ∧ AllObjects (recordsOf page) := by
  have hrecords {items : List Value}
      (h : (Payload.results (.object page)).elements = .ok items) : recordsOf page = items := by
    rw [recordsOf, h]
    rfl
  constructor
  · rintro ⟨items, hitems, hall⟩
    have helements : (Payload.results (.object page)).elements = .ok items := by
      rw [hitems]
      rfl
    exact ⟨⟨items, helements⟩, (hrecords helements).symm ▸ hall⟩
  · rintro ⟨⟨items, hitems⟩, hall⟩
    rw [hrecords hitems] at hall
    cases hholds : holdsRecords page with
    | false =>
      exact ⟨[], results_of_not_holdsRecords hholds, fun _ hv => absurd hv List.not_mem_nil⟩
    | true => exact ⟨items, eq_list_of_elements hholds hitems hall, hall⟩

/-- Pages have the wrong shape exactly if a run over them fails or something that is no object is
met. -/
theorem misshapen_iff {n : Nat} {pages : List Members} :
    Misshapen n pages ↔ Halts n 0 pages ∨ ¬ AllObjects (pages.flatMap recordsOf) := by
  have hobjects : AllObjects (pages.flatMap recordsOf) ↔
      ∀ page ∈ pages, AllObjects (recordsOf page) := by
    unfold AllObjects
    simp only [List.mem_flatMap]
    exact ⟨fun h page hpage v hv => h v ⟨page, hpage, hv⟩,
      fun h v ⟨page, hpage, hv⟩ => h page hpage v hv⟩
  unfold Misshapen Halts
  rw [hobjects, Nat.zero_add]
  simp only [holdsObjects_iff, not_and_or, not_forall, and_or_left, exists_or, exists_prop]
  exact or_right_comm

/-! ## Running a form -/

variable {c : Client} {s : Settings} {net : Network}

/-- Reading all records is answered properly unless all pages arrive and something in them has the
wrong shape, or all pages lead on until a request gives its answer up. -/
theorem proper_readAll_iff (hc : s.Describes c) (hs : s.TextToken) (hnet : net.Working)
    (haddress : q.address = .ok endpoint) (limit : Int) :
    (replyTo q (c.readAll q (.int limit) net).1).Proper ↔
      (¬ ∃ pages, net.Delivers c.authenticator.authorization pages ∧
        Whole (max 1 limit).toNat 0 [] pages ∧ Misshapen (max 1 limit).toNat pages) ∧
      ¬ ∃ pages, net.BreaksOff c.authenticator.authorization pages ∧
        Unfinished (max 1 limit).toNat 0 [] pages := by
  have hn : 1 ≤ (max 1 limit).toNat := by omega
  rw [c.readAll_max_one]
  constructor
  · refine fun hproper => ⟨?_, ?_⟩
    · rintro ⟨pages, hdelivers, hwhole, hshape⟩
      obtain ⟨hfailed, hfinished⟩ := Client.readAll_whole haddress hn hwhole hdelivers
      by_cases hhalts : Halts (max 1 limit).toNat 0 pages
      · obtain ⟨cause, hcause⟩ := hfailed hhalts
        rw [hcause] at hproper
        exact Reply.not_proper_broken hproper
      · rw [hfinished hhalts, proper_replyTo_iff haddress] at hproper
        exact (misshapen_iff.1 hshape).elim hhalts fun hobjects => hobjects hproper
    · rintro ⟨pages, hbreaks, hpages⟩
      obtain ⟨cause, hcause⟩ := Client.readAll_of_unfinished haddress hn hpages hbreaks
      rw [hcause] at hproper
      exact Reply.not_proper_broken hproper
  · rintro ⟨hnone, hread⟩
    rcases c.whole_or_failed_readAll haddress hn net with
      ⟨pages, hdelivers, hwhole⟩ |
        ⟨endpoints, pages, last, failure, hbrings, hpages, hlast, hfailed⟩
    · have hshape : ¬ Misshapen (max 1 limit).toNat pages :=
        fun h => hnone ⟨pages, hdelivers, hwhole, h⟩
      rw [misshapen_iff, not_or, not_not] at hshape
      rw [(Client.readAll_whole haddress hn hwhole hdelivers).2 hshape.1,
        proper_replyTo_iff haddress]
      exact hshape.2
    · have hclass := Client.class_of_page hc hs (Client.working_after hnet endpoints) hlast
      rw [hfailed]
      refine Reply.proper_ofFailure_iff.2 (hclass.resolve_right fun hbreaks => ?_)
      exact hread ⟨pages, hbrings.breaksOff hbreaks, hpages⟩

/-- Entities are those entries of a page that declare the type. -/
theorem entities_eq (page : Members) (type : String) :
    Payload.entities (.object page) (.text type) =
      (entriesOf page).elements.map
        (List.filter (Payload.declares (Payload.declaredName type))) := by
  rw [Payload.entities]
  unfold entriesOf
  cases (((page.lookup "value").getD .null).orElse (.list [])).elements <;> rfl

/-- Entities are taken from the page at the address of the query. -/
theorem entities_of_address (haddress : q.address = .ok endpoint) (type : String) :
    (c.entities q (.text type) net).1 = (c.page endpoint net).1.bind fun page =>
      refusing (Payload.entities (.object page) (.text type)) := by
  unfold Client.entities Client.execute
  rw [haddress]

/-- Only objects declare a type. -/
theorem allObjects_filter_declares (type : String) (items : List Value) :
    AllObjects (items.filter (Payload.declares type)) := by
  intro v hv
  have hdeclares := (List.mem_filter.1 hv).2
  cases v with
  | object members => exact ⟨members, rfl⟩
  | _ => cases hdeclares

/-- Asking for entities is answered properly unless the page arrives and its entries cannot be
walked through, or the request for it gives its answer up. -/
theorem proper_entities_iff (hc : s.Describes c) (hs : s.TextToken) (hnet : net.Working)
    (haddress : q.address = .ok endpoint) (type : String) :
    (replyTo q (c.entities q (.text type) net).1).Proper ↔
      (¬ ∃ page, net.Delivers c.authenticator.authorization [page] ∧
        ¬ Walkable (entriesOf page)) ∧
      ¬ net.BreaksOff c.authenticator.authorization [] := by
  rw [entities_of_address haddress]
  simp only [Client.delivers_singleton_iff endpoint]
  cases hpage : (c.page endpoint net).1 with
  | error failure =>
    have hnone : ¬ ∃ page, Except.error failure = .ok page ∧ ¬ Walkable (entriesOf page) :=
      fun ⟨page, h, _⟩ => nomatch h
    rw [and_iff_right hnone]
    refine Reply.proper_ofFailure_iff.trans ⟨fun hclass hbreaks => ?_, fun hread => ?_⟩
    · obtain ⟨cause, hcause⟩ := Client.page_of_breaksOff hbreaks endpoint
      cases hpage.symm.trans hcause
      cases hclass
    · exact (Client.class_of_page hc hs hnet hpage).resolve_right hread
  | ok page =>
    have hread : ¬ net.BreaksOff c.authenticator.authorization [] := by
      intro hbreaks
      obtain ⟨cause, hcause⟩ := Client.page_of_breaksOff hbreaks endpoint
      cases hpage.symm.trans hcause
    rw [and_iff_left hread]
    simp only [Except.bind, entities_eq, Except.ok.injEq, exists_eq_left', not_not]
    cases helements : (entriesOf page).elements with
    | error cause =>
      refine iff_of_false Reply.not_proper_broken ?_
      rintro ⟨items, hitems⟩
      cases helements.symm.trans hitems
    | ok items =>
      refine iff_of_true ?_ ⟨items, helements⟩
      exact (proper_replyTo_iff haddress).2 (allObjects_filter_declares _ items)

/-- A form without a type finds the records of all pages. -/
theorem collect_of_untyped {form : Form} (h : form.entityType = none ∨ form.entityType = some "")
    (limit : Value) : collect c form q limit net = c.readAll q limit net := by
  unfold collect
  rcases h with h | h <;> simp only [h]

/-- A form with a type finds entities. -/
theorem collect_of_typed {form : Form} {type : String} (h : form.entityType = some type)
    (hne : type ≠ "") (limit : Value) :
    collect c form q limit net = c.entities q (.text type) net := by
  unfold collect
  rw [h]
  split
  · contradiction
  · rename_i heq
    exact absurd (Option.some.inj heq) hne
  · rename_i heq
    rw [Option.some.inj heq]

/-- What a form finds through a client is answered properly unless the form cannot be answered with
the pages that arrive, or asks for more where the answers break off. -/
theorem proper_collect_iff (hc : s.Describes c) (hs : s.TextToken) (hnet : net.Working)
    (haddress : q.address = .ok endpoint) (form : Form) (cap : Int) :
    (replyTo q (collect c form q (.int (min form.maxPages cap)) net).1).Proper ↔
      (¬ ∃ pages, net.Delivers s.authorization pages ∧ form.Unusable cap pages) ∧
        ¬ ∃ pages, net.BreaksOff s.authorization pages ∧ form.AsksOn cap pages := by
  have hauthorization : c.authenticator.authorization = s.authorization :=
    funext hc.authorization
  rw [← hauthorization]
  rcases form.entityType_cases with htype | ⟨type, htype, hne⟩
  · rw [collect_of_untyped htype, proper_readAll_iff hc hs hnet haddress]
    simp only [Form.unusable_records_iff htype, Form.asksOn_records_iff htype]
    rfl
  · rw [collect_of_typed htype hne, proper_entities_iff hc hs hnet haddress]
    simp only [Form.unusable_entities_iff htype hne, Form.asksOn_entities_iff htype hne,
      exists_eq_right]
    refine and_congr_left fun _ => not_congr ⟨?_, ?_⟩
    · rintro ⟨page, hdelivers, hentries⟩
      exact ⟨[page], hdelivers, page, rfl, hentries⟩
    · rintro ⟨_, hdelivers, page, rfl, hentries⟩
      exact ⟨page, hdelivers, hentries⟩

/-- A query without an address finds nothing, whatever answers are to come. -/
theorem not_proper_collect {cause : Fault} (haddress : q.address = .error cause) (form : Form)
    (limit : Value) : ¬ (replyTo q (collect c form q limit net).1).Proper := by
  have hcollect : (collect c form q limit net).1 = .error (.argument cause) := by
    have hreadAll : (c.readAll q limit net).1 = .error (.argument cause) := by
      apply Client.readAll_of_ending
      rw [Client.walk_of_no_address haddress]
    unfold collect
    split
    · exact hreadAll
    · exact hreadAll
    · unfold Client.entities Client.execute
      rw [haddress]
      rfl
  rw [hcollect]
  exact Reply.not_proper_broken

variable {g : Gateway} {env : Environment} {r : Request} {form : Form} {conn : Connection}
  {cap pageCap : Int}

/-- Forms that a gateway runs are answered with what a client of its settings finds for their
queries, and that client was set up without taking an answer. -/
theorem exists_collect (hconn : g.connect env = .ok conn) (hcap : g.maxTop = .int cap)
    (hpages : g.maxPages = .int pageCap) (net : Network) :
    ∃ c opened, conn.settings.Describes c ∧ opened.tokenAnswers = net.tokenAnswers ∧
      opened.dataAnswers = net.dataAnswers ∧
      ∀ r form, Admitted g r form → ∃ q, form.query (.int cap) = .ok q ∧
        (answer g env r net).1 =
          replyTo q (collect c form q (.int (min form.maxPages pageCap)) opened).1 := by
  obtain ⟨c, opened, hdescribes, -, -, htokens, hdata, hruns⟩ := exists_runThrough hconn net
  refine ⟨c, opened, hdescribes, htokens, hdata, fun r form h => ?_⟩
  obtain ⟨q, hq⟩ := Form.exists_query (Form.shown_of_request h.form) cap
  refine ⟨q, hq, ?_⟩
  rw [answer_of_admitted h, run, hcap, hpages, hq, Value.lesser_int, hconn]
  exact (hruns form q _).1

/-- **What becomes of a form.** A request that a gateway lets pass is answered with what was found,
or the gateway passes on that the service failed, exactly if the page size can be shown, the pages
that arrive are none with which the form cannot be answered, and the answers do not break off where
the form asks for more. -/
theorem proper_answer_iff (h : Admitted g r form) (hconn : g.connect env = .ok conn)
    (hcap : g.maxTop = .int cap) (hpages : g.maxPages = .int pageCap)
    (htoken : conn.settings.TextToken) (hnet : net.Working) :
    (answer g env r net).1.Proper ↔
      showableInteger (form.pageSize cap) = true ∧
        (¬ ∃ pages, net.Delivers conn.settings.authorization pages ∧
          form.Unusable pageCap pages) ∧
        ¬ ∃ pages, net.BreaksOff conn.settings.authorization pages ∧ form.AsksOn pageCap pages := by
  obtain ⟨c, opened, hdescribes, htokens, hdata, hanswer⟩ := exists_collect hconn hcap hpages net
  obtain ⟨q, hq, hreply⟩ := hanswer r form h
  have hopened : opened.Working := hnet.congr hdata htokens
  rw [hreply, ← Form.exists_address_iff (Form.shown_of_request h.form) hq]
  cases hurl : q.address with
  | error cause =>
    refine iff_of_false (not_proper_collect hurl form _) ?_
    rintro ⟨⟨url, hfound⟩, -⟩
    cases hfound
  | ok endpoint =>
    rw [proper_collect_iff hdescribes htoken hopened hurl]
    simp only [Network.delivers_congr hdata htokens, Network.breaksOff_congr hdata htokens]
    exact (and_iff_right ⟨endpoint, rfl⟩).symm

/-- A page of numbers that links on, after which the service cannot be reached. The numbers do not
matter, since the run is not completed. -/
theorem proper_answer_of_unreachable_page :
    let g := GatewayOverrides.resolve {
      baseUrl := .text "https://up/odata"
      apiKey := .text "upk"
      bearerToken := .text "tok"
      gatewayKey := .text "gw" } []
    let r := Request.submitting "gw" "\x7b\x22max_pages\x22: 2\x7d"
    let net := Network.ofAnswers [
      .document "\x7b\x22value\x22: [1], \x22@odata.nextLink\x22: \x22b\x22\x7d"] []
    ∃ form conn, Admitted g r form ∧ g.connect [] = .ok conn ∧ g.maxTop = .int 500 ∧
      g.maxPages = .int 10 ∧ conn.settings.TextToken ∧ net.Working ∧
      (answer g [] r net).1.Proper := by
  intro g r net
  have hform : Payload.spells "\x7b\x22max_pages\x22: 2\x7d" [("max_pages", .int 2)] = true := by
    decide +kernel
  have hadmitted : Admitted g r ⟨"Property", none, none, none, none, none, [], none, 2⟩ :=
    admitted_submitting rfl hform rfl
  have hconn : g.connect [] = .ok _ := rfl
  have hpage : (Answer.document
      "\x7b\x22value\x22: [1], \x22@odata.nextLink\x22: \x22b\x22\x7d").page? =
      some [("value", .list [.int 1]), ("@odata.nextLink", .text "b")] :=
    Answer.page?_document (by decide +kernel)
  have hnet : net.Working := Network.working_of_document _
  refine ⟨_, _, hadmitted, hconn, rfl, rfl, Settings.textToken_of_text rfl, hnet, ?_⟩
  rw [proper_answer_iff hadmitted hconn rfl rfl (Settings.textToken_of_text rfl) hnet]
  refine ⟨by decide, ?_, ?_⟩
  · rintro ⟨pages, hdelivers, hwhole, -⟩
    have hanswered := hdelivers.answered
    cases hwhole with
    | last hnone =>
      obtain rfl := Option.some.inj (hpage.symm.trans (List.cons.inj hanswered).1)
      refine hnone "b" ⟨rfl, by decide, List.not_mem_nil, fun _ => ⟨_, rfl⟩, by decide⟩
    | cons hpasses hrest =>
      obtain ⟨next, more, rfl⟩ := List.exists_cons_of_ne_nil hrest.ne_nil
      cases (List.cons.inj hanswered).2
  · rintro ⟨pages, hbreaks, -⟩
    cases hbreaks.givesUp with
    | token hrefused => cases hrefused
    | response hauthorized hanswer hread =>
      rw [← List.mem_singleton.1 (List.mem_of_getElem? hanswer)] at hpage
      exact Response.not_givenUp_of_page hpage hread

/-- A form that cannot be answered with the pages that arrive is not handled. -/
theorem broken_of_unusable (h : Admitted g r form) (hconn : g.connect env = .ok conn)
    (hcap : g.maxTop = .int cap) (hpages : g.maxPages = .int pageCap)
    (htoken : conn.settings.TextToken) (hnet : net.Working) {pages : List Members}
    (hdelivers : net.Delivers conn.settings.authorization pages)
    (hunusable : form.Unusable pageCap pages) : (answer g env r net).1 = .broken := by
  obtain ⟨c, opened, hdescribes, htokens, hdata, hanswer⟩ := exists_collect hconn hcap hpages net
  obtain ⟨q, hq, hreply⟩ := hanswer r form h
  have hopened : opened.Working := hnet.congr hdata htokens
  rw [hreply]
  apply eq_broken_of_not_proper
  cases hurl : q.address with
  | error cause => exact not_proper_collect hurl form _
  | ok endpoint =>
    rw [proper_collect_iff hdescribes htoken hopened hurl]
    rintro ⟨hnone, -⟩
    exact hnone ⟨pages, (Network.delivers_congr hdata htokens).2 hdelivers, hunusable⟩

/-- A form that cannot be answered with the one page that arrives is not handled. -/
theorem broken_of_document (h : Admitted g r form) (hconn : g.connect env = .ok conn)
    (hcap : g.maxTop = .int cap) (hpages : g.maxPages = .int pageCap)
    (htoken : conn.settings.TextToken)
    (hauthorized : ∃ header, conn.settings.authorization [] = .ok header) {text : String}
    {page : Members} (hpage : Payload.spells text page = true)
    (hunusable : form.Unusable pageCap [page]) :
    (answer g env r (Network.ofAnswers [.document text] [])).1 = .broken := by
  have hnet : (Network.ofAnswers [.document text] []).Working := Network.working_of_document text
  refine broken_of_unusable h hconn hcap hpages htoken hnet ⟨?_, ?_⟩ hunusable
  · intro i _
    rw [show (Network.ofAnswers [.document text] []).tokenAnswers.drop i = [] from List.drop_nil]
    exact hauthorized
  · exact congrArg (fun page => [page]) (Answer.page?_document hpage)

/-- A page without a text as its link is all of a run. -/
theorem whole_of_linkless {n : Nat} {page : Members}
    (h : ∀ s, Payload.nextLink (.object page) ≠ .text s) : Whole n 0 [] [page] :=
  .last fun link hpasses => h link hpasses.link_eq

/-- A number in place of the records, a record that is a number, a next link that is a number, and a
number in place of the entries: with each of these pages a valid form is not handled. -/
theorem broken_answer_of_misshapen_page :
    let g := GatewayOverrides.resolve {
      baseUrl := .text "https://up/odata"
      apiKey := .text "upk"
      bearerToken := .text "tok"
      gatewayKey := .text "gw"
      maxTop := .int 100
      maxPages := .int 2 } []
    ∀ p ∈ [("\x7b\x7d", "\x7b\x22value\x22: 5\x7d"),
        ("\x7b\x7d", "\x7b\x22value\x22: [1]\x7d"),
        ("\x7b\x7d", "\x7b\x22value\x22: [], \x22@odata.nextLink\x22: 5\x7d"),
        ("\x7b\x22entity_type\x22: \x22T\x22\x7d", "\x7b\x22value\x22: 5\x7d")],
      let r := Request.submitting "gw" p.1
      let net := Network.ofAnswers [.document p.2] []
      (∃ form, Admitted g r form) ∧ (∃ conn, g.connect [] = .ok conn ∧ conn.settings.TextToken) ∧
        net.Working ∧ (answer g [] r net).1 = .broken ∧ Reply.broken.status = 500 := by
  intro g
  have hconn : g.connect [] = .ok _ := rfl
  have hbroken {text document : String} {members page : Members} {form : Form}
      (htext : Payload.spells text members = true)
      (hform : Form.ofDocument (.object members) = .ok form)
      (hpage : Payload.spells document page = true) (hunusable : form.Unusable 2 [page]) :
      let r := Request.submitting "gw" text
      let net := Network.ofAnswers [.document document] []
      (∃ form, Admitted g r form) ∧ (∃ conn, g.connect [] = .ok conn ∧ conn.settings.TextToken) ∧
        net.Working ∧ (answer g [] r net).1 = .broken ∧ Reply.broken.status = 500 := by
    have hadmitted : Admitted g (Request.submitting "gw" text) form :=
      admitted_submitting rfl htext hform
    exact ⟨⟨form, hadmitted⟩, ⟨_, hconn, Settings.textToken_of_text rfl⟩,
      Network.working_of_document document,
      broken_of_document hadmitted hconn rfl rfl (Settings.textToken_of_text rfl)
        ⟨"Bearer tok", rfl⟩ hpage hunusable, rfl⟩
  have hempty : Payload.spells "\x7b\x7d" [] = true := by decide +kernel
  have htyped : Payload.spells "\x7b\x22entity_type\x22: \x22T\x22\x7d"
      [("entity_type", .text "T")] = true := by decide +kernel
  have hnumber : Payload.spells "\x7b\x22value\x22: 5\x7d" [("value", .int 5)] = true := by
    decide +kernel
  have hrecord : Payload.spells "\x7b\x22value\x22: [1]\x7d" [("value", .list [.int 1])] =
      true := by decide +kernel
  have hlink : Payload.spells "\x7b\x22value\x22: [], \x22@odata.nextLink\x22: 5\x7d"
      [("value", .list []), ("@odata.nextLink", .int 5)] = true := by decide +kernel
  rw [List.forall_mem_cons, List.forall_mem_cons, List.forall_mem_cons, List.forall_mem_singleton]
  refine ⟨hbroken hempty rfl hnumber ?_, hbroken hempty rfl hrecord ?_,
    hbroken hempty rfl hlink ?_, hbroken htyped rfl hnumber ?_⟩
  · rw [Form.unusable_records_iff (Or.inl rfl)]
    refine ⟨whole_of_linkless fun s => Value.noConfusion, Or.inl ⟨_, List.mem_cons_self, ?_⟩⟩
    rintro ⟨items, hitems, -⟩
    cases hitems
  · rw [Form.unusable_records_iff (Or.inl rfl)]
    refine ⟨whole_of_linkless fun s => Value.noConfusion, Or.inl ⟨_, List.mem_cons_self, ?_⟩⟩
    rintro ⟨items, hitems, hall⟩
    cases hitems
    obtain ⟨members, hmembers⟩ := hall (.int 1) List.mem_cons_self
    cases hmembers
  · rw [Form.unusable_records_iff (Or.inl rfl)]
    exact ⟨whole_of_linkless fun s => Value.noConfusion,
      Or.inr ⟨by decide, _, rfl, rfl, fun s => Value.noConfusion⟩⟩
  · have hne : "T" ≠ "" := by decide
    rw [Form.unusable_entities_iff rfl hne]
    refine ⟨_, rfl, ?_⟩
    rintro ⟨items, hitems⟩
    cases hitems

end Gateway

end OData
