import OData.Proofs.Gateway.Outcome

/-!
# Compiling a form and running it agree

A form is compiled without a cap on its page size and run below one, so that the two build its query
apart from each other.

* **Compiling** (`exists_compile`, `Compiles`): every valid request to compile is answered, with an
  address that is put together as it should be.
* **Running** (`compile_agrees_with_run`, `Agrees`): what a gateway asks for first when it runs a
  form, and the address that it reports in the end, are what compiling the same document gives, with
  its page size set to the one that the cap leaves.
-/

namespace OData

/-- A member that was set is found, and the others are as they were. -/
theorem Members.lookup_set (key name : String) (v : Value) (members : Members) :
    (Members.set key v members).lookup name =
      if name = key then some v else members.lookup name := by
  induction members with
  | nil =>
    by_cases h : name = key
    · simp [set, h]
    · simp [set, List.lookup_cons, beq_false_of_ne h, h]
  | cons m rest ih =>
    obtain ⟨k, w⟩ := m
    by_cases hk : k = key
    · rw [set, if_pos hk]
      by_cases h : name = key
      · simp [h]
      · simp [List.lookup_cons, beq_false_of_ne h, hk, h]
    · rw [set, if_neg hk]
      by_cases h : name = k
      · simp [h, hk]
      · simp [List.lookup_cons, beq_false_of_ne h, ih]

namespace Gateway

variable {g : Gateway} {env : Environment} {r : Request} {form : Form} {conn : Connection}
  {members : Members} {q : Query}

/-! ## Forms with another page size -/

namespace Form

/-- The page size that a form asks for below a cap: the cap, if it wants no other. -/
def sizeBelow (f : Form) (cap : Nat) : Nat :=
  match f.top with
  | none => cap
  | some n => min n cap

/-- A form with its page size replaced by the one that a cap leaves. -/
def capped (f : Form) (cap : Nat) : Form :=
  { f with top := some (f.sizeBelow cap) }

theorem pageSize_eq (f : Form) (cap : Nat) : f.pageSize cap = f.sizeBelow cap := by
  unfold pageSize sizeBelow
  cases f.top with
  | none => rfl
  | some n =>
    show min (n : Int) cap = ((min n cap : Nat) : Int)
    omega

/-- To cap the page size of a query is to replace that of its form. -/
theorem query_capped (f : Form) (cap : Nat) : (f.capped cap).query .null = f.query (.int cap) := by
  rw [query_of_top (f.capped cap).cappedTop_null, query_int]
  show _ = (f.plainQuery (f.optionsAt (some (f.pageSize cap)))).runAll _
  rw [pageSize_eq]
  rfl

/-- A form whose page size is below a cap stays as it is. -/
theorem capped_of_le {f : Form} {n cap : Nat} (htop : f.top = some n) (hle : n ≤ cap) :
    f.capped cap = f := by
  have hsize : f.sizeBelow cap = n := by
    rw [sizeBelow, htop]
    exact Nat.min_eq_left hle
  rw [capped, hsize, ← htop]

/-- Setting the page size in a document sets it in the form that the document holds. -/
theorem ofDocument_set_top (h : ofDocument (.object members) = .ok form) (n : Nat) :
    ofDocument (.object (members.set "top" (.int n))) = .ok { form with top := some n } := by
  have hother {α : Type} {name : String} {fallback : α} {check : Check α} (hname : name ≠ "top") :
      defaulted (members.set "top" (.int n)) name fallback check =
        defaulted members name fallback check := by
    unfold defaulted
    rw [Members.lookup_set, if_neg hname]
  have hset : defaulted (members.set "top" (.int n)) "top" none
      (Check.optional (Check.integerFrom 0)) = .ok (some n) := by
    unfold defaulted
    rw [Members.lookup_set, if_pos rfl]
    rfl
  have hread : form.ReadFrom members := ofMembers_eq_ok_iff.1 h
  exact ofMembers_eq_ok_iff.2 {
    resource := (hother (by decide)).trans hread.resource
    select := (hother (by decide)).trans hread.select
    expand := (hother (by decide)).trans hread.expand
    orderBy := (hother (by decide)).trans hread.orderBy
    top := hset
    skip := (hother (by decide)).trans hread.skip
    filters := (hother (by decide)).trans hread.filters
    entityType := (hother (by decide)).trans hread.entityType
    maxPages := (hother (by decide)).trans hread.maxPages }

end Form

/-! ## Compiling -/

/-- Whether a gateway lets a request to compile a form pass. -/
structure Compilable (g : Gateway) (r : Request) (form : Form) : Prop where
  /-- It goes to the endpoint that compiles forms. -/
  target : Endpoint.ofTarget? r.target = some .compile
  /-- It has the method of that endpoint. -/
  method : r.method = .post
  /-- It carries the key and a valid form. -/
  form : r.form g = .ok form

/-- Whether a request asks a gateway, with its key, to compile what a document holds. -/
structure Compiles (g : Gateway) (r : Request) (document : Value) : Prop where
  /-- It goes to the endpoint that compiles forms. -/
  target : Endpoint.ofTarget? r.target = some .compile
  /-- It has the method of that endpoint. -/
  method : r.method = .post
  /-- It carries the key. -/
  key : ∃ key, r.checkKey = .ok key ∧ g.admits key = true
  /-- It carries the document. -/
  document : r.document = .ok (some document)

/-- A request to compile a document that holds a form passes. -/
theorem Compiles.compilable {v : Value} (h : Compiles g r v)
    (hform : Form.ofDocument v = .ok form) : Compilable g r form := by
  obtain ⟨key, hkey, hadmits⟩ := h.key
  exact ⟨h.target, h.method, Request.form_eq_ok_iff.2
    ⟨_, key, h.document, hkey, hadmits, Checked.under_eq_ok_iff.2 hform⟩⟩

/-- A request to compile that passes is answered by compiling its form, and nothing is sent. -/
theorem answer_of_compilable (h : Compilable g r form) (env : Environment) (net : Network) :
    answer g env r net = (compile form, net) := by
  have hmethod : (r.method != Endpoint.compile.method) = false := by
    rw [h.method]
    rfl
  unfold answer
  simp [h.target, hmethod, h.form]

theorem compile_eq {url : String} (hq : form.query .null = .ok q) (hurl : q.address = .ok url) :
    compile form = .compiled url q.filter.expression := by
  rw [compile, hq]
  simp only [hurl]

/-- A form whose integers can be shown compiles to its resource, its options and its filter. -/
theorem exists_compile (h : form.Shown) :
    ∃ options filter, (form.optionsAt form.wanted).render = .ok options ∧
      compile form = .compiled (Text.trimEndSlashes form.resource ++
        (if options = "" then "" else "?" ++ options) ++
        (if filter = "" then "" else
          (if options = "" then "?" else "&") ++ "$filter=" ++ filter)) filter := by
  have htop := form.cappedTop_null
  obtain ⟨q, hq⟩ := Form.exists_query_of_top h htop
  have hsize : ∀ n ∈ form.wanted, showableInteger n = true := by
    intro n hn
    obtain ⟨m, hm, rfl⟩ := Option.mem_map.1 hn
    exact h.top m hm
  obtain ⟨url, hurl⟩ := (Form.exists_address_of_top_iff h htop hq).2 hsize
  have hcompile := compile_eq hq hurl
  unfold Query.address at hurl
  rw [Form.base_of_query hq, Form.options_of_top htop hq] at hurl
  obtain ⟨options, hoptions, hassemble⟩ := bind_eq_ok_iff.1 hurl
  obtain rfl := Except.ok.inj hassemble
  rw [Query.assemble_eq] at hcompile
  exact ⟨options, _, hoptions, hcompile⟩

/-! ## Running -/

/-- A reply to a failure never reports success. -/
theorem Reply.status_ofFailure (failure : Failure) : (Reply.ofFailure failure).status ≠ 200 := by
  intro h
  cases failure <;> cases h

/-- A reply to a form that reports success gives the address of its query. -/
theorem exists_found_of_replyTo {result : Except Failure (List Value)}
    (h : (replyTo q result).status = 200) :
    ∃ url items, q.address = .ok url ∧ replyTo q result = .found url items := by
  cases result with
  | error failure => exact absurd h (Reply.status_ofFailure failure)
  | ok items =>
    rw [replyTo] at h
    split at h
    · next url found hurl hfound =>
      refine ⟨url, found, hurl, replyTo_eq_found_iff.2 ⟨hurl, ?_⟩⟩
      rw [allMembers?_eq_some_iff.1 hfound]
    · cases h

/-- Running a form that reports success gives the address of the form's query. -/
theorem exists_found_of_run {net : Network} (h : (run g env form net).1.status = 200) :
    ∃ q url items, form.query g.maxTop = .ok q ∧ q.address = .ok url ∧
      (run g env form net).1 = .found url items := by
  unfold run at h ⊢
  split at h
  · next q limit hq hlimit =>
    split at h
    · next conn hconn =>
      unfold runThrough at h ⊢
      dsimp only at h ⊢
      cases hclient : (conn.client net).client with
      | ok c =>
        simp only [hclient] at h ⊢
        obtain ⟨url, items, hurl, hreply⟩ := exists_found_of_replyTo h
        exact ⟨q, url, items, hq, hurl, hreply⟩
      | error failure =>
        simp only [hclient] at h
        exact absurd h (Reply.status_ofFailure failure)
    · cases h
  · cases h

/-- A gateway that asks for something has a connection. -/
theorem exists_connect_of_firstRequest? (h : Admitted g r form) {net : Network}
    {request : DataRequest} (hfirst : firstRequest? g env r net = some request) :
    ∃ conn, g.connect env = .ok conn := by
  cases hconn : g.connect env with
  | ok conn => exact ⟨conn, rfl⟩
  | error failure =>
    have hsame : (run g env form net).2 = net := by
      unfold run
      split
      · simp [hconn]
      · rfl
    unfold firstRequest? at hfirst
    rw [answer_of_admitted h, hsame, List.drop_length] at hfirst
    cases hfirst

/-! ## Agreement -/

/-- What an address has to do with a request to run a form below a cap on its page size, if the
request carries an object with the given members. -/
structure Agrees (g : Gateway) (env : Environment) (r : Request) (net : Network) (form : Form)
    (cap : Nat) (members : Members) (url filter : String) : Prop where
  /-- What is asked for first is where the client's resolution of the address leads. -/
  asked : ∀ request, firstRequest? g env r net = some request →
    ∃ conn c, g.connect env = .ok conn ∧ (conn.client net).client = .ok c ∧
      request.url = c.resolve url
  /-- A reply that reports success gives the address and how many items there are. -/
  found : (answer g env r net).1.status = 200 →
    ∃ items, (answer g env r net).1.body =
      some (.object [("url", .text url), ("count", .int items.length), ("items", .list items)])
  /-- Compiling the document with its page size set to what the cap leaves gives the address. -/
  compiled : ∀ (g' : Gateway) (r' : Request),
    Compiles g' r' (.object (members.set "top" (.int (form.sizeBelow cap)))) →
      ∀ env' net', answer g' env' r' net' = (.compiled url filter, net')
  /-- If its page size is below the cap, compiling the document as it is gives the address. -/
  unchanged : ∀ n, form.top = some n → n ≤ cap → ∀ (g' : Gateway) (r' : Request),
    Compiles g' r' (.object members) →
      ∀ env' net', answer g' env' r' net' = (.compiled url filter, net')

/-- The address of the query that is run agrees with the request to run it. -/
theorem agrees_of_query {cap : Nat} (hcap : g.maxTop = .int cap) (h : Admitted g r form)
    (hform : Form.ofDocument (.object members) = .ok form) {url : String}
    (hq : form.query (.int cap) = .ok q) (hurl : q.address = .ok url) (env : Environment)
    (net : Network) : Agrees g env r net form cap members url q.filter.expression := by
  have hcompile : compile (form.capped cap) = .compiled url q.filter.expression :=
    compile_eq ((form.query_capped cap).trans hq) hurl
  refine ⟨fun request hfirst => ?_, fun hstatus => ?_, fun g' r' h' env' net' => ?_,
    fun n htop hle g' r' h' env' net' => ?_⟩
  · obtain ⟨conn, hconn⟩ := exists_connect_of_firstRequest? h hfirst
    obtain ⟨-, q', endpoint, authorization, hq', hendpoint, -, rfl⟩ :=
      (firstRequest?_eq_some_iff h hconn).1 hfirst
    rw [hcap, hq] at hq'
    obtain rfl := Except.ok.inj hq'
    rw [hurl] at hendpoint
    obtain rfl := Except.ok.inj hendpoint
    obtain ⟨c, opened, hreached, hdescribes, -⟩ := exists_reached hconn net
    exact ⟨conn, c, hconn, congrArg Connection.Reached.client hreached,
      (resolve_of_describes hconn hdescribes url).symm⟩
  · rw [answer_of_admitted h] at hstatus ⊢
    obtain ⟨q', url', items, hq', hurl', hreply⟩ := exists_found_of_run hstatus
    rw [hcap, hq] at hq'
    obtain rfl := Except.ok.inj hq'
    rw [hurl] at hurl'
    obtain rfl := Except.ok.inj hurl'
    refine ⟨items.map fun members => (Value.object members).finite, ?_⟩
    rw [hreply, List.length_map]
    rfl
  · rw [answer_of_compilable (h'.compilable (Form.ofDocument_set_top hform _)), ← hcompile]
    rfl
  · rw [answer_of_compilable (h'.compilable hform), ← hcompile, Form.capped_of_le htop hle]

/-- **Compiling and running agree.** Every request to compile that passes is answered without
sending anything, with the resource, the options and the filter as one address. For every request to
run a form that passes below a cap on the page size, if something is asked for or success is
reported, there is an address that both have to do with, and that compiling the same document
gives. -/
theorem compile_agrees_with_run :
    (∀ (g : Gateway) (env : Environment) (r : Request) (net : Network) (form : Form),
      Compilable g r form →
      ∃ options filter, (form.optionsAt form.wanted).render = .ok options ∧
        answer g env r net = (.compiled (Text.trimEndSlashes form.resource ++
          (if options = "" then "" else "?" ++ options) ++
          (if filter = "" then "" else
            (if options = "" then "?" else "&") ++ "$filter=" ++ filter)) filter, net)) ∧
    ∀ (g : Gateway) (env : Environment) (r : Request) (net : Network) (form : Form) (cap : Nat),
      g.maxTop = .int cap → Admitted g r form →
      firstRequest? g env r net ≠ none ∨ (answer g env r net).1.status = 200 →
      ∃ members url filter, r.document = .ok (some (.object members)) ∧
        Agrees g env r net form cap members url filter := by
  constructor
  · intro g env r net form h
    obtain ⟨options, filter, hoptions, hcompile⟩ := exists_compile (Form.shown_of_request h.form)
    exact ⟨options, filter, hoptions, by rw [answer_of_compilable h, hcompile]⟩
  · intro g env r net form cap hcap h hdone
    obtain ⟨members, hdocument, hform⟩ : ∃ members, r.document = .ok (some (.object members)) ∧
        Form.ofDocument (.object members) = .ok form := by
      obtain ⟨document, -, hdocument, -, -, hchecked⟩ := Request.form_eq_ok_iff.1 h.form
      have hfound := Checked.under_eq_ok_iff.1 hchecked
      cases document with
      | none => cases hfound
      | some v =>
        cases v with
        | object members => exact ⟨members, hdocument, hfound⟩
        | _ => cases hfound
    obtain ⟨q, url, hq, hurl⟩ : ∃ q url, form.query (.int cap) = .ok q ∧ q.address = .ok url := by
      rcases hdone with hfirst | hstatus
      · obtain ⟨request, hrequest⟩ := Option.ne_none_iff_exists'.1 hfirst
        obtain ⟨conn, hconn⟩ := exists_connect_of_firstRequest? h hrequest
        obtain ⟨-, q, url, -, hq, hurl, -⟩ := (firstRequest?_eq_some_iff h hconn).1 hrequest
        exact ⟨q, url, hcap ▸ hq, hurl⟩
      · rw [answer_of_admitted h] at hstatus
        obtain ⟨q, url, -, hq, hurl, -⟩ := exists_found_of_run hstatus
        exact ⟨q, url, hcap ▸ hq, hurl⟩
    exact ⟨members, url, _, hdocument, agrees_of_query hcap h hform hq hurl env net⟩

/-- A form whose group is never closed and whose page size is above the cap: it asks for the address
that compiling it gives with the page size of the cap. -/
theorem compile_agrees_with_run_of_unclosed_group :
    let g := GatewayOverrides.resolve {
      baseUrl := .text "https://up/odata"
      apiKey := .text "upk"
      bearerToken := .text "tok"
      gatewayKey := .text "gw"
      maxTop := .int 100 } []
    let text (top : String) := "\x7b\x22top\x22: " ++ top ++
      ", \x22filters\x22: [\x7b\x22op\x22: \x22start_group\x22\x7d]\x7d"
    let running := Request.submitting "gw" (text "1000")
    let compiling := { Request.submitting "gw" (text "100") with target := "/compile" }
    let net := Network.ofAnswers [] []
    ∃ form members url filter, g.maxTop = .int 100 ∧ Admitted g running form ∧
      firstRequest? g [] running net ≠ none ∧ Agrees g [] running net form 100 members url filter ∧
      answer g [] compiling net = (.compiled url filter, net) := by
  intro g text running compiling net
  let members (top : Int) : Members :=
    [("top", .int top), ("filters", .list [.object [("op", .text "start_group")]])]
  have hrunning : Payload.spells (text "1000") (members 1000) = true := by decide +kernel
  have hcompiling : Payload.spells (text "100") (members 100) = true := by decide +kernel
  have hadmitted : Admitted g running ⟨"Property", none, none, none, some 1000, none,
      [⟨.openGroup, none, none, .null, none, none, "and", "AND", "eq", none, none⟩], none, 1⟩ :=
    admitted_submitting rfl hrunning rfl
  have hconn : g.connect [] = .ok _ := rfl
  have hfirst : firstRequest? g [] running net = some _ :=
    (firstRequest?_eq_some_iff hadmitted hconn).2
      ⟨⟨_, rfl⟩, _, "Property?$top=100&$filter=(", "Bearer tok", rfl, rfl, rfl, rfl⟩
  have hasked : firstRequest? g [] running net ≠ none := by simp [hfirst]
  obtain ⟨found, url, filter, hdocument, hagrees⟩ :=
    compile_agrees_with_run.2 g [] running net _ 100 rfl hadmitted (Or.inl hasked)
  obtain rfl : found = members 1000 := by
    have hsame := hdocument.symm.trans (document_submitting "gw" hrunning)
    simpa using hsame
  refine ⟨_, _, url, filter, rfl, hadmitted, hasked, hagrees, ?_⟩
  refine hagrees.compiled g compiling ⟨?_, rfl, ⟨"gw", ?_, rfl⟩, ?_⟩ [] net
  · exact (by decide +kernel : Endpoint.ofTarget? "/compile" = some .compile)
  · show (Request.submitting "gw" (text "100")).checkKey = .ok "gw"
    rw [Request.checkKey, key?_submitting]
  · exact document_submitting "gw" hcompiling

end Gateway

end OData
