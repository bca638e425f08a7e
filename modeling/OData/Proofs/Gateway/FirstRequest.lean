import OData.Gateway.Endpoint
import OData.Proofs.Client.Exchange
import OData.Proofs.Client.Ledger
import OData.Proofs.Text.Occurrence
import OData.Proofs.Text.Padding

/-!
# The first request of a form

A request to run a form makes the gateway set up a client, ask for the form's query through it and
close it again.

* **The first request** (`firstRequest?_eq_some_iff`): what is asked for first, and when. It is the
  address of the form's query, absolute or below that of the service, with the service's key and an
  authorization, provided that the query has an address and is authorized.
* **The client** (`exists_runThrough`): a form is run through a client of the gateway's settings,
  which was set up without taking an answer.
-/

namespace OData

/-! ## What a connection sets up -/

/-- How the first request with these settings is authorized, given the answers to requests for
tokens. -/
def Settings.authorization (s : Settings) (tokens : List Answer) : Except Failure String :=
  match s.credentials with
  | .token token => (Authenticator.bearer token).authorization tokens
  | .client _ _ =>
    (ClientCredentials.ofAnswer (tokens.headD .exhausted)).map Authenticator.bearerOf

/-- Whether a client is one that the settings describe. -/
structure Settings.Describes (s : Settings) (c : Client) : Prop where
  /-- The address of the service. -/
  base : c.base = Text.trimEndSlashes s.baseUrl ++ "/"
  /-- The key that goes with every request. -/
  apiKey : c.apiKey = s.apiKey
  /-- How certificates are verified. -/
  verify : c.verify = s.verify
  /-- How the first request is authorized. -/
  authorization : ∀ tokens, c.authenticator.authorization tokens = s.authorization tokens

/-- A client that settings set up is one that they describe. Setting it up sends nothing. -/
theorem Settings.describes_of_client {s : Settings} {c : Client} {net opened : Network}
    (h : s.config.client net = .ok (c, opened)) :
    s.Describes c ∧ s.timeout.toFloat = .ok c.timeout ∧ opened.log = net.log ∧
      opened.tokenAnswers = net.tokenAnswers ∧ opened.dataAnswers = net.dataAnswers := by
  obtain ⟨baseUrl, apiKey, credentials, tokenUrl, scope, verify, timeout⟩ := s
  obtain ⟨base, hbase, h⟩ := bind_eq_ok_iff.1 h
  obtain ⟨limit, hlimit, h⟩ := bind_eq_ok_iff.1 h
  cases hbase
  have htimeout : timeout.toFloat = .ok limit := refusing_eq_ok_iff.1 hlimit
  cases credentials with
  | token token =>
    cases h
    exact ⟨⟨rfl, rfl, rfl, fun _ => rfl⟩, htimeout, rfl, rfl, rfl⟩
  | client clientId clientSecret =>
    cases h
    exact ⟨⟨rfl, rfl, rfl, fun _ => rfl⟩, htimeout, rfl, rfl, rfl⟩

/-- Settings with a number as the time limit describe a client, which is set up without sending
anything. -/
theorem Settings.exists_client {s : Settings} {limit : Float} (hlimit : s.timeout = .float limit)
    (net : Network) :
    ∃ c opened, s.config.client net = .ok (c, opened) ∧ s.Describes c ∧ c.timeout = limit ∧
      opened.log = net.log ∧ opened.tokenAnswers = net.tokenAnswers ∧
      opened.dataAnswers = net.dataAnswers := by
  have hnumber : s.timeout.toFloat = .ok limit := by rw [hlimit, Value.toFloat]
  obtain ⟨⟨c, opened⟩, hclient⟩ := (s.exists_client_iff net).2 ⟨limit, hnumber⟩
  obtain ⟨hdescribes, htimeout, hunsent⟩ := describes_of_client hclient
  exact ⟨c, opened, hclient, hdescribes, Except.ok.inj (htimeout.symm.trans hnumber), hunsent⟩

/-- A gateway's connection starts without a client, from its address with one slash at the end and
with the usual time limit. -/
theorem Gateway.settings_of_connect {g : Gateway} {env : Environment} {conn : Connection}
    (hconn : g.connect env = .ok conn) :
    conn.current = none ∧ conn.settings.timeout = .float 60.0 ∧
      Config.baseOf (env.resolve g.baseUrl "ODATA_BASE_URL" "") = .ok conn.settings.baseUrl := by
  unfold connect Connection.establish at hconn
  obtain ⟨settings, hsettings, rfl⟩ := map_eq_ok_iff.1 hconn
  obtain ⟨base, hbase, hsettings⟩ := bind_eq_ok_iff.1 hsettings
  split at hsettings
  · cases hsettings
  · split at hsettings
    · cases hsettings
    · cases hsettings
      exact ⟨rfl, rfl, refusing_eq_ok_iff.1 hbase⟩

/-- The address of a service has one slash at its end, however often it is given one. -/
theorem Config.trimEndSlashes_of_baseOf {v : Value} {base : String} (h : baseOf v = .ok base) :
    Text.trimEndSlashes base ++ "/" = base := by
  cases v with
  | text s =>
    obtain rfl := Except.ok.inj h
    rw [Text.trimEndSlashes_append_slash]
  | _ => cases h

/-- The address that an endpoint stands for below that of the service, unless it is absolute. -/
def Settings.resolve (s : Settings) (endpoint : String) : String :=
  if Client.isAbsolute endpoint then endpoint
  else s.baseUrl ++ Text.trimStartSlashes endpoint

/-- A client that settings describe resolves endpoints as they do. -/
theorem Settings.Describes.resolve_eq {s : Settings} {c : Client} (h : s.Describes c) {v : Value}
    (hbase : Config.baseOf v = .ok s.baseUrl) (endpoint : String) :
    c.resolve endpoint = s.resolve endpoint := by
  unfold Client.resolve Settings.resolve
  rw [h.base, Config.trimEndSlashes_of_baseOf hbase]

/-- What follows a question mark does not make a text an address of its own. -/
theorem Client.isAbsolute_append_question {s t : String} {more : List Char}
    (h : s.toList = t.toList ++ '?' :: more) : isAbsolute s = isAbsolute t := by
  have hbegins (start : String) (hstart : '?' ∉ start.toList) :
      Text.beginsWith start s = Text.beginsWith start t := by
    rw [Bool.eq_iff_iff, Text.beginsWith_iff, Text.beginsWith_iff, h,
      Text.prefix_append_cons_iff hstart]
  unfold isAbsolute
  rw [hbegins "http://" (by decide), hbegins "https://" (by decide)]

/-- What follows a question mark does not change where an endpoint leads. -/
theorem Settings.toList_resolve_append_question (s : Settings) {endpoint front : String}
    {more : List Char} (h : endpoint.toList = front.toList ++ '?' :: more) :
    (s.resolve endpoint).toList = (s.resolve front).toList ++ '?' :: more := by
  have hslashes : (front.toList ++ '?' :: more).dropWhile (· == '/') =
      front.toList.dropWhile (· == '/') ++ '?' :: more := by
    rw [List.dropWhile_append]
    split
    · rename_i hempty
      rw [List.isEmpty_iff.1 hempty]
      rfl
    · rfl
  unfold resolve
  rw [Client.isAbsolute_append_question h]
  split
  · exact h
  · rw [String.toList_append, String.toList_append, Text.trimStartSlashes, Text.trimStartSlashes,
      Text.toList_trimStart, Text.toList_trimStart, h, hslashes, List.append_assoc]

/-- The request for a page that a gateway's settings lead to. -/
def Settings.pageRequest (s : Settings) (endpoint authorization : String) : DataRequest :=
  ⟨s.resolve endpoint, .null, [("x-api-key", s.apiKey)], authorization, 60.0, s.verify⟩

/-! ## Closing -/

theorem Client.log_close (c : Client) (net : Network) : (c.close net).log = net.log := by
  unfold close Authenticator.close
  cases c.authenticator <;> rfl

theorem Connection.log_close (conn : Connection) (net : Network) :
    (conn.close net).2.log = net.log := by
  unfold close
  cases conn.current with
  | none => rfl
  | some c => exact c.log_close net

namespace Gateway

/-! ## Running a form -/

/-- Whether a gateway lets a request to run a form pass. -/
structure Admitted (g : Gateway) (r : Request) (form : Form) : Prop where
  /-- It goes to the endpoint that runs forms. -/
  target : Endpoint.ofTarget? r.target = some .run
  /-- It has the method of that endpoint. -/
  method : r.method = .post
  /-- It carries the key and a valid form. -/
  form : r.form g = .ok form

variable {g : Gateway} {env : Environment} {r : Request} {form : Form} {conn : Connection}

/-- A request that a gateway lets pass is answered by running its form. -/
theorem answer_of_admitted (h : Admitted g r form) (env : Environment) (net : Network) :
    answer g env r net = run g env form net := by
  have hmethod : (r.method != Endpoint.run.method) = false := by
    rw [h.method]
    rfl
  unfold answer
  simp [h.target, hmethod, h.form]

/-- What a form finds takes the attempt at the page of its query, and others only after that was
authorized. -/
theorem exists_leaves_collect (c : Client) (form : Form) (q : Query) (limit : Value)
    (net : Network) :
    ∃ attempts, attempts.head? = c.queryAttempt? q ∧
      (attempts.tail = [] ∨ ∃ header, c.authenticator.authorization net.tokenAnswers = .ok header) ∧
      c.Leaves net attempts (collect c form q limit net).2 := by
  have hwalk := c.exists_leaves_walk q Client.keepRecords limit [] net
  rw [← Client.readAll_snd] at hwalk
  obtain ⟨attempts, hhead, -, htail, hleaves⟩ := hwalk
  have hsingle : (c.queryAttempt? q).toList.head? = c.queryAttempt? q ∧
      (c.queryAttempt? q).toList.tail = [] := by
    cases c.queryAttempt? q <;> exact ⟨rfl, rfl⟩
  unfold collect
  split
  · exact ⟨attempts, hhead, htail, hleaves⟩
  · exact ⟨attempts, hhead, htail, hleaves⟩
  · exact ⟨_, hsingle.1, Or.inl hsingle.2, c.leaves_entities q _ net⟩

/-- The request for data that answering a request sends first. -/
def firstRequest? (g : Gateway) (env : Environment) (r : Request) (net : Network) :
    Option DataRequest :=
  ((answer g env r net).2.log.drop net.log.length).findSome? Sent.data?

/-- A connection that was just set up reaches a client that its settings describe, and that takes no
answer to be set up. -/
theorem exists_reached (hconn : g.connect env = .ok conn) (net : Network) :
    ∃ c opened, conn.client net = ⟨.ok c, { conn with current := some c }, opened⟩ ∧
      conn.settings.Describes c ∧ c.timeout = 60.0 ∧ opened.log = net.log ∧
      opened.tokenAnswers = net.tokenAnswers ∧ opened.dataAnswers = net.dataAnswers := by
  obtain ⟨hcurrent, htimeout, -⟩ := settings_of_connect hconn
  obtain ⟨c, opened, hclient, hreached⟩ := Settings.exists_client htimeout net
  refine ⟨c, opened, ?_, hreached⟩
  rw [Connection.client, hcurrent]
  simp only [hclient]

/-- The client that the settings of a gateway's connection describe resolves endpoints as they
do. -/
theorem resolve_of_describes (hconn : g.connect env = .ok conn) {c : Client}
    (h : conn.settings.Describes c) (endpoint : String) :
    c.resolve endpoint = conn.settings.resolve endpoint := by
  obtain ⟨-, -, hbase⟩ := settings_of_connect hconn
  exact h.resolve_eq hbase endpoint

/-- A connection that was just set up runs a form through a client that its settings describe, which
takes no answer to be set up. -/
theorem exists_runThrough (hconn : g.connect env = .ok conn) (net : Network) :
    ∃ c opened, conn.settings.Describes c ∧ c.timeout = 60.0 ∧ opened.log = net.log ∧
      opened.tokenAnswers = net.tokenAnswers ∧ opened.dataAnswers = net.dataAnswers ∧
      ∀ form q limit, (runThrough conn form q limit net).1 =
          replyTo q (collect c form q limit opened).1 ∧
        (runThrough conn form q limit net).2.log = (collect c form q limit opened).2.log := by
  obtain ⟨c, opened, hreached, hdescribes, hlimit, hlog, htokens, hanswers⟩ :=
    exists_reached hconn net
  refine ⟨c, opened, hdescribes, hlimit, hlog, htokens, hanswers, fun form q limit => ?_⟩
  unfold runThrough
  rw [hreached]
  exact ⟨rfl, Connection.log_close _ _⟩

/-- A connection that was just set up asks first for the page of the query, if the query has an
address and the request is authorized. -/
theorem firstData_runThrough (hconn : g.connect env = .ok conn) (form : Form) (q : Query)
    (limit : Value) (net : Network) :
    ((runThrough conn form q limit net).2.log.drop net.log.length).findSome? Sent.data? =
      q.address.toOption.bind fun endpoint =>
        (conn.settings.authorization net.tokenAnswers).toOption.map
          (conn.settings.pageRequest endpoint) := by
  obtain ⟨c, opened, hdescribes, hlimit, hlog, htokens, -, hruns⟩ := exists_runThrough hconn net
  obtain ⟨attempts, hhead, htail, hleaves⟩ := exists_leaves_collect c form q limit opened
  have hadded : (runThrough conn form q limit net).2.log =
      net.log ++ c.entries attempts net.tokenAnswers := by
    rw [(hruns form q limit).2, hleaves.log, hlog, htokens]
  have hrequest (endpoint : String) : c.request (c.pageAttempt endpoint) =
      conn.settings.pageRequest endpoint := by
    funext authorization
    unfold Client.request Client.pageAttempt Settings.pageRequest
    rw [resolve_of_describes hconn hdescribes, hdescribes.apiKey, hdescribes.verify, hlimit]
  rw [htokens] at htail
  rw [hadded, List.drop_left, Client.findSome?_entries htail, hhead, hdescribes.authorization,
    Client.queryAttempt?]
  cases q.address with
  | error cause => rfl
  | ok endpoint => exact congrArg (Option.map · _) (hrequest endpoint)

/-- **What is asked for first.** A request that a gateway lets pass makes it ask for the page of the
form's query, provided that the page size and the number of pages can be capped, the query has an
address, and the request is authorized. -/
theorem firstRequest?_eq_some_iff (h : Admitted g r form) (hconn : g.connect env = .ok conn)
    {net : Network} {request : DataRequest} :
    firstRequest? g env r net = some request ↔
      (∃ limit, g.maxPages.lesser form.maxPages = .ok limit) ∧
        ∃ q endpoint authorization, form.query g.maxTop = .ok q ∧ q.address = .ok endpoint ∧
          conn.settings.authorization net.tokenAnswers = .ok authorization ∧
          request = conn.settings.pageRequest endpoint authorization := by
  have hnone : (net.log.drop net.log.length).findSome? Sent.data? ≠ some request := by
    simp
  unfold firstRequest?
  rw [answer_of_admitted h, run]
  cases hquery : form.query g.maxTop with
  | error cause =>
    refine iff_of_false hnone ?_
    rintro ⟨-, q, endpoint, authorization, hq, -⟩
    cases hq
  | ok q =>
    cases hlimit : g.maxPages.lesser form.maxPages with
    | error cause =>
      refine iff_of_false hnone ?_
      rintro ⟨⟨limit, hok⟩, -⟩
      cases hok
    | ok limit =>
      simp only [hconn]
      rw [firstData_runThrough hconn]
      constructor
      · intro hfirst
        obtain ⟨endpoint, hendpoint, hauthorized⟩ := Option.bind_eq_some_iff.1 hfirst
        obtain ⟨authorization, hauthorization, hrequest⟩ := Option.map_eq_some_iff.1 hauthorized
        exact ⟨⟨limit, rfl⟩, q, endpoint, authorization, rfl, toOption_eq_some_iff.1 hendpoint,
          toOption_eq_some_iff.1 hauthorization, hrequest.symm⟩
      · rintro ⟨-, _, endpoint, authorization, ⟨⟩, hendpoint, hauthorization, rfl⟩
        rw [hendpoint, hauthorization]
        rfl

/-! ## Submitting a form -/

/-- A request to run the form that a text spells. -/
def Request.submitting (key text : String) : Request where
  method := .post
  target := "/query"
  headers := [(Request.keyHeader, key)]
  body := Encoding.Utf8.encode text

/-- The key that goes with a form is carried. -/
theorem key?_submitting (key text : String) : (Request.submitting key text).key? = some key := by
  simp [Request.key?, Request.submitting, Headers.find?, Headers.sameName]

/-- A text that spells an object is read as one. -/
theorem document_submitting {text : String} {members : Members} (key : String)
    (htext : Payload.spells text members = true) :
    (Request.submitting key text).document = .ok (some (.object members)) := by
  have hempty : (Json.decodeBytes []).isOk = false := by decide +kernel
  have hdecode : Json.decodeBytes (Encoding.Utf8.encode text) = .ok (.object members) :=
    Payload.ofDocument_eq_ok_iff.1 (Payload.decode_of_spells htext)
  have hbody : (Encoding.Utf8.encode text).isEmpty = false := by
    cases hbytes : Encoding.Utf8.encode text with
    | nil =>
      rw [hbytes] at hdecode
      rw [hdecode] at hempty
      cases hempty
    | cons byte rest => rfl
  simp [Request.document, Request.submitting, hbody, hdecode]

theorem ofTarget?_submitting (key text : String) :
    Endpoint.ofTarget? (Request.submitting key text).target = some .run :=
  (by decide +kernel : Endpoint.ofTarget? "/query" = some .run)

/-- A request with the key and a text that spells a valid form passes. -/
theorem admitted_submitting {key text : String} {members : Members} (hkey : g.admits key = true)
    (htext : Payload.spells text members = true)
    (hform : Form.ofDocument (.object members) = .ok form) :
    Admitted g (Request.submitting key text) form := by
  refine ⟨ofTarget?_submitting key text, rfl, ?_⟩
  have hdocument := document_submitting key htext
  have hcheck : (Request.submitting key text).checkKey = .ok key := by
    rw [Request.checkKey, key?_submitting]
  simp [Request.form, hdocument, hcheck, hkey, Request.checkForm, hform, Checked.under, bind,
    Except.bind]

/-- Whether a text that is submitted as a form makes a gateway ask for an address first. -/
def AsksFirst (g : Gateway) (text url : String) : Prop :=
  ∃ key form request, Admitted g (Request.submitting key text) form ∧
    firstRequest? g [] (Request.submitting key text) (Network.ofAnswers [] []) = some request ∧
    request.url = url

/-- A text that spells a valid form makes a gateway ask first for the address of the form's
query. -/
theorem asksFirst_of_form {text url authorization : String} {members : Members} {q : Query}
    (key endpoint : String) (hkey : g.admits key = true)
    (htext : Payload.spells text members = true)
    (hform : Form.ofDocument (.object members) = .ok form) (hconn : g.connect [] = .ok conn)
    (hlimit : ∃ limit, g.maxPages.lesser form.maxPages = .ok limit)
    (hq : form.query g.maxTop = .ok q) (hendpoint : q.address = .ok endpoint)
    (hauthorization : conn.settings.authorization [] = .ok authorization)
    (hurl : conn.settings.resolve endpoint = url) : g.AsksFirst text url := by
  have hadmitted : Admitted g (Request.submitting key text) form :=
    admitted_submitting hkey htext hform
  have hfirst : firstRequest? g [] (Request.submitting key text) (Network.ofAnswers [] []) =
      some (conn.settings.pageRequest endpoint authorization) :=
    (firstRequest?_eq_some_iff hadmitted hconn).2
      ⟨hlimit, q, endpoint, authorization, hq, hendpoint, hauthorization, rfl⟩
  exact ⟨key, form, _, hadmitted, hfirst, hurl⟩

end Gateway

end OData
