import OData.Proofs.Client.Resolution
import OData.Proofs.Connection.Sessions
import OData.Proofs.Gateway.FirstRequest
import OData.Proofs.Query.ReadBack

/-!
# Slashes where addresses are joined

The address of the service, the resource of a query and the endpoint that a client requests are
trimmed each on its own before they are joined.

* **The address that is asked** (`execute_across_slashes`): the service's address without the
  slashes at its end, one slash, the resource without the slashes at its ends, and what the query
  adds; so a run stays the same when slashes are added or removed there.
* **From the parts of it** (`Client.execute_congr`, `Settings.execute_congr`,
  `Overrides.execute_congr`): each layer leaves what it was given to the one below.
* **Resolving twice** (`Config.resolve_resolve_iff`): an address that was resolved resolves to
  itself if the service's address names a host.
-/

namespace OData

/-! ## The address of a query -/

namespace Query

variable {q : Query} {resource : String}

/-- What the address of a query adds to its resource: the options and the filter. -/
def suffix (q : Query) : Except Fault String := do
  let options ← q.options.render
  .ok (assemble "" options q.filter.expression)

/-- An address is the resource without the slashes at its end, and what the query adds. -/
theorem address_eq_map_suffix (hbase : q.base = .text resource) :
    q.address = q.suffix.map (Text.trimEndSlashes resource ++ ·) := by
  unfold address suffix
  rw [hbase]
  cases q.options.render with
  | error cause => rfl
  | ok options =>
    have hassemble (front : String) : assemble front options q.filter.expression =
        front ++ assemble "" options q.filter.expression := by
      simp only [assemble_eq, String.empty_append, String.append_assoc]
    exact congrArg Except.ok (hassemble _)

/-- What a query adds is nothing, or it begins with a question mark. -/
theorem suffix_cases {added : String} (h : q.suffix = .ok added) :
    added = "" ∨ ∃ more, added.toList = '?' :: more := by
  obtain ⟨options, -, hadded⟩ := bind_eq_ok_iff.1 h
  obtain rfl := Except.ok.inj hadded
  by_cases hoptions : options = "" <;> by_cases hfilter : q.filter.expression = "" <;>
    simp [assemble_eq, hoptions, hfilter]

/-- A call does to a query with another resource what it does to the query. -/
theorem run_with_base (q : Query) (base : Value) (call : Call) :
    ({ q with base := base } : Query).run call =
      (q.run call).map fun next => { next with base := base } := by
  have hfilter (c : Filter.Call) : ({ q with base := base } : Query).runFilter c =
      (q.runFilter c).map fun next => { next with base := base } := by
    unfold runFilter
    cases q.filter.run c <;> rfl
  cases call with
  | option c =>
    simp only [run]
    cases q.options.run c <;> rfl
  | filter c => exact hfilter c
  | addFilter field operator value logical function => exact hfilter _

/-- Calls do to a query with another resource what they do to the query. -/
theorem after_with_base (q : Query) (base : Value) (calls : List Call) :
    ({ q with base := base } : Query).after calls = { q.after calls with base := base } := by
  induction calls generalizing q with
  | nil => rfl
  | cons call rest ih =>
    have hnext :
        (({ q with base := base } : Query).run call).toOption.getD { q with base := base } =
          { (q.run call).toOption.getD q with base := base } := by
      rw [run_with_base]
      cases q.run call <;> rfl
    show Query.after ((({ q with base := base } : Query).run call).toOption.getD _) rest = _
    rw [hnext, ih]
    rfl

/-- What calls add does not depend on the resource. -/
theorem suffix_after (base other : Value) (calls : List Call) :
    ((ofBase other).after calls).suffix = ((ofBase base).after calls).suffix := by
  have hafter := after_with_base (ofBase base) other calls
  have hbase : ({ ofBase base with base := other } : Query) = ofBase other := rfl
  rw [hbase] at hafter
  rw [hafter]
  rfl

end Query

/-! ## Requests -/

namespace Client

variable {c : Client}

/-- A query is requested at the address that its own resolves to. -/
theorem execute_eq (q : Query) (net : Network) :
    c.execute q net = match q.address.map c.resolve with
      | .ok url => (payloadOf (c.exchange url .null [("x-api-key", c.apiKey)] net).1,
          (c.exchange url .null [("x-api-key", c.apiKey)] net).2)
      | .error cause => (.error (.argument cause), net) := by
  unfold execute
  cases q.address <;> rfl

theorem execute_congr {q r : Query} (h : q.address.map c.resolve = r.address.map c.resolve)
    (net : Network) : c.execute q net = c.execute r net := by
  rw [execute_eq, h, ← execute_eq]

/-- A query that has an address is asked for there if the request is authorized. -/
theorem asked_execute {q : Query} {endpoint header : String} {net : Network}
    (haddress : q.address = .ok endpoint)
    (hheader : c.authenticator.authorization net.tokenAnswers = .ok header) :
    (c.execute q net).2.asked = net.asked ++ [c.resolve endpoint] := by
  rw [← Authenticator.authorize_fst] at hheader
  rw [execute, haddress]
  exact (page_of_authorized hheader endpoint).2.asked

/-- Otherwise it is not asked for. -/
theorem asked_execute_of_not {q : Query} {net : Network}
    (h : ¬ ((∃ header, c.authenticator.authorization net.tokenAnswers = .ok header) ∧
      ∃ endpoint, q.address = .ok endpoint)) :
    (c.execute q net).2.asked = net.asked := by
  unfold execute
  cases haddress : q.address with
  | error cause => rfl
  | ok endpoint =>
    cases hheader : (c.authenticator.authorize net).1 with
    | error failure =>
      show (c.page endpoint net).2.asked = net.asked
      rw [page_of_refused hheader]
      exact c.authenticator.asked_authorize net
    | ok header =>
      rw [Authenticator.authorize_fst] at hheader
      exact absurd ⟨⟨header, hheader⟩, endpoint, haddress⟩ h

end Client

namespace Settings

variable {s : Settings} {q r : Query}

/-- Whether a request with these settings is sent when these answers to requests for tokens are to
come: the client can be set up, and the request is authorized. -/
def Authorizes (s : Settings) (tokens : List Answer) : Prop :=
  (∃ limit, s.timeout.toFloat = .ok limit) ∧ ∃ header, s.authorization tokens = .ok header

/-- A query for a relative resource resolves to the service's address, the resource without the
slashes at its ends, and what the query adds. -/
theorem map_resolve_address (s : Settings) {resource : String} (hbase : q.base = .text resource)
    (hrelative : Client.isAbsolute (Text.trimSlashes resource) = false) :
    q.address.map s.resolve = q.suffix.map (s.baseUrl ++ Text.trimSlashes resource ++ ·) := by
  have hfront : s.resolve (Text.trimEndSlashes resource) =
      s.baseUrl ++ Text.trimSlashes resource := by
    rw [resolve, Client.isAbsolute_trimEndSlashes hrelative]
    rfl
  rw [Query.address_eq_map_suffix hbase]
  cases hsuffix : q.suffix with
  | error cause => rfl
  | ok added =>
    refine congrArg Except.ok ?_
    dsimp only
    rcases Query.suffix_cases hsuffix with rfl | ⟨more, hmore⟩
    · rw [String.append_empty, String.append_empty, hfront]
    · have hshape : (Text.trimEndSlashes resource ++ added).toList =
          (Text.trimEndSlashes resource).toList ++ '?' :: more := by
        rw [String.toList_append, hmore]
      rw [← String.toList_inj, s.toList_resolve_append_question hshape, hfront]
      simp only [String.toList_append, hmore]

end Settings

namespace Connection

variable {s : Settings} {q r : Query} {v : Value}

/-- Requests the page of a query through a connection, whose client is set up if there is none. -/
def execute (conn : Connection) (q : Query) (net : Network) :
    Except Failure Members × Network :=
  match (conn.client net).client with
  | .ok c => c.execute q (conn.client net).network
  | .error failure => (.error failure, (conn.client net).network)

/-- A connection that was just made runs queries alike that resolve to the same address. -/
theorem execute_congr (hbase : Config.baseOf v = .ok s.baseUrl)
    (h : q.address.map s.resolve = r.address.map s.resolve) (net : Network) :
    (ofSettings s).execute q net = (ofSettings s).execute r net := by
  have hnone : (ofSettings s).current = none := rfl
  unfold execute
  rcases client_of_none hnone net with ⟨c, opened, hclient, hreached⟩ | ⟨failure, -, hreached⟩
  · obtain ⟨hdescribes, -⟩ := Settings.describes_of_client hclient
    have hresolve : c.resolve = s.resolve := funext (hdescribes.resolve_eq hbase)
    rw [hreached]
    refine c.execute_congr ?_ opened
    rw [hresolve, h]
  · rw [hreached]

/-- A connection that was just made asks for a query that has an address if the request is
authorized. -/
theorem asked_execute (hbase : Config.baseOf v = .ok s.baseUrl) {net : Network}
    (hauthorizes : s.Authorizes net.tokenAnswers) {endpoint : String}
    (haddress : q.address = .ok endpoint) :
    ((ofSettings s).execute q net).2.asked = net.asked ++ [s.resolve endpoint] := by
  obtain ⟨hlimit, header, hheader⟩ := hauthorizes
  obtain ⟨⟨c, opened⟩, hclient⟩ := (s.exists_client_iff net).2 hlimit
  obtain ⟨hdescribes, -, hlog, htokens, -⟩ := Settings.describes_of_client hclient
  have hreached : (ofSettings s).client net = ⟨.ok c, ⟨s, some c⟩, opened⟩ := by
    simp [client, ofSettings, hclient]
  have hopened : opened.asked = net.asked := congrArg (List.filterMap Sent.url?) hlog
  have hauthorized : c.authenticator.authorization opened.tokenAnswers = .ok header := by
    rw [hdescribes.authorization, htokens, hheader]
  unfold execute
  rw [hreached]
  show (c.execute q opened).2.asked = _
  rw [Client.asked_execute haddress hauthorized, hopened, hdescribes.resolve_eq hbase]

/-- Otherwise it does not ask for it. -/
theorem asked_execute_of_not {net : Network}
    (h : ¬ (s.Authorizes net.tokenAnswers ∧ ∃ endpoint, q.address = .ok endpoint)) :
    ((ofSettings s).execute q net).2.asked = net.asked := by
  have hnone : (ofSettings s).current = none := rfl
  unfold execute
  rcases client_of_none hnone net with ⟨c, opened, hclient, hreached⟩ | ⟨failure, -, hreached⟩
  · obtain ⟨hdescribes, hlimit, hlog, htokens, -⟩ := Settings.describes_of_client hclient
    have hopened : opened.asked = net.asked := congrArg (List.filterMap Sent.url?) hlog
    rw [hreached]
    show (c.execute q opened).2.asked = _
    rw [Client.asked_execute_of_not, hopened]
    rintro ⟨⟨header, hheader⟩, haddress⟩
    rw [hdescribes.authorization, htokens] at hheader
    exact h ⟨⟨⟨c.timeout, hlimit⟩, header, hheader⟩, haddress⟩
  · rw [hreached]

end Connection

/-! ## The address of the service -/

/-- A setting is looked up alike in environments that agree on its variable. -/
theorem Environment.resolve_congr {env other : Environment} {name : String}
    (h : other.lookup name = env.lookup name) (argument : Value) (fallback : String) :
    other.resolve argument name fallback = env.resolve argument name fallback := by
  unfold resolve get
  rw [h]

namespace Overrides

variable {args : Overrides} {env other : Environment} {given : Value} {base address : String}

/-- Sets up a connection and requests the page of a query through it. -/
def execute (args : Overrides) (env : Environment) (q : Query) (net : Network) :
    Except Failure Members × Network :=
  match Connection.establish args env with
  | .ok conn => conn.execute q net
  | .error failure => (.error failure, net)

/-- Whether arguments and variables make settings with which a request is sent. -/
def Authorizes (args : Overrides) (env : Environment) (tokens : List Answer) : Prop :=
  ∃ s, args.resolve env = .ok s ∧ s.Authorizes tokens

/-- The settings are the same if the address of the service is, but for slashes at its end, wherever
it is taken from. -/
theorem resolve_congr (hbase : env.resolve args.baseUrl "ODATA_BASE_URL" "" = .text base)
    (haddress : other.resolve given "ODATA_BASE_URL" "" = .text address)
    (hother : ∀ name, name ≠ "ODATA_BASE_URL" → other.lookup name = env.lookup name)
    (h : Text.SameButEndSlashes base address) :
    ({ args with baseUrl := given } : Overrides).resolve other = args.resolve env := by
  have hlookup (argument : Value) (name fallback : String) (hname : name ≠ "ODATA_BASE_URL") :
      other.resolve argument name fallback = env.resolve argument name fallback :=
    Environment.resolve_congr (hother name hname) argument fallback
  have hcredentials : ({ args with baseUrl := given } : Overrides).credentials other =
      args.credentials env := by
    unfold credentials
    rw [hlookup _ _ _ (by decide), hlookup _ _ _ (by decide), hlookup _ _ _ (by decide)]
  have hverification : ({ args with baseUrl := given } : Overrides).verification other =
      args.verification env := by
    unfold verification Environment.get
    rw [hother _ (by decide)]
  unfold resolve
  rw [hcredentials, hverification, haddress, hbase, Config.baseOf, Config.baseOf,
    Text.sameButEndSlashes_iff.1 h, hlookup _ _ _ (by decide), hlookup _ _ _ (by decide),
    hlookup _ _ _ (by decide)]

theorem execute_of_resolve {s : Settings} (h : args.resolve env = .ok s) (q : Query)
    (net : Network) : args.execute env q net = (Connection.ofSettings s).execute q net := by
  unfold execute Connection.establish
  rw [h]
  rfl

theorem execute_of_incomplete {failure : Failure} (h : args.resolve env = .error failure)
    (q : Query) (net : Network) : args.execute env q net = (.error failure, net) := by
  unfold execute Connection.establish
  rw [h]
  rfl

/-- The settings keep the address of the service with one slash at its end. -/
theorem baseUrl_of_resolve (hbase : env.resolve args.baseUrl "ODATA_BASE_URL" "" = .text base)
    {s : Settings} (h : args.resolve env = .ok s) :
    s.baseUrl = Text.trimEndSlashes base ++ "/" := by
  obtain ⟨kept, credentials, hkept, -, -, rfl⟩ := resolve_eq_ok_iff.1 h
  rw [hbase] at hkept
  exact (Except.ok.inj hkept).symm

/-- Two runs are the same if their settings are, and their queries resolve to the same address. -/
theorem execute_congr {varied : Overrides} {q r : Query}
    (hbase : env.resolve args.baseUrl "ODATA_BASE_URL" "" = .text base)
    (hsettings : varied.resolve other = args.resolve env)
    (h : ∀ s : Settings, q.address.map s.resolve = r.address.map s.resolve) (net : Network) :
    varied.execute other r net = args.execute env q net := by
  cases hs : args.resolve env with
  | error failure =>
    rw [execute_of_incomplete hs, execute_of_incomplete (hsettings.trans hs)]
  | ok s =>
    have hkept : Config.baseOf (.text base) = .ok s.baseUrl :=
      congrArg Except.ok (baseUrl_of_resolve hbase hs).symm
    rw [execute_of_resolve hs, execute_of_resolve (hsettings.trans hs),
      Connection.execute_congr hkept (h s)]

variable {q : Query} {resource : String} {net : Network}

/-- A query for a relative resource is asked for at the address that is put together from the
service's, the resource and what the query adds, if the request is authorized. -/
theorem asked_execute (hbase : env.resolve args.baseUrl "ODATA_BASE_URL" "" = .text base)
    (hq : q.base = .text resource)
    (hrelative : Client.isAbsolute (Text.trimSlashes resource) = false)
    (hauthorizes : args.Authorizes env net.tokenAnswers) {added : String}
    (hadded : q.suffix = .ok added) :
    (args.execute env q net).2.asked = net.asked ++
      [Text.trimEndSlashes base ++ "/" ++ Text.trimSlashes resource ++ added] := by
  obtain ⟨s, hs, hauthorizes⟩ := hauthorizes
  have hkept := baseUrl_of_resolve hbase hs
  have hresolved := s.map_resolve_address hq hrelative
  rw [hadded] at hresolved
  obtain ⟨endpoint, hendpoint, hurl⟩ := map_eq_ok_iff.1 hresolved
  have hbaseOf : Config.baseOf (.text base) = .ok s.baseUrl := congrArg Except.ok hkept.symm
  rw [execute_of_resolve hs, Connection.asked_execute hbaseOf hauthorizes hendpoint, hurl, hkept]

/-- Otherwise it is not asked for. -/
theorem asked_execute_of_not (hq : q.base = .text resource)
    (h : ¬ (args.Authorizes env net.tokenAnswers ∧ ∃ added, q.suffix = .ok added)) :
    (args.execute env q net).2.asked = net.asked := by
  cases hs : args.resolve env with
  | error failure => rw [execute_of_incomplete hs]
  | ok s =>
    rw [execute_of_resolve hs]
    refine Connection.asked_execute_of_not ?_
    rintro ⟨hauthorizes, endpoint, hendpoint⟩
    rw [Query.address_eq_map_suffix hq] at hendpoint
    obtain ⟨added, hadded, -⟩ := map_eq_ok_iff.1 hendpoint
    exact h ⟨⟨s, hs, hauthorizes⟩, added, hadded⟩

end Overrides

namespace Config

/-- Whether a configuration is for the address of a service, with any number of slashes at its
end. -/
def PointsTo (cfg : Config) (base : String) : Prop :=
  ∃ given, cfg.baseUrl = .text given ∧ Text.SameButEndSlashes base given

/-- A client keeps the address that its configuration is for, with one slash at its end. -/
theorem base_of_client {cfg : Config} {base : String} (h : cfg.PointsTo base) {c : Client}
    {net opened : Network} (hclient : cfg.client net = .ok (c, opened)) :
    c.base = Text.trimEndSlashes base ++ "/" := by
  obtain ⟨given, hgiven, hsame⟩ := h
  obtain ⟨kept, hkept, hclient⟩ := bind_eq_ok_iff.1 hclient
  obtain ⟨limit, -, hclient⟩ := bind_eq_ok_iff.1 hclient
  obtain ⟨⟨authenticator, middle⟩, -, hclient⟩ := bind_eq_ok_iff.1 hclient
  cases hclient
  rw [hgiven] at hkept
  rw [Text.sameButEndSlashes_iff.1 hsame]
  exact (Except.ok.inj (refusing_eq_ok_iff.1 hkept)).symm

/-- A client that is set up for an address of more than slashes resolves what it resolved to itself
exactly if the address names a host. -/
theorem resolve_resolve_iff {cfg : Config} {base : String} (h : cfg.PointsTo base)
    (hmore : ¬ Text.OnlySlashes base) {c : Client} {net opened : Network}
    (hclient : cfg.client net = .ok (c, opened)) :
    (∀ endpoint, c.resolve (c.resolve endpoint) = c.resolve endpoint) ↔
      Client.NamesHost base := by
  have hbase := base_of_client h hclient
  have hkept : ¬ Text.OnlySlashes c.base := by
    rw [hbase, ← Text.trimEndSlashes_eq_empty_iff, Text.trimEndSlashes_append_slash,
      Text.trimEndSlashes_eq_empty_iff]
    exact hmore
  rw [Client.resolve_resolve_iff, Client.isAbsolute_base_iff hbase, or_iff_left hkept]

/-- The configuration that settings make is for the address that they were given. -/
theorem pointsTo_of_resolve {args : Overrides} {env : Environment} {base : String}
    (hbase : env.resolve args.baseUrl "ODATA_BASE_URL" "" = .text base) {s : Settings}
    (h : args.resolve env = .ok s) : s.config.PointsTo base := by
  refine ⟨s.baseUrl, rfl, ?_⟩
  rw [Overrides.baseUrl_of_resolve hbase h, Text.sameButEndSlashes_iff,
    Text.trimEndSlashes_append_slash]

end Config

namespace Overrides

variable {args : Overrides} {env other : Environment} {given : Value}
  {base address resource path : String}

/-- **Slashes where addresses are joined do not matter.** A connection is made with an address that
is more than slashes, and a sequence of calls makes a query for a resource that, without the slashes
in front of it, is no address of its own. The run stays the same, with its result and all that it
sends, if the address is given with more or fewer slashes at its end, as an argument or a variable,
and the resource with more or fewer at its two ends. If the query can be written and the request is
authorized, it asks once, for the address without the slashes at its end, one slash, the resource
without the slashes at its ends, and what the query adds; otherwise it asks for nothing. A client of
the connection, or any other that is set up for that address, resolves what it resolved to itself,
exactly if the address names a host. -/
theorem execute_across_slashes
    (hbase : env.resolve args.baseUrl "ODATA_BASE_URL" "" = .text base)
    (hmore : ¬ Text.OnlySlashes base)
    (haddress : other.resolve given "ODATA_BASE_URL" "" = .text address)
    (hother : ∀ name, name ≠ "ODATA_BASE_URL" → other.lookup name = env.lookup name)
    (hend : Text.SameButEndSlashes base address)
    (hrelative : Client.isAbsolute (Text.trimStartSlashes resource) = false)
    (houter : Text.SameButOuterSlashes resource path) (calls : List Query.Call) (net : Network) :
    let q := (Query.ofBase (.text resource)).after calls
    let run := args.execute env q net
    ({ args with baseUrl := given } : Overrides).execute other
        ((Query.ofBase (.text path)).after calls) net = run ∧
      (∀ added, q.suffix = .ok added → args.Authorizes env net.tokenAnswers →
        run.2.asked = net.asked ++
          [Text.trimEndSlashes base ++ "/" ++ Text.trimSlashes resource ++ added]) ∧
      (¬ (args.Authorizes env net.tokenAnswers ∧ ∃ added, q.suffix = .ok added) →
        run.2.asked = net.asked) ∧
      (∀ s, args.resolve env = .ok s → s.config.PointsTo base) ∧
      ∀ (cfg : Config) (c : Client) (before opened : Network), cfg.PointsTo base →
        cfg.client before = .ok (c, opened) →
          ((∀ endpoint, c.resolve (c.resolve endpoint) = c.resolve endpoint) ↔
            Client.NamesHost base) := by
  intro q run
  have htrim : Text.trimSlashes resource = Text.trimSlashes path :=
    Text.sameButOuterSlashes_iff.1 houter
  have hcore : Client.isAbsolute (Text.trimSlashes resource) = false :=
    Client.isAbsolute_trimSlashes hrelative
  have hq : q.base = .text resource := Query.base_after _ calls
  have hsettings := resolve_congr hbase haddress hother hend
  refine ⟨execute_congr hbase hsettings (fun s => ?_) net, ?_, asked_execute_of_not hq, ?_, ?_⟩
  · rw [s.map_resolve_address hq hcore,
      s.map_resolve_address (Query.base_after _ calls) (htrim ▸ hcore), ← htrim,
      Query.suffix_after (.text resource) (.text path) calls]
  · intro added hadded hauthorizes
    exact asked_execute hbase hq hcore hauthorizes hadded
  · intro s hs
    exact Config.pointsTo_of_resolve hbase hs
  · intro cfg c before opened hpoints hclient
    exact Config.resolve_resolve_iff hpoints hmore hclient

/-- The address of the service moves from an argument to a variable and loses its slashes, and
slashes make an absolute address of a resource that is half a scheme. The run stays the same. -/
theorem execute_across_slashes_of_half_scheme :
    let args : Overrides := { baseUrl := .text "https://x/odata//", bearerToken := .text "tok" }
    let other : Environment := [("ODATA_BASE_URL", "https://x/odata")]
    let calls : List Query.Call := [.option (.top (.int 5)),
      .filter (.compare (.value (.text "City")) (.text "eq") (.text "a/") (.text "and"))]
    let run := args.execute [] ((Query.ofBase (.text "//http:/")).after calls) (.ofAnswers [] [])
    ¬ Text.OnlySlashes "https://x/odata//" ∧
      Text.SameButEndSlashes "https://x/odata//" "https://x/odata" ∧
      Client.isAbsolute (Text.trimStartSlashes "//http:/") = false ∧
      Text.SameButOuterSlashes "//http:/" "http://" ∧
      ({ args with baseUrl := .null } : Overrides).execute other
        ((Query.ofBase (.text "http://")).after calls) (.ofAnswers [] []) = run ∧
      run.2.asked = ["https://x/odata/http:?$top=5&$filter=City eq 'a/'"] ∧
      ∃ s c opened, args.resolve [] = .ok s ∧
        s.config.client (.ofAnswers [] []) = .ok (c, opened) ∧
        ∀ endpoint, c.resolve (c.resolve endpoint) = c.resolve endpoint := by
  intro args other calls run
  have hmore : ¬ Text.OnlySlashes "https://x/odata//" :=
    fun honly => absurd (honly 'h' (by decide)) (by decide)
  have hend : Text.SameButEndSlashes "https://x/odata//" "https://x/odata" :=
    Text.sameButEndSlashes_iff.2 (by decide)
  have hrelative : Client.isAbsolute (Text.trimStartSlashes "//http:/") = false := by decide
  have houter : Text.SameButOuterSlashes "//http:/" "http://" :=
    Text.sameButOuterSlashes_iff.2 (by decide)
  have hother : ∀ name, name ≠ "ODATA_BASE_URL" → other.lookup name = List.lookup name [] := by
    intro name hname
    simp [other, List.lookup_cons, beq_false_of_ne hname]
  obtain ⟨hsame, hasked, -, hpoints, hresolve⟩ :=
    @execute_across_slashes args [] other .null _ _ _ _ rfl hmore rfl hother hend hrelative houter
      calls (.ofAnswers [] [])
  have hadded : ((Query.ofBase (.text "//http:/")).after calls).suffix =
      .ok "?$top=5&$filter=City eq 'a/'" := rfl
  have hs : args.resolve [] = .ok _ := rfl
  have hhost : Client.NamesHost "https://x/odata//" := by
    refine ⟨"https://", "x/odata//", Or.inr rfl, rfl, fun honly => ?_⟩
    exact absurd (honly 'x' (by decide)) (by decide)
  refine ⟨hmore, hend, hrelative, houter, hsame, ?_, _, _, _, hs, rfl, ?_⟩
  · exact (hasked _ hadded ⟨_, hs, ⟨_, rfl⟩, _, rfl⟩).trans (by decide)
  · exact (hresolve _ _ _ _ (hpoints _ hs) rfl).2 hhost

end Overrides

end OData
