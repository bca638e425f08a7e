import OData.Proofs.Client.Secrets
import OData.Proofs.Gateway.FirstRequest

/-!
# What a gateway does with its secrets

A gateway's key for the service, its client's secret and its token never reach those who use it.

* **Two gateways** (`answerAll_sameButSecrets`): if they differ in secrets alone, they give the same
  replies to the same requests and ask the same addresses, whatever tokens their services bring.
* **One request** (`sameOutcome_answer`): the replies are the same and the networks stay related,
  from which all requests follow by induction.
-/

namespace OData

variable {net other : Network}

/-! ## Settings -/

/-- Credentials that are the same but for a token or a secret. -/
inductive Credentials.SameButSecrets : Credentials → Credentials → Prop where
  /-- Each is a token. -/
  | token {v w : Value} (h : v.SameButSecret w) : SameButSecrets (.token v) (.token w)
  /-- Each is a name and a secret. -/
  | client (name secret other : Value) : SameButSecrets (.client name secret) (.client name other)

/-- Values that are the same but for a secret both count as present, or neither does. -/
theorem Value.SameButSecret.truthy_eq {v w : Value} (h : v.SameButSecret w) :
    v.truthy = w.truthy := by
  rcases h with rfl | ⟨s, t, rfl, hs, rfl, ht⟩
  · rfl
  · exact (bne_iff_ne.2 hs).trans (bne_iff_ne.2 ht).symm

/-- What stands for an absent value is the same for both. -/
theorem Environment.resolve_sameButSecret (env : Environment) {v w : Value}
    (h : v.SameButSecret w) (name fallback : String) :
    (env.resolve v name fallback).SameButSecret (env.resolve w name fallback) := by
  unfold resolve Value.orElse
  rw [h.truthy_eq]
  split
  · exact h
  · exact Or.inl rfl

/-- The same kind of credentials is chosen. -/
theorem Credentials.choose_sameButSecrets {token token' secret secret' : Value}
    (htoken : token.SameButSecret token') (hsecret : secret.SameButSecret secret')
    (name : Value) :
    choose token name secret = none ∧ choose token' name secret' = none ∨
      ∃ k l, choose token name secret = some k ∧ choose token' name secret' = some l ∧
        k.SameButSecrets l := by
  unfold choose
  rw [htoken.truthy_eq, hsecret.truthy_eq]
  split
  · exact Or.inr ⟨_, _, rfl, rfl, .token htoken⟩
  · split
    · exact Or.inr ⟨_, _, rfl, rfl, .client name secret secret'⟩
    · exact Or.inl ⟨rfl, rfl⟩

/-- Whether settings are the same but for secrets, with the usual time limit. -/
structure Settings.SameButSecrets (s t : Settings) : Prop where
  /-- The address of the service is the same. -/
  baseUrl : s.baseUrl = t.baseUrl
  /-- The credentials are of the same kind. -/
  credentials : s.credentials.SameButSecrets t.credentials
  /-- Both have the usual time limit. -/
  timeout : s.timeout = .float 60.0 ∧ t.timeout = .float 60.0

/-- Settings that are the same but for secrets set up clients that are. -/
theorem Settings.exists_clients {s t : Settings} (h : s.SameButSecrets t)
    (hnet : net.SameButSecrets other) :
    ∃ c d left right, s.config.client net = .ok (c, left) ∧ t.config.client other = .ok (d, right) ∧
      c.SameButSecrets d ∧ left.SameButSecrets right := by
  obtain ⟨hbase, hcredentials, hs, ht⟩ := h
  obtain ⟨baseUrl, apiKey, credentials, tokenUrl, scope, verify, timeout⟩ := s
  obtain ⟨baseUrl', apiKey', credentials', tokenUrl', scope', verify', timeout'⟩ := t
  obtain rfl : timeout = .float 60.0 := hs
  obtain rfl : timeout' = .float 60.0 := ht
  obtain rfl : baseUrl = baseUrl' := hbase
  obtain ⟨hdata, htokens, hasked⟩ := hnet
  cases hcredentials with
  | token h => exact ⟨_, _, _, _, rfl, rfl, ⟨rfl, .bearer h⟩, hdata, htokens, hasked⟩
  | client name secret secret' =>
    exact ⟨_, _, _, _, rfl, rfl, ⟨rfl, .client _ _⟩, hdata, htokens, hasked⟩

namespace Gateway

/-! ## Gateways -/

/-- Whether two gateways are the same but for the key for the service, a secret and a token. -/
structure SameButSecrets (g k : Gateway) : Prop where
  /-- The address of the service is the same. -/
  baseUrl : g.baseUrl = k.baseUrl
  /-- The client's name is the same. -/
  clientId : g.clientId = k.clientId
  /-- The client's secret is the same, or each has one. -/
  clientSecret : g.clientSecret.SameButSecret k.clientSecret
  /-- The token is the same, or each has one. -/
  bearerToken : g.bearerToken.SameButSecret k.bearerToken
  /-- The key of the gateway itself is the same. -/
  gatewayKey : g.gatewayKey = k.gatewayKey
  /-- The cap on the page size is the same. -/
  maxTop : g.maxTop = k.maxTop
  /-- The cap on the number of pages is the same. -/
  maxPages : g.maxPages = k.maxPages

variable {g k : Gateway}

/-- Gateways that are the same but for secrets set up connections that are, or fail in the same
way. -/
theorem connect_sameButSecrets (h : g.SameButSecrets k) (env : Environment) :
    (∃ failure, g.connect env = .error failure ∧ k.connect env = .error failure) ∨
      ∃ s t : Settings, g.connect env = .ok (.ofSettings s) ∧ k.connect env = .ok (.ofSettings t) ∧
        s.SameButSecrets t := by
  have htoken := env.resolve_sameButSecret h.bearerToken "ODATA_BEARER_TOKEN" ""
  have hsecret := env.resolve_sameButSecret h.clientSecret "ODATA_CLIENT_SECRET" ""
  have hchosen := Credentials.choose_sameButSecrets htoken hsecret
    (env.resolve k.clientId "ODATA_CLIENT_ID" "")
  unfold connect Connection.establish Overrides.resolve Overrides.credentials
  simp only [overrides, h.baseUrl, h.clientId]
  cases refusing (Config.baseOf (env.resolve k.baseUrl "ODATA_BASE_URL" "")) with
  | error failure => exact Or.inl ⟨failure, rfl, rfl⟩
  | ok base =>
    simp only [bind, Except.bind]
    split
    · exact Or.inl ⟨_, rfl, rfl⟩
    · rcases hchosen with ⟨hg, hk⟩ | ⟨first, second, hg, hk, hsame⟩
      · rw [hg, hk]
        exact Or.inl ⟨_, rfl, rfl⟩
      · rw [hg, hk]
        exact Or.inr ⟨_, _, rfl, rfl, rfl, hsame, rfl, rfl⟩

theorem sameOutcome_collect {c d : Client} (h : c.SameButSecrets d)
    (hnet : net.SameButSecrets other) (form : Form) (q : Query) (limit : Value) :
    SameOutcome (collect c form q limit net) (collect d form q limit other) := by
  unfold collect
  split
  · exact Client.sameOutcome_readAll h hnet q limit
  · exact Client.sameOutcome_readAll h hnet q limit
  · exact Client.sameOutcome_entities h hnet q _

/-- A form that is run through connections that are the same but for secrets gets the same reply. -/
theorem sameOutcome_runThrough {s t : Settings} (h : s.SameButSecrets t)
    (hnet : net.SameButSecrets other) (form : Form) (q : Query) (limit : Value) :
    SameOutcome (runThrough (.ofSettings s) form q limit net)
      (runThrough (.ofSettings t) form q limit other) := by
  obtain ⟨c, d, left, right, hc, hd, hclients, hopened⟩ := Settings.exists_clients h hnet
  have hreached {s : Settings} {c : Client} {net after : Network}
      (hc : s.config.client net = .ok (c, after)) :
      runThrough (.ofSettings s) form q limit net =
        (replyTo q (collect c form q limit after).1,
          c.close (collect c form q limit after).2) := by
    unfold runThrough Connection.client Connection.ofSettings
    simp only [hc]
    rfl
  have hcollected := sameOutcome_collect hclients hopened form q limit
  rw [hreached hc, hreached hd]
  exact ⟨congrArg (replyTo q) hcollected.result,
    Client.sameButSecrets_close hcollected.network c d⟩

theorem sameOutcome_run (h : g.SameButSecrets k) (hnet : net.SameButSecrets other)
    (env : Environment) (form : Form) :
    SameOutcome (run g env form net) (run k env form other) := by
  unfold run
  rw [h.maxTop, h.maxPages]
  split
  · rcases connect_sameButSecrets h env with ⟨failure, hg, hk⟩ | ⟨s, t, hg, hk, hsame⟩
    · rw [hg, hk]
      exact ⟨rfl, hnet⟩
    · rw [hg, hk]
      exact sameOutcome_runThrough hsame hnet form _ _
  · exact ⟨rfl, hnet⟩

/-- Requests are read in the same way. -/
theorem form_sameButSecrets (h : g.SameButSecrets k) (r : Request) : r.form g = r.form k := by
  have hadmits (key : String) : g.admits key = k.admits key := by
    unfold admits
    rw [h.gatewayKey]
  unfold Request.form
  simp only [hadmits]

/-- **One request.** It gets the same reply from gateways that are the same but for secrets. -/
theorem sameOutcome_answer (h : g.SameButSecrets k) (hnet : net.SameButSecrets other)
    (env : Environment) (r : Request) :
    SameOutcome (answer g env r net) (answer k env r other) := by
  unfold answer
  rw [form_sameButSecrets h]
  split
  · exact ⟨rfl, hnet⟩
  · split
    · exact ⟨rfl, hnet⟩
    · split
      · exact ⟨rfl, hnet⟩
      · split <;> exact ⟨rfl, hnet⟩
      · split
        · exact sameOutcome_run h hnet env _
        · exact ⟨rfl, hnet⟩

/-! ## Sequences of requests -/

/-- The replies to requests that are sent to a gateway one after another, and the network after
them. -/
def answerAll (g : Gateway) (env : Environment) : List Request → Network → List Reply × Network
  | [], net => ([], net)
  | r :: rest, net =>
    let (reply, net) := answer g env r net
    let (replies, net) := answerAll g env rest net
    (reply :: replies, net)

/-- Runs of requests have the same outcome. -/
theorem sameOutcome_answerAll (h : g.SameButSecrets k) (hnet : net.SameButSecrets other)
    (env : Environment) (requests : List Request) :
    SameOutcome (answerAll g env requests net) (answerAll k env requests other) := by
  induction requests generalizing net other with
  | nil => exact ⟨rfl, hnet⟩
  | cons r rest ih =>
    obtain ⟨hreply, hafter⟩ := sameOutcome_answer h hnet env r
    obtain ⟨hreplies, hend⟩ := ih hafter
    refine ⟨?_, hend⟩
    show (answer g env r net).1 :: (answerAll g env rest (answer g env r net).2).1 =
      (answer k env r other).1 :: (answerAll k env rest (answer k env r other).2).1
    rw [hreply, hreplies]

/-- **Secrets stay with the gateway.** Whatever is requested of two gateways that are the same but
for secrets, and whatever tokens they are given, they reply the same, and they ask the same
addresses in the same order. -/
theorem answerAll_sameButSecrets (h : g.SameButSecrets k) (hnet : net.SameButSecrets other)
    (env : Environment) (requests : List Request) :
    (answerAll g env requests net).1 = (answerAll k env requests other).1 ∧
      (answerAll g env requests net).2.asked = (answerAll k env requests other).2.asked := by
  have hall := sameOutcome_answerAll h hnet env requests
  exact ⟨hall.result, hall.network.asked⟩

/-- Two gateways with keys, secrets and tokens of their own. The second request of each is not
authorized. -/
theorem answerAll_of_two_secrets :
    let g := GatewayOverrides.resolve {
      baseUrl := .text "https://up/odata"
      apiKey := .text "upk"
      clientId := .text "id"
      clientSecret := .text "s3cret"
      gatewayKey := .text "gw" } []
    let k := GatewayOverrides.resolve {
      baseUrl := .text "https://up/odata"
      apiKey := .text "spare"
      clientId := .text "id"
      clientSecret := .text "hunter2"
      gatewayKey := .text "gw" } []
    let page := Answer.document "\x7b\x22value\x22: []\x7d"
    let net := Network.ofAnswers [page, page]
      [.document "\x7b\x22access_token\x22: \x22one\x22\x7d", .response (.utf8 401 [] [])]
    let other := Network.ofAnswers [page, page]
      [.document "\x7b\x22access_token\x22: \x22another\x22\x7d", .response (.utf8 401 [] [])]
    let requests := [Request.submitting "gw" "\x7b\x7d", Request.submitting "gw" "\x7b\x7d"]
    g.SameButSecrets k ∧ net.SameButSecrets other ∧
      (answerAll g [] requests net).1 = (answerAll k [] requests other).1 ∧
      (answerAll g [] requests net).2.asked = (answerAll k [] requests other).2.asked := by
  intro g k page net other requests
  have hgateways : g.SameButSecrets k :=
    ⟨rfl, rfl, Or.inr ⟨_, _, rfl, by decide, rfl, by decide⟩, Or.inl rfl, rfl, rfl, rfl⟩
  have hone : (ClientCredentials.tokenOf
      (.utf8 200 (Encoding.Utf8.encode "\x7b\x22access_token\x22: \x22one\x22\x7d") [])).toOption =
      some "one" := by
    decide +kernel
  have hanother : (ClientCredentials.tokenOf
      (.utf8 200 (Encoding.Utf8.encode "\x7b\x22access_token\x22: \x22another\x22\x7d")
        [])).toOption = some "another" := by
    decide +kernel
  have htokens : List.Forall₂ Answer.SameButToken net.tokenAnswers other.tokenAnswers :=
    .cons (.tokens rfl (ClientCredentials.bringsToken_of_tokenOf hone)
      (ClientCredentials.bringsToken_of_tokenOf hanother)) (.cons (.same _) .nil)
  have hnet : net.SameButSecrets other := Network.sameButSecrets_ofAnswers _ htokens
  exact ⟨hgateways, hnet, answerAll_sameButSecrets hgateways hnet [] requests⟩

end Gateway

end OData
