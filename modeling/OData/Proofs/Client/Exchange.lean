import OData.Proofs.Paging.Step

/-!
# What a client enters in the log

Every operation of a client is a series of attempts at requests for data.

* **What attempts enter** (`Client.entries`): given the answers to requests for tokens, the entries
  of the authorization first, then the request itself, unless it could not be authorized.
* **Operations** (`leaves_get`, `leaves_page`, `leaves_read` and their like): each `Leaves` the
  network behind with the entries of the attempts that it makes, which are one or none.
* **Walks** (`exists_leaves_walk`): a walk attempts the page of its query and then links.
-/

namespace OData

/-- An attempt at a request for data: what of the request is known before it is authorized. -/
structure Attempt where
  /-- The address. -/
  url : String
  /-- Additional parameters, as given. -/
  params : Value
  /-- The headers given with the request. -/
  headers : Members

/-- The request for data that an entry is. -/
def Sent.data? : Sent → Option DataRequest
  | .data request => some request
  | .token _ => none

namespace Authenticator

/-- What authorizing a request enters in the log. -/
def entered : Authenticator → List Sent
  | .client credentials => [.token credentials.request]
  | _ => []

/-- The answers to requests for tokens that are left after a number of authorizations. -/
def remaining (a : Authenticator) (count : Nat) (tokens : List Answer) : List Answer :=
  match a with
  | .client _ => tokens.drop count
  | _ => tokens

theorem log_authorize (a : Authenticator) (net : Network) :
    (a.authorize net).2.log = net.log ++ a.entered := by
  cases a with
  | bearer token => exact (List.append_nil _).symm
  | basic user password => exact (List.append_nil _).symm
  | client credentials => rfl

theorem tokenAnswers_authorize (a : Authenticator) (net : Network) :
    (a.authorize net).2.tokenAnswers = a.remaining 1 net.tokenAnswers := by
  cases a with
  | bearer token => rfl
  | basic user password => rfl
  | client credentials => exact List.drop_one.symm

@[simp] theorem remaining_zero (a : Authenticator) (tokens : List Answer) :
    a.remaining 0 tokens = tokens := by
  cases a <;> rfl

theorem remaining_remaining (a : Authenticator) (m n : Nat) (tokens : List Answer) :
    a.remaining n (a.remaining m tokens) = a.remaining (m + n) tokens := by
  cases a with
  | bearer token => rfl
  | basic user password => rfl
  | client credentials => exact List.drop_drop

end Authenticator

namespace Client

variable {c : Client} {net middle after : Network} {tokens : List Answer}

/-! ## Attempts and their entries -/

/-- The request that an attempt becomes once it is authorized. -/
def request (c : Client) (a : Attempt) (authorization : String) : DataRequest :=
  ⟨a.url, a.params, a.headers, authorization, c.timeout, c.verify⟩

/-- The request of an attempt as an entry, unless it was not authorized. -/
def sent (c : Client) (a : Attempt) : Except Failure String → List Sent
  | .ok authorization => [.data (c.request a authorization)]
  | .error _ => []

/-- What attempts enter in the log, given the answers to requests for tokens. -/
def entries (c : Client) : List Attempt → List Answer → List Sent
  | [], _ => []
  | a :: rest, tokens =>
    c.authenticator.entered ++ c.sent a (c.authenticator.authorization tokens) ++
      c.entries rest (c.authenticator.remaining 1 tokens)

theorem entries_append (xs ys : List Attempt) :
    c.entries (xs ++ ys) tokens =
      c.entries xs tokens ++ c.entries ys (c.authenticator.remaining xs.length tokens) := by
  induction xs generalizing tokens with
  | nil => simp [entries]
  | cons x xs ih =>
    rw [List.cons_append, entries, ih, entries, Authenticator.remaining_remaining,
      List.length_cons, Nat.add_comm 1, ← List.append_assoc]

/-- Whether attempts leave a network behind: what they enter is in the log, and the answers that
authorizing took are gone. -/
structure Leaves (c : Client) (net : Network) (attempts : List Attempt) (after : Network) :
    Prop where
  /-- The log has the entries of the attempts. -/
  log : after.log = net.log ++ c.entries attempts net.tokenAnswers
  /-- Authorizing took its answers. -/
  tokenAnswers :
    after.tokenAnswers = c.authenticator.remaining attempts.length net.tokenAnswers

namespace Leaves

/-- No attempt leaves the network as it was. -/
theorem refl (c : Client) (net : Network) : c.Leaves net [] net :=
  ⟨(List.append_nil _).symm, (c.authenticator.remaining_zero _).symm⟩

/-- Attempts after attempts are attempts. -/
theorem trans {xs ys : List Attempt} (hx : c.Leaves net xs middle)
    (hy : c.Leaves middle ys after) : c.Leaves net (xs ++ ys) after := by
  constructor
  · rw [hy.log, hx.log, hx.tokenAnswers, entries_append, List.append_assoc]
  · rw [hy.tokenAnswers, hx.tokenAnswers, Authenticator.remaining_remaining, List.length_append]

end Leaves

/-- The first request for data among the entries of attempts is that of the first attempt, if it was
authorized and no others were made otherwise. -/
theorem findSome?_entries {attempts : List Attempt}
    (h : attempts.tail = [] ∨ ∃ header, c.authenticator.authorization tokens = .ok header) :
    (c.entries attempts tokens).findSome? Sent.data? =
      attempts.head?.bind fun a =>
        (c.authenticator.authorization tokens).toOption.map (c.request a) := by
  cases attempts with
  | nil => rfl
  | cons a rest =>
    have hentered : c.authenticator.entered.findSome? Sent.data? = none := by
      cases c.authenticator <;> rfl
    rw [entries, List.findSome?_append, List.findSome?_append, hentered]
    cases hauthorization : c.authenticator.authorization tokens with
    | ok header => rfl
    | error failure =>
      rcases h with hrest | ⟨header, hheader⟩
      · obtain rfl : rest = [] := hrest
        rfl
      · rw [hauthorization] at hheader
        cases hheader

/-! ## Single requests -/

/-- An exchange is one attempt. -/
theorem leaves_exchange (c : Client) (a : Attempt) (net : Network) :
    c.Leaves net [a] (c.exchange a.url a.params a.headers net).2 := by
  have hlog := c.authenticator.log_authorize net
  have htokens := c.authenticator.tokenAnswers_authorize net
  have hfst := c.authenticator.authorize_fst net
  unfold exchange
  rcases hn : c.authenticator.authorize net with ⟨authorization, middle⟩
  rw [hn] at hlog htokens hfst
  dsimp only at hlog htokens hfst
  cases authorization with
  | error failure =>
    refine ⟨?_, htokens⟩
    simp only [entries, ← hfst, sent, List.append_nil]
    exact hlog
  | ok authorization =>
    refine ⟨?_, htokens⟩
    simp only [entries, ← hfst, sent, List.append_nil, Network.sendData, ← List.append_assoc,
      ← hlog]
    rfl

/-- The attempt that a request for an endpoint makes, if its headers and its address are ones. -/
def attempt? (c : Client) (endpoint params additions : Value) : Option Attempt :=
  match c.headers additions, c.address endpoint with
  | .ok headers, .ok url => some ⟨url, params, headers⟩
  | _, _ => none

/-- A request for an endpoint makes its attempt, or none. -/
theorem leaves_get (c : Client) (endpoint params additions : Value) (net : Network) :
    c.Leaves net (c.attempt? endpoint params additions).toList
      (c.get endpoint params additions net).2 := by
  unfold get attempt?
  cases c.headers additions with
  | error cause => exact Leaves.refl c net
  | ok headers =>
    cases c.address endpoint with
    | error cause => exact Leaves.refl c net
    | ok url => exact leaves_exchange c ⟨url, params, headers⟩ net

/-- Decoding a body makes no attempt. -/
theorem leaves_getPayload (c : Client) (endpoint params additions : Value) (net : Network) :
    c.Leaves net (c.attempt? endpoint params additions).toList
      (c.getPayload endpoint params additions net).2 :=
  c.leaves_get endpoint params additions net

/-- The attempt at a page. -/
def pageAttempt (c : Client) (endpoint : String) : Attempt :=
  ⟨c.resolve endpoint, .null, [("x-api-key", c.apiKey)]⟩

theorem leaves_page (c : Client) (endpoint : String) (net : Network) :
    c.Leaves net [c.pageAttempt endpoint] (c.page endpoint net).2 :=
  c.leaves_getPayload (.text endpoint) .null .null net

/-- The attempt at the page of a query, if the query has an address. -/
def queryAttempt? (c : Client) (q : Query) : Option Attempt :=
  q.address.toOption.map c.pageAttempt

theorem leaves_execute (c : Client) (q : Query) (net : Network) :
    c.Leaves net (c.queryAttempt? q).toList (c.execute q net).2 := by
  unfold execute queryAttempt?
  cases q.address with
  | error cause => exact Leaves.refl c net
  | ok endpoint => exact c.leaves_page endpoint net

theorem leaves_read (c : Client) (q : Query) (net : Network) :
    c.Leaves net (c.queryAttempt? q).toList (c.read q net).2 :=
  c.leaves_execute q net

theorem leaves_entities (c : Client) (q : Query) (type : Value) (net : Network) :
    c.Leaves net (c.queryAttempt? q).toList (c.entities q type net).2 :=
  c.leaves_execute q net

theorem leaves_property (c : Client) (q : Query) (name : Value) (net : Network) :
    c.Leaves net (c.queryAttempt? q).toList (c.property q name net).2 :=
  c.leaves_execute q net

/-! ## Walks -/

variable {σ : Type} {reader : σ → Value → Verdict σ} {limit : Value} {state : σ}

/-- Following links makes an attempt at each link that is followed. -/
theorem exists_leaves_follow (c : Client) (reader : σ → Value → Verdict σ) (limit : Value)
    (state : σ) (count : Nat) (seen : List String) (page : Members) (net : Network) :
    ∃ links : List String, c.Leaves net (links.map c.pageAttempt)
      (c.follow reader limit state count seen page net).2 := by
  fun_induction c.follow reader limit state count seen page net with
  | case1 => exact ⟨[], Leaves.refl c _⟩
  | case2 => exact ⟨[], Leaves.refl c _⟩
  | case3 => exact ⟨[], Leaves.refl c _⟩
  | case4 _ _ _ _ net _ _ _ link _ failure after hpage =>
    have hleaves := c.leaves_page link net
    rw [hpage] at hleaves
    exact ⟨[link], hleaves⟩
  | case5 _ _ _ _ net _ _ _ link _ members after hpage ih =>
    have hleaves := c.leaves_page link net
    rw [hpage] at hleaves
    obtain ⟨links, hlinks⟩ := ih
    exact ⟨link :: links, hleaves.trans hlinks⟩

/-- A walk makes the attempt at the page of its query, if it has an address, and then attempts at
links, but none if the first was not authorized. -/
theorem exists_leaves_walk (c : Client) (q : Query) (reader : σ → Value → Verdict σ)
    (limit : Value) (state : σ) (net : Network) :
    ∃ attempts, attempts.head? = c.queryAttempt? q ∧
      (∀ a ∈ attempts.tail, ∃ link, a = c.pageAttempt link) ∧
      (attempts.tail = [] ∨ ∃ header, c.authenticator.authorization net.tokenAnswers = .ok header) ∧
      c.Leaves net attempts (c.walk q reader limit state net).2 := by
  unfold queryAttempt?
  cases haddress : q.address with
  | error cause =>
    rw [walk_of_no_address haddress]
    exact ⟨[], rfl, fun a ha => absurd ha List.not_mem_nil, Or.inl rfl, Leaves.refl c net⟩
  | ok endpoint =>
    have hfirst := c.leaves_page endpoint net
    cases hpage : (c.page endpoint net).1 with
    | error failure =>
      rw [walk_of_failure haddress hpage]
      exact ⟨[c.pageAttempt endpoint], rfl, fun a ha => absurd ha List.not_mem_nil, Or.inl rfl,
        hfirst⟩
    | ok page =>
      have hauthorized := (page_eq_ok_iff.1 hpage).1
      rw [Authenticator.authorize_fst] at hauthorized
      rw [walk_of_page haddress hpage]
      obtain ⟨links, hlinks⟩ :=
        c.exists_leaves_follow reader limit state 0 [] page (c.page endpoint net).2
      refine ⟨c.pageAttempt endpoint :: links.map c.pageAttempt, rfl, ?_, Or.inr hauthorized,
        hfirst.trans hlinks⟩
      intro a ha
      obtain ⟨link, -, rfl⟩ := List.mem_map.1 ha
      exact ⟨link, rfl⟩

end Client

end OData
