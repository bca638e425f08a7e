import Mathlib.Data.List.Pairwise
import OData.Proofs.Client.Run

/-!
# A fresh token for every request

A client that authorizes with credentials asks for a token before every request for data and uses it
for that request alone.

* **The log of a run** (`log_of_credentials`, `FreshTokens`): every request for data stands right
  after a request for a token and carries the token that came back; a request for a token that
  brought none is followed by no request for data; all requests for tokens are alike.
* **Attempts** (`freshTokens_entries`): that holds of what any attempts enter in the log, which is
  what every run enters in it.
* **Headers** (`DataRequest.authorization_of_mem_carried`): of the headers that are sent, the only
  one with the name of the authorization is the one that the authenticator added.
-/

namespace OData

/-! ## The headers of a request -/

/-- Sets a header in headers of which the letter case does not count: one of the same name is
replaced where it stands, a new one comes last. -/
def Members.carry (name : String) (v : Value) : Members → Members
  | [] => [(name, v)]
  | h :: rest =>
    if Headers.sameName h.1 name then (name, v) :: rest else h :: Members.carry name v rest

/-- The headers that a request carries: those given with it, set one after another, and then the
authorization. -/
def DataRequest.carried (r : DataRequest) : Members :=
  Members.carry "Authorization" (.text r.authorization)
    (r.headers.foldl (fun headers h => Members.carry h.1 h.2 headers) [])

namespace Members

/-- Whether no two headers have the same name. -/
def Unambiguous (headers : Members) : Prop :=
  headers.Pairwise fun a b => Headers.sameName a.1 b.1 = false

variable {name : String} {v : Value} {headers : Members}

theorem self_mem_carry : (name, v) ∈ Members.carry name v headers := by
  induction headers with
  | nil => exact List.mem_singleton_self _
  | cons h rest ih =>
    rw [carry]
    split
    · exact List.mem_cons_self
    · exact List.mem_cons_of_mem h ih

theorem mem_of_mem_carry {h : String × Value} (hmem : h ∈ Members.carry name v headers) :
    h = (name, v) ∨ h ∈ headers := by
  induction headers with
  | nil => exact Or.inl (List.mem_singleton.1 hmem)
  | cons x rest ih =>
    rw [carry] at hmem
    split at hmem
    · rcases List.mem_cons.1 hmem with heq | hrest
      · exact Or.inl heq
      · exact Or.inr (List.mem_cons_of_mem x hrest)
    · rcases List.mem_cons.1 hmem with rfl | hcarry
      · exact Or.inr List.mem_cons_self
      · exact (ih hcarry).imp_right (List.mem_cons_of_mem x)

/-- Setting a header makes no two of the same name. -/
theorem Unambiguous.carry (hheaders : headers.Unambiguous) :
    (Members.carry name v headers).Unambiguous := by
  induction headers with
  | nil => exact List.pairwise_singleton _ _
  | cons x rest ih =>
    obtain ⟨hx, hrest⟩ := List.pairwise_cons.1 hheaders
    rw [Members.carry]
    split
    · rename_i hsame
      refine List.pairwise_cons.2 ⟨fun h hmem => ?_, hrest⟩
      have hnames : Text.lowerCase x.1 = Text.lowerCase name := eq_of_beq hsame
      have hother := hx h hmem
      rw [Headers.sameName, hnames] at hother
      exact hother
    · rename_i hdifferent
      refine List.pairwise_cons.2 ⟨fun h hmem => ?_, ih hrest⟩
      rcases mem_of_mem_carry hmem with rfl | hold
      · exact Bool.eq_false_iff.2 hdifferent
      · exact hx h hold

theorem unambiguous_foldl_carry (additions : Members) (hheaders : headers.Unambiguous) :
    (additions.foldl (fun headers h => Members.carry h.1 h.2 headers) headers).Unambiguous := by
  induction additions generalizing headers with
  | nil => exact hheaders
  | cons h additions ih => exact ih hheaders.carry

/-- Where no two headers have the same name, the name says which header it is. -/
theorem Unambiguous.eq_of_sameName (hheaders : headers.Unambiguous) {a b : String × Value}
    (ha : a ∈ headers) (hb : b ∈ headers) (hsame : Headers.sameName a.1 b.1 = true) : a = b := by
  have hsymm : Std.Symm fun a b : String × Value => Headers.sameName a.1 b.1 = false :=
    ⟨fun _ _ hdifferent => BEq.comm.trans hdifferent⟩
  by_contra hne
  have hdifferent := List.Pairwise.forall hheaders ha hb hne
  rw [hsame] at hdifferent
  cases hdifferent

end Members

/-- Whatever headers were given with a request, the one named `Authorization` that it carries, in
whichever letter case, is its authorization. -/
theorem DataRequest.authorization_of_mem_carried {r : DataRequest} {h : String × Value}
    (hmem : h ∈ r.carried) (hname : Headers.sameName h.1 "Authorization" = true) :
    h.2 = .text r.authorization := by
  have hunambiguous : r.carried.Unambiguous :=
    (Members.unambiguous_foldl_carry r.headers List.Pairwise.nil).carry
  have heq := hunambiguous.eq_of_sameName hmem Members.self_mem_carry hname
  rw [heq]

/-! ## Granted tokens -/

/-- Whether an answer to a request for a token grants one: a successful response with a JSON
document, an object in which the token is a text that is not empty. -/
def Answer.Grants (a : Answer) (token : String) : Prop :=
  ∃ r document, a = .response r ∧ 200 ≤ r.status ∧ r.status < 300 ∧ r.document = .ok document ∧
    document.get? "access_token" = some (.text token) ∧ token ≠ ""

namespace ClientCredentials

theorem tokenIn_eq_ok_iff {document : Value} {token : String} :
    tokenIn document = .ok token ↔
      document.get? "access_token" = some (.text token) ∧ token ≠ "" := by
  unfold tokenIn
  split
  · rename_i s hget
    rw [hget]
    by_cases hempty : s = ""
    · simp only [if_pos hempty, reduceCtorEq, false_iff, Option.some.injEq, Value.text.injEq,
        not_and_not_right]
      exact fun heq => heq ▸ hempty
    · simp only [if_neg hempty, Except.ok.injEq, Option.some.injEq, Value.text.injEq]
      exact ⟨fun heq => ⟨heq, heq ▸ hempty⟩, And.left⟩
  · rename_i hother
    simp only [reduceCtorEq, false_iff, not_and]
    exact fun hget => absurd hget (hother token)

/-- Asking for a token succeeds exactly if the answer grants one. -/
theorem ofAnswer_eq_ok_iff {a : Answer} {token : String} :
    ofAnswer a = .ok token ↔ a.Grants token := by
  unfold Answer.Grants
  cases a with
  | unreachable reason => simp [ofAnswer]
  | systemFailure => simp [ofAnswer]
  | response r =>
    rw [ofAnswer, tokenOf]
    constructor
    · intro h
      split at h
      · rename_i hstatus
        split at h
        · rename_i document hdocument
          exact ⟨r, document, rfl, hstatus.1, hstatus.2, hdocument, tokenIn_eq_ok_iff.1 h⟩
        · cases h
        · cases h
      · cases h
    · rintro ⟨_, document, ⟨⟩, hlow, hhigh, hdocument, htoken⟩
      rw [if_pos ⟨hlow, hhigh⟩, hdocument]
      exact tokenIn_eq_ok_iff.2 htoken

end ClientCredentials

/-! ## Requests for tokens in the log -/

/-- The request for a token that an entry is. -/
def Sent.token? : Sent → Option TokenRequest
  | .token request => some request
  | .data _ => none

/-- The requests for tokens among entries of the log, in order. -/
def tokenRequests (log : List Sent) : List TokenRequest :=
  log.filterMap Sent.token?

theorem tokenRequests_cons_token (request : TokenRequest) (log : List Sent) :
    tokenRequests (.token request :: log) = request :: tokenRequests log := rfl

theorem tokenRequests_append (first second : List Sent) :
    tokenRequests (first ++ second) = tokenRequests first ++ tokenRequests second :=
  List.filterMap_append

namespace Client

variable {c : Client} {credentials : ClientCredentials} {attempts : List Attempt}
  {tokens : List Answer} {before rest : List Sent}

/-- With credentials, the entries of an attempt are a request for a token and what its answer
makes of the attempt. -/
theorem entries_cons_of_credentials (hc : c.authenticator = .client credentials) (a : Attempt) :
    c.entries (a :: attempts) tokens =
      .token credentials.request ::
        (c.sent a (c.authenticator.authorization tokens) ++ c.entries attempts tokens.tail) := by
  rw [entries, hc, Authenticator.entered, Authenticator.remaining, List.drop_one]
  rfl

/-- An attempt enters its request for data or nothing. -/
theorem sent_cases (c : Client) (a : Attempt) (authorization : Except Failure String) :
    (∃ header, authorization = .ok header ∧
        c.sent a authorization = [.data (c.request a header)]) ∨
      ((∃ failure, authorization = .error failure) ∧ c.sent a authorization = []) := by
  cases authorization with
  | ok header => exact Or.inl ⟨header, rfl, rfl⟩
  | error failure => exact Or.inr ⟨⟨failure, rfl⟩, rfl⟩

/-- Every attempt asks for one token. -/
theorem tokenRequests_entries (hc : c.authenticator = .client credentials) :
    tokenRequests (c.entries attempts tokens) =
      List.replicate attempts.length credentials.request := by
  induction attempts generalizing tokens with
  | nil => rfl
  | cons a attempts ih =>
    have hsent (authorization : Except Failure String) :
        tokenRequests (c.sent a authorization) = [] := by
      cases authorization <;> rfl
    rw [entries_cons_of_credentials hc, tokenRequests_cons_token, tokenRequests_append, hsent, ih]
    rfl

/-- Entries begin with a request for a token, if there are any. -/
theorem entries_ne_data_cons (hc : c.authenticator = .client credentials) (r : DataRequest) :
    c.entries attempts tokens ≠ .data r :: rest := by
  cases attempts with
  | nil => exact List.cons_ne_nil _ _ ∘ Eq.symm
  | cons a attempts =>
    rw [entries_cons_of_credentials hc]
    intro h
    cases (List.cons.inj h).1

/-- Where an entry stands among those of attempts: the requests for tokens before it say to which
attempt it belongs. -/
inductive Placed (c : Client) (request : TokenRequest) (attempts : List Attempt)
    (tokens : List Answer) : List Sent → Sent → List Sent → Prop where
  /-- A request for a token begins the entries of its attempt. -/
  | token {before rest : List Sent} {a : Attempt} {n : Nat}
      (count : (tokenRequests before).length = n) (attempt : attempts[n]? = some a)
      (after : rest = c.sent a (c.authenticator.authorization (tokens.drop n)) ++
        c.entries (attempts.drop (n + 1)) (tokens.drop (n + 1))) :
      Placed c request attempts tokens before (.token request) rest
  /-- A request for data comes second, if its attempt is authorized. -/
  | data {front rest : List Sent} {a : Attempt} {n : Nat} {header : String}
      (count : (tokenRequests front).length = n) (attempt : attempts[n]? = some a)
      (authorized : c.authenticator.authorization (tokens.drop n) = .ok header) :
      Placed c request attempts tokens (front ++ [.token request]) (.data (c.request a header)) rest

/-- With one more attempt in front, its entries stand before the others. -/
theorem Placed.cons {request : TokenRequest} {entry : Sent} {a : Attempt} (first : List Sent)
    (hfirst : (tokenRequests first).length = 1)
    (h : c.Placed request attempts tokens.tail before entry rest) :
    c.Placed request (a :: attempts) tokens (first ++ before) entry rest := by
  have hlength (others : List Sent) :
      (tokenRequests (first ++ others)).length = (tokenRequests others).length + 1 := by
    rw [tokenRequests_append, List.length_append, hfirst, Nat.add_comm]
  cases h with
  | @token _ _ a n count attempt after =>
    rw [List.drop_tail, List.drop_tail] at after
    exact .token ((hlength before).trans (congrArg (· + 1) count)) attempt after
  | @data front _ a n header count attempt authorized =>
    rw [List.drop_tail] at authorized
    rw [← List.append_assoc]
    exact .data ((hlength front).trans (congrArg (· + 1) count)) attempt authorized

/-- Every entry is placed. -/
theorem placed_of_entries (hc : c.authenticator = .client credentials) {entry : Sent}
    (h : c.entries attempts tokens = before ++ entry :: rest) :
    c.Placed credentials.request attempts tokens before entry rest := by
  induction attempts generalizing tokens before with
  | nil => exact absurd h (by simp [entries])
  | cons a attempts ih =>
    rw [entries_cons_of_credentials hc] at h
    cases before with
    | nil =>
      obtain ⟨rfl, hrest⟩ := List.cons.inj h
      rw [← List.drop_one] at hrest
      exact .token (n := 0) rfl rfl hrest.symm
    | cons x before =>
      obtain ⟨rfl, hothers⟩ := List.cons.inj h
      rcases c.sent_cases a (c.authenticator.authorization tokens) with
        ⟨header, hauthorized, hsent⟩ | ⟨-, hsent⟩
      · rw [hsent] at hothers
        cases before with
        | nil =>
          obtain ⟨rfl, hrest⟩ := List.cons.inj hothers
          have hplaced : c.Placed credentials.request (a :: attempts) tokens
              ([] ++ [.token credentials.request]) (.data (c.request a header)) rest :=
            .data (n := 0) rfl rfl hauthorized
          exact hplaced
        | cons y before =>
          obtain ⟨rfl, hlater⟩ := List.cons.inj hothers
          exact Placed.cons [_, _] rfl (ih hlater)
      · rw [hsent] at hothers
        exact Placed.cons [_] rfl (ih hothers)

/-- Credentials authorize a request exactly with the tokens that the next answer grants. -/
theorem authorization_drop_eq_ok_iff {n : Nat} {header : String} :
    (Authenticator.client credentials).authorization (tokens.drop n) = .ok header ↔
      ∃ token, (tokens.getD n .exhausted).Grants token ∧ Authenticator.bearerOf token = header := by
  have hanswer : (tokens.drop n).headD .exhausted = tokens.getD n .exhausted := by
    rw [List.headD_eq_head?_getD, List.head?_drop, List.getD_eq_getElem?_getD]
  have hauthorization : (Authenticator.client credentials).authorization (tokens.drop n) =
      (ClientCredentials.ofAnswer (tokens.getD n .exhausted)).map Authenticator.bearerOf := by
    rw [← hanswer]
    rfl
  rw [hauthorization, map_eq_ok_iff]
  simp only [ClientCredentials.ofAnswer_eq_ok_iff]

/-! ## The log of a run -/

/-- Whether entries of the log are those of attempts with a token for each of them. The requests
for tokens before an entry say which attempt and which answer it is about. -/
structure FreshTokens (c : Client) (request : TokenRequest) (attempts : List Attempt)
    (tokens : List Answer) (log : List Sent) : Prop where
  /-- Every attempt asks for one token, and all ask alike. -/
  asked : tokenRequests log = List.replicate attempts.length request
  /-- A request for data stands right after a request for a token, is that of its attempt, and
  carries the token that was granted as its one authorization. -/
  spent : ∀ before r rest, log = before ++ .data r :: rest →
    ∃ front a token, before = front ++ [.token request] ∧
      attempts[(tokenRequests front).length]? = some a ∧
      (tokens.getD (tokenRequests front).length .exhausted).Grants token ∧
      r = c.request a ("Bearer " ++ token) ∧
      ("Authorization", .text ("Bearer " ++ token)) ∈ r.carried ∧
      ∀ h ∈ r.carried, Headers.sameName h.1 "Authorization" = true →
        h.2 = .text ("Bearer " ++ token)
  /-- A request for a token that is granted is followed by the request of its attempt. -/
  granted : ∀ before t rest token, log = before ++ .token t :: rest →
    (tokens.getD (tokenRequests before).length .exhausted).Grants token →
    ∃ a others, attempts[(tokenRequests before).length]? = some a ∧
      rest = .data (c.request a ("Bearer " ++ token)) :: others
  /-- A request for a token that is not granted is followed by no request for data. -/
  refused : ∀ before t rest, log = before ++ .token t :: rest →
    (¬ ∃ token, (tokens.getD (tokenRequests before).length .exhausted).Grants token) →
    ∀ r others, rest ≠ .data r :: others

/-- With credentials, attempts enter themselves in the log with a token for each of them. -/
theorem freshTokens_entries (hc : c.authenticator = .client credentials) :
    c.FreshTokens credentials.request attempts tokens (c.entries attempts tokens) := by
  refine ⟨tokenRequests_entries hc, ?_, ?_, ?_⟩
  · intro before r rest hlog
    cases placed_of_entries hc hlog with
    | @data front _ a n header count attempt authorized =>
      subst count
      rw [hc] at authorized
      obtain ⟨token, hgrants, rfl⟩ := authorization_drop_eq_ok_iff.1 authorized
      refine ⟨front, a, token, rfl, attempt, hgrants, rfl, Members.self_mem_carry,
        fun h hmem hname => ?_⟩
      exact DataRequest.authorization_of_mem_carried hmem hname
  · intro before t rest token hlog hgrants
    cases placed_of_entries hc hlog with
    | @token _ _ a n count attempt after =>
      subst count
      rw [hc, authorization_drop_eq_ok_iff.2 ⟨token, hgrants, rfl⟩] at after
      exact ⟨a, _, attempt, after⟩
  · intro before t rest hlog hrefused r others hrest
    cases placed_of_entries hc hlog with
    | @token _ _ a n count attempt after =>
      subst count
      rcases c.sent_cases a (c.authenticator.authorization
        (tokens.drop (tokenRequests before).length)) with
        ⟨header, hauthorized, -⟩ | ⟨-, hsent⟩
      · rw [hc] at hauthorized
        obtain ⟨token, hgrants, -⟩ := authorization_drop_eq_ok_iff.1 hauthorized
        exact hrefused ⟨token, hgrants⟩
      · rw [hsent] at after
        exact entries_ne_data_cons hc r (after.symm.trans hrest)

end Client

/-- A client that is set up for credentials authorizes with them. -/
theorem Config.authenticator_of_client {cfg : Config} {start opened : Network} {c : Client}
    (hkind : cfg.kind = .text "client_credentials") (hclient : cfg.client start = .ok (c, opened)) :
    ∃ clientId clientSecret session, cfg.credential.pair = .ok (clientId, clientSecret) ∧
      c.authenticator = .client ⟨clientId, clientSecret, cfg.tokenUrl, cfg.scope, cfg.timeout,
        cfg.verify, session⟩ := by
  unfold Config.client at hclient
  obtain ⟨base, -, hclient⟩ := bind_eq_ok_iff.1 hclient
  obtain ⟨timeout, -, hclient⟩ := bind_eq_ok_iff.1 hclient
  obtain ⟨⟨authenticator, middle⟩, hauthenticator, hclient⟩ := bind_eq_ok_iff.1 hclient
  cases hclient
  unfold Config.authenticator at hauthenticator
  rw [hkind] at hauthenticator
  obtain ⟨⟨clientId, clientSecret⟩, hpair, hauthenticator⟩ := bind_eq_ok_iff.1 hauthenticator
  cases hauthenticator
  exact ⟨clientId, clientSecret, start.opened, refusing_eq_ok_iff.1 hpair, rfl⟩

namespace Client

/-- **One token for each request for data.** Whatever is called on a client that authorizes with
credentials, and whatever is answered, every attempt of the run asks for a token of its own before
its request is sent. What is asked depends on the credentials and the token endpoint alone. -/
theorem log_of_credentials {cfg : Config} {start opened : Network} {c : Client}
    (hkind : cfg.kind = .text "client_credentials") (hclient : cfg.client start = .ok (c, opened))
    (net : Network) (calls : List Call) :
    ∃ clientId clientSecret made log,
      cfg.credential.pair = .ok (clientId, clientSecret) ∧
      List.Forall₂ c.Makes calls made ∧
      (c.performAll net calls).log = net.log ++ log ∧
      c.FreshTokens
        { url := cfg.tokenUrl
          form := [("grant_type", .text "client_credentials"), ("client_id", clientId),
            ("client_secret", clientSecret), ("scope", cfg.scope)]
          timeout := cfg.timeout
          verify := cfg.verify }
        made.flatten net.tokenAnswers log := by
  obtain ⟨clientId, clientSecret, session, hpair, hc⟩ :=
    Config.authenticator_of_client hkind hclient
  obtain ⟨made, hmade, hleaves⟩ := c.exists_makes_performAll net calls
  exact ⟨clientId, clientSecret, made, _, hpair, hmade, hleaves.log, freshTokens_entries hc⟩

/-- A run whose second token is refused, with an authorization among the headers given. -/
theorem log_of_credentials_of_refused_token :
    let cfg : Config := {
      baseUrl := .text "https://api.example.com/odata"
      apiKey := .text "key-123"
      kind := .text "client_credentials"
      credential := .list [.text "id", .text "secret"] }
    let start := Network.ofAnswers
      [.document "\x7b\x22value\x22: [1], \x22@odata.nextLink\x22: \x22https://x/2\x22\x7d"]
      [.document "\x7b\x22access_token\x22: \x22t1\x22\x7d", .response (.utf8 401 [] [])]
    let calls : List Call := [
      .readAll (Query.ofBase (.text "Property/")) .null,
      .get (.text "Media") .null (.object [("AUTHORIZATION", .text "Basic abc")])]
    ∃ c opened, cfg.kind = .text "client_credentials" ∧ cfg.client start = .ok (c, opened) ∧
      ∃ clientId clientSecret made log,
        cfg.credential.pair = .ok (clientId, clientSecret) ∧
        List.Forall₂ c.Makes calls made ∧
        (c.performAll opened calls).log = opened.log ++ log ∧
        c.FreshTokens
          { url := cfg.tokenUrl
            form := [("grant_type", .text "client_credentials"), ("client_id", clientId),
              ("client_secret", clientSecret), ("scope", cfg.scope)]
            timeout := cfg.timeout
            verify := cfg.verify }
          made.flatten opened.tokenAnswers log := by
  intro cfg start calls
  have hclient : cfg.client start = .ok _ := rfl
  exact ⟨_, _, rfl, hclient, log_of_credentials rfl hclient _ calls⟩

end Client

end OData
