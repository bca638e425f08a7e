import OData.Proofs.Client.Explanation
import OData.Proofs.Client.FreshToken

/-!
# What becomes of a request

A client that authorizes with credentials asks two questions for a request: one for a token and one
for data.

* **Four ways** (`get_classified`, `Classified`): the two answers decide in which of four ways a
  request ends, and in which class its failure is. Without a token nothing is asked for data; with
  one the request is sent once, and then the answer is unreachable, reports an error or brings its
  body. A payload is what decoding adds to a body (`Decoded`).
* **Tokens** (`ClientCredentials.withholds_iff`): an answer withholds a token exactly if asking for
  one fails.
* **One equation** (`exchange_of_credentials`): a request asks for a token and then reads the answer
  for data, from which all of it follows.

That an answer is given up, because its body is nested too deep or cannot be read as a text, is in
no class; where it would matter, the answer is read as documented (`Answer.Legible`).
-/

namespace OData

/-- Whether an operation fails in this very class, and not in one below it. -/
def FailsAs {α : Type} (cls : Failure.Class) (x : Except Failure α) : Prop :=
  ∃ failure, x = .error failure ∧ failure.class? = some cls

@[simp] theorem failsAs_ok {α : Type} {cls : Failure.Class} {a : α} :
    FailsAs cls (.ok a : Except Failure α) ↔ False := by
  simp [FailsAs]

@[simp] theorem failsAs_error {α : Type} {cls : Failure.Class} {failure : Failure} :
    FailsAs cls (.error failure : Except Failure α) ↔ failure.class? = some cls := by
  simp [FailsAs]

/-- Of two steps the first fails, or it does not and the second one fails. -/
theorem failsAs_bind_iff {α β : Type} {cls : Failure.Class} {x : Except Failure α}
    {y : Except Failure β} :
    FailsAs cls (x >>= fun _ => y) ↔ FailsAs cls x ∨ (∃ a, x = .ok a) ∧ FailsAs cls y := by
  cases x with
  | error failure => simp [bind, Except.bind]
  | ok a => simp [bind, Except.bind]

/-! ## Answers that bring no token -/

/-- Whether an answer is read as documented, if it is a response. -/
def Answer.Legible (a : Answer) : Prop := ∀ r, a = .response r → r.Legible

/-- Whether an answer to a request for a token withholds one. -/
inductive Answer.Withholds : Answer → Prop where
  /-- The token endpoint was not reached. -/
  | unreachable (reason : String) : Withholds (.unreachable reason)
  /-- The response is no success. -/
  | refused {r : Response} (hstatus : r.status < 200 ∨ 300 ≤ r.status) : Withholds (.response r)
  /-- The body is no JSON document. -/
  | unreadable {r : Response} {reason : String}
      (hdocument : r.document = .error (.malformed reason)) : Withholds (.response r)
  /-- The document is no object, or its token is missing, no text or empty. -/
  | missing {r : Response} {document : Value} (hdocument : r.document = .ok document)
      (hnone : ∀ members token, document = .object members →
        members.lookup "access_token" = some (.text token) → token = "") :
      Withholds (.response r)

namespace ClientCredentials

/-- A document without a token is no object, or the token in it is none. -/
theorem tokenIn_eq_missing_iff {document : Value} :
    tokenIn document = .error (.token .missing) ↔
      ∀ members token, document = .object members →
        members.lookup "access_token" = some (.text token) → token = "" := by
  constructor
  · intro hmissing members token hdocument hlookup
    subst hdocument
    by_contra hne
    have hget : (Value.object members).get? "access_token" = some (.text token) := hlookup
    cases (tokenIn_eq_ok_iff.2 ⟨hget, hne⟩).symm.trans hmissing
  · intro hnone
    unfold tokenIn
    split
    · rename_i token hget
      cases document with
      | object members => rw [if_pos (hnone members token rfl hget)]
      | _ => cases hget
    · rfl

/-- A document brings a token or lacks one. -/
theorem tokenIn_cases (document : Value) :
    (∃ token, tokenIn document = .ok token) ∨ tokenIn document = .error (.token .missing) := by
  unfold tokenIn
  split
  · split
    · exact .inr rfl
    · exact .inl ⟨_, rfl⟩
  · exact .inr rfl

/-- A response withholds a token exactly if the lack of one is what it amounts to. -/
theorem withholds_response_iff {r : Response} :
    (Answer.response r).Withholds ↔ ∃ cause, tokenOf r = .error (.token cause) := by
  unfold tokenOf
  by_cases hstatus : 200 ≤ r.status ∧ r.status < 300
  · rw [if_pos hstatus]
    have hwithin : ¬(r.status < 200 ∨ 300 ≤ r.status) := by omega
    cases hdocument : r.document with
    | error cause =>
      cases cause with
      | malformed reason => exact iff_of_true (.unreadable hdocument) ⟨_, rfl⟩
      | tooDeep =>
        refine iff_of_false ?_ fun ⟨cause, hcause⟩ => nomatch hcause
        intro h
        cases h with
        | refused hrefused => exact hwithin hrefused
        | unreadable hfound => cases hdocument.symm.trans hfound
        | missing hfound => cases hdocument.symm.trans hfound
    | ok document =>
      have hmissing : (∃ cause, tokenIn document = .error (.token cause)) ↔
          tokenIn document = .error (.token .missing) := by
        rcases tokenIn_cases document with ⟨token, h⟩ | h <;> simp [h]
      dsimp only
      rw [hmissing, tokenIn_eq_missing_iff]
      refine ⟨fun h => ?_, .missing hdocument⟩
      cases h with
      | refused hrefused => exact absurd hrefused hwithin
      | unreadable hfound => cases hdocument.symm.trans hfound
      | missing hfound hnone =>
        cases hdocument.symm.trans hfound
        exact hnone
  · rw [if_neg hstatus]
    exact iff_of_true (.refused (by omega)) ⟨_, rfl⟩

/-- Asking for a token fails in its own way exactly if the answer withholds one. -/
theorem withholds_iff {a : Answer} :
    a.Withholds ↔ ∃ cause, ofAnswer a = .error (.token cause) := by
  cases a with
  | unreachable reason => exact iff_of_true (.unreachable reason) ⟨_, rfl⟩
  | systemFailure =>
    constructor
    · intro h
      cases h
    · rintro ⟨cause, hcause⟩
      cases hcause
  | response r => exact withholds_response_iff

/-- What an answer amounts to is a token or the lack of one, or the answer is not read: the
operating system fails, or the body is nested too deep. -/
theorem ofAnswer_cases (a : Answer) :
    (∃ token, ofAnswer a = .ok token) ∨ (∃ cause, ofAnswer a = .error (.token cause)) ∨
      a = .systemFailure ∨ ∃ r, a = .response r ∧ r.document = .error .tooDeep := by
  cases a with
  | unreachable reason => exact .inr (.inl ⟨_, rfl⟩)
  | systemFailure => exact .inr (.inr (.inl rfl))
  | response r =>
    rw [ofAnswer, tokenOf]
    by_cases hstatus : 200 ≤ r.status ∧ r.status < 300
    · rw [if_pos hstatus]
      cases hdocument : r.document with
      | error cause =>
        cases cause with
        | malformed reason => exact .inr (.inl ⟨_, rfl⟩)
        | tooDeep => exact .inr (.inr (.inr ⟨r, rfl, hdocument⟩))
      | ok document => exact (tokenIn_cases document).imp_right fun h => .inl ⟨_, h⟩
    · rw [if_neg hstatus]
      exact .inr (.inl ⟨_, rfl⟩)

/-- An answer that is read as documented withholds a token or grants one. -/
theorem withholds_or_grants {a : Answer} (h : a ≠ .systemFailure) (hread : a.Legible) :
    a.Withholds ∨ ∃ token, a.Grants token := by
  rcases ofAnswer_cases a with ⟨token, htoken⟩ | hcause | hsystem | ⟨r, hr, hdeep⟩
  · exact .inr ⟨token, ofAnswer_eq_ok_iff.1 htoken⟩
  · exact .inl (withholds_iff.2 hcause)
  · exact absurd hsystem h
  · exact absurd hdeep (hread r hr).document

/-- Asking for a token fails in no other class. -/
theorem failsAs_ofAnswer_iff {cls : Failure.Class} {a : Answer} :
    FailsAs cls (ofAnswer a) ↔ cls = .authentication ∧ a.Withholds := by
  rw [withholds_iff]
  rcases ofAnswer_cases a with ⟨token, htoken⟩ | ⟨cause, hcause⟩ | rfl | ⟨r, rfl, hdeep⟩
  · simp [htoken]
  · simp [hcause, Failure.class?, eq_comm]
  · simp [ofAnswer, Failure.class?]
  · by_cases hstatus : 200 ≤ r.status ∧ r.status < 300
    · simp [ofAnswer, tokenOf, hstatus, hdeep, Failure.class?]
    · simp [ofAnswer, tokenOf, hstatus, Failure.class?, eq_comm]

end ClientCredentials

/-! ## Answers for data -/

namespace Answer

/-- An answer for data fails because it never came or because it reports an error, which is what its
body says. -/
theorem failsAs_outcome_iff {cls : Failure.Class} {a : Answer} {url : String} :
    FailsAs cls (a.outcome url) ↔
      (cls = .request ∧ ∃ reason, a = .unreachable reason) ∨
        (cls = .reported ∧
          ∃ r, a = .response r ∧ 400 ≤ r.status ∧ ∃ s, r.explanation = .ok s) := by
  cases a with
  | unreachable reason => simp [outcome, Failure.class?, eq_comm]
  | systemFailure => simp [outcome, Failure.class?]
  | response r =>
    rw [outcome, Response.outcome]
    by_cases hstatus : 400 ≤ r.status
    · cases hbody : r.explanation <;> simp [hstatus, hbody, Failure.class?, eq_comm]
    · simp [hstatus]

/-- An answer that is read as documented ends in one of three ways, unless the operating system
fails. -/
theorem outcome_cases {a : Answer} (h : a ≠ .systemFailure) (hread : a.Legible) (url : String) :
    FailsAs .request (a.outcome url) ∨ FailsAs .reported (a.outcome url) ∨
      ∃ body, a.outcome url = .ok body := by
  simp only [failsAs_outcome_iff, outcome_eq_ok_iff]
  cases a with
  | unreachable reason => simp
  | systemFailure => exact absurd rfl h
  | response r =>
    by_cases hstatus : 400 ≤ r.status
    · simp [hstatus, (hread r rfl).exists_explanation]
    · simp [Int.not_le.1 hstatus]

/-- A report is that of the response. -/
theorem exists_response_of_reported {a : Answer} {url : String} {e : ErrorAnswer}
    (h : a.outcome url = .error (.reported e)) :
    ∃ r s, a = .response r ∧ r.explanation = .ok s ∧ e = r.errorAnswer url s := by
  cases a with
  | unreachable reason => cases h
  | systemFailure => cases h
  | response r =>
    rw [outcome, Response.outcome] at h
    split at h
    · split at h
      · rename_i s hs
        cases h
        exact ⟨r, s, rfl, hs, rfl⟩
      · cases h
    · cases h

end Answer

/-! ## The four ways -/

/-- Whether a request ends as its answers say: the answer to its request for a token, and the one
that is to come for data. -/
structure Classified (c : Client) (asked : TokenRequest) (a : Attempt) (net : Network)
    (result : Except Failure (List UInt8)) (after : Network) (token data : Answer) : Prop where
  /-- Without a token the request fails to be authorized. -/
  withheld : FailsAs .authentication result ↔ token.Withholds
  /-- Then nothing is asked but the token. -/
  silent : token.Withholds → after.log = net.log ++ [.token asked]
  /-- With a token the request is sent once. -/
  sent : ∀ granted, token.Grants granted →
    after.log = net.log ++ [.token asked, .data (c.request a ("Bearer " ++ granted))]
  /-- It fails itself exactly if it is sent and the service is not reached. -/
  unreachable : FailsAs .request result ↔
    (∃ granted, token.Grants granted) ∧ ∃ reason, data = .unreachable reason
  /-- An error is reported exactly if it is sent and the status of the response says so, provided
  that the response is read as documented. -/
  reported : data.Legible → (FailsAs .reported result ↔
    (∃ granted, token.Grants granted) ∧ ∃ r, data = .response r ∧ 400 ≤ r.status)
  /-- The report has the status and the headers of the response and the address that was asked. -/
  report : ∀ e, result = .error (.reported e) → ∃ r, data = .response r ∧
    e.status = .int r.status ∧ e.url = .text a.url ∧
    e.headers = .object (r.headers.distinct.map fun h => (h.1, .text h.2))
  /-- Otherwise the body comes back as it is. -/
  returned : ∀ body, result = .ok body ↔
    (∃ granted, token.Grants granted) ∧
      ∃ r, data = .response r ∧ r.status < 400 ∧ r.body = body
  /-- There is no other way, unless the operating system fails or a response is not read as
  documented. -/
  exhaustive : token ≠ .systemFailure → data ≠ .systemFailure → token.Legible → data.Legible →
    FailsAs .authentication result ∨ FailsAs .request result ∨ FailsAs .reported result ∨
      ∃ body, result = .ok body

/-- Whether a payload is what decoding adds to a body. -/
structure Decoded (body : Except Failure (List UInt8)) (payload : Except Failure Members) :
    Prop where
  /-- The members of the object that the body spells, if it does. -/
  object : ∀ members, payload = .ok members ↔
    ∃ bytes, body = .ok bytes ∧ Json.decodeBytes bytes = .ok (.object members)
  /-- A request that fails is a payload that fails alike. -/
  failed : ∀ failure, body = .error failure → payload = .error failure
  /-- A body that spells no object fails to be decoded, unless it is nested too deep. -/
  unreadable : ∀ bytes, body = .ok bytes →
    (∀ members, Json.decodeBytes bytes ≠ .ok (.object members)) →
    (∀ isObject, Json.decodeBytes bytes ≠ .error (.tooDeep isObject)) → FailsAs .payload payload

namespace Client

variable {c : Client} {credentials : ClientCredentials}

/-- A payload is what decoding adds to a body. -/
theorem decoded_payloadOf (body : Except Failure (List UInt8)) :
    Decoded body (payloadOf body) := by
  cases body with
  | error failure =>
    constructor
    case object => simp [payloadOf]
    case failed =>
      intro _ h
      cases h
      rfl
    case unreadable =>
      intro _ h
      cases h
  | ok bytes =>
    have hobject (members : Members) : payloadOf (.ok bytes) = .ok members ↔
        Json.decodeBytes bytes = .ok (.object members) := by
      rw [← Payload.ofDocument_eq_ok_iff, payloadOf, Payload.decode]
      cases Payload.ofDocument (Json.decodeBytes bytes) <;> simp
    constructor
    case object => simp [hobject]
    case failed =>
      intro _ h
      cases h
    case unreadable =>
      intro _ h hnone hshallow
      cases h
      cases hdecode : Payload.decode (.bytes bytes) with
      | ok members =>
        have hpayload : payloadOf (.ok bytes) = .ok members := by rw [payloadOf, hdecode]
        exact absurd ((hobject members).1 hpayload) (hnone members)
      | error cause =>
        have hcause : cause.failure = .payload cause := by
          apply Undecoded.failure_eq_payload
          rintro isObject rfl
          exact hshallow isObject (Payload.ofDocument_eq_malformed_iff.1 hdecode)
        have hpayload : payloadOf (.ok bytes) = .error cause.failure := by rw [payloadOf, hdecode]
        rw [hpayload, hcause]
        exact failsAs_error.2 rfl

/-- A request asks for a token and then reads the answer for data. -/
theorem exchange_of_credentials (hc : c.authenticator = .client credentials) (a : Attempt)
    (net : Network) :
    (c.exchange a.url a.params a.headers net).1 =
      (ClientCredentials.ofAnswer (net.tokenAnswers.headD .exhausted) >>= fun _ =>
        (net.dataAnswers.headD .exhausted).outcome a.url) := by
  unfold exchange
  rw [hc]
  simp only [Authenticator.authorize, ClientCredentials.fetchToken, Network.sendToken,
    Network.sendData]
  cases ClientCredentials.ofAnswer (net.tokenAnswers.headD .exhausted) <;> rfl

/-- What a request enters in the log: its request for a token, and the request for data if one was
granted. -/
theorem log_exchange_of_credentials (hc : c.authenticator = .client credentials) (a : Attempt)
    (net : Network) :
    (c.exchange a.url a.params a.headers net).2.log = net.log ++ .token credentials.request ::
      c.sent a ((ClientCredentials.ofAnswer (net.tokenAnswers.headD .exhausted)).map
        Authenticator.bearerOf) := by
  rw [(c.leaves_exchange a net).log, entries_cons_of_credentials hc, entries, List.append_nil, hc]
  rfl

/-- An object of additional headers, or none, is never refused. -/
theorem exists_headers (c : Client) (additions : Option Members) :
    ∃ headers, c.headers (additions.elim .null .object) = .ok headers := by
  unfold headers
  cases additions with
  | none => exact ⟨_, rfl⟩
  | some members =>
    simp only [Option.elim]
    by_cases htruthy : (Value.object members).truthy = true
    · exact ⟨_, if_pos htruthy⟩
    · exact ⟨_, if_neg htruthy⟩

/-- A request whose answers are these ends as they say. -/
theorem classified_exchange (hc : c.authenticator = .client credentials) (a : Attempt)
    (net : Network) :
    Classified c credentials.request a net (c.exchange a.url a.params a.headers net).1
      (c.exchange a.url a.params a.headers net).2 (net.tokenAnswers.headD .exhausted)
      (net.dataAnswers.headD .exhausted) := by
  have hlog := log_exchange_of_credentials hc a net
  rw [exchange_of_credentials hc]
  -- where the answers come from no longer matters
  generalize net.tokenAnswers.headD .exhausted = token at *
  generalize net.dataAnswers.headD .exhausted = data at *
  have hgranted : (∃ header, ClientCredentials.ofAnswer token = .ok header) ↔
      ∃ granted, token.Grants granted :=
    exists_congr fun _ => ClientCredentials.ofAnswer_eq_ok_iff
  have hclass (cls : Failure.Class) :
      FailsAs cls (ClientCredentials.ofAnswer token >>= fun _ => data.outcome a.url) ↔ _ :=
    failsAs_bind_iff
  simp only [hgranted, ClientCredentials.failsAs_ofAnswer_iff, Answer.failsAs_outcome_iff]
    at hclass
  constructor
  case withheld => simp [hclass]
  case silent =>
    intro h
    obtain ⟨cause, htoken⟩ := ClientCredentials.withholds_iff.1 h
    rw [hlog, htoken]
    rfl
  case sent =>
    intro granted h
    rw [hlog, ClientCredentials.ofAnswer_eq_ok_iff.2 h]
    rfl
  case unreachable => simp [hclass]
  case reported =>
    intro hread
    have hexplained : (∃ r, data = .response r ∧ 400 ≤ r.status ∧ ∃ s, r.explanation = .ok s) ↔
        ∃ r, data = .response r ∧ 400 ≤ r.status := by
      refine exists_congr fun r => and_congr_right fun hr => ?_
      exact and_iff_left (hread r hr).exists_explanation
    simp [hclass, hexplained]
  case report =>
    intro e he
    cases htoken : ClientCredentials.ofAnswer token with
    | error failure =>
      rw [htoken] at he
      cases he
      have hreported : FailsAs .reported (ClientCredentials.ofAnswer token) := ⟨_, htoken, rfl⟩
      cases (ClientCredentials.failsAs_ofAnswer_iff.1 hreported).1
    | ok header =>
      rw [htoken] at he
      obtain ⟨r, s, hdata, -, rfl⟩ := Answer.exists_response_of_reported he
      exact ⟨r, hdata, rfl, rfl, rfl⟩
  case returned =>
    intro body
    rw [bind_eq_ok_iff, exists_and_right, hgranted, Answer.outcome_eq_ok_iff]
  case exhaustive =>
    intro htoken hdata hreadToken hreadData
    rcases ClientCredentials.withholds_or_grants htoken hreadToken with hwithholds | hgrants
    · exact .inl ((hclass _).2 (.inl ⟨rfl, hwithholds⟩))
    · obtain ⟨header, hheader⟩ := hgranted.2 hgrants
      rw [hheader]
      exact .inr (Answer.outcome_cases hdata hreadData a.url)

/-- **Every request ends in one of four ways, which its answers decide.** A client that authorizes
with credentials requests an endpoint, with whatever parameters and additional headers: it fails to
be authorized, fails itself, is answered with a report of an error, or gives the body of its
response as it is; and a payload is requested with what decoding adds to that. -/
theorem get_classified (hc : c.authenticator = .client credentials) (endpoint : String)
    (params : Value) (additions : Option Members) (net : Network) :
    let given := additions.elim Value.null .object
    let request := c.get (.text endpoint) params given net
    let payload := c.getPayload (.text endpoint) params given net
    ∃ headers, c.headers given = .ok headers ∧
      Classified c credentials.request ⟨c.resolve endpoint, params, headers⟩ net request.1 request.2
        (net.tokenAnswers.headD .exhausted) (net.dataAnswers.headD .exhausted) ∧
      Decoded request.1 payload.1 ∧ payload.2 = request.2 := by
  intro given request payload
  have hheaders : ∃ headers, c.headers given = .ok headers := c.exists_headers additions
  obtain ⟨headers, hheaders⟩ := hheaders
  have hrequest : request = c.exchange (c.resolve endpoint) params headers net := by
    show Client.get _ _ _ _ _ = _
    rw [Client.get, hheaders, address]
  refine ⟨headers, hheaders, ?_, decoded_payloadOf _, rfl⟩
  rw [hrequest]
  exact classified_exchange hc ⟨c.resolve endpoint, params, headers⟩ net

/-- A token is granted and the service answers that it is unavailable, in words that are no JSON
document. -/
theorem get_reports_unavailable :
    let cfg : Config := {
      baseUrl := .text "https://api.example.com/odata"
      apiKey := .text "key-123"
      kind := .text "client_credentials"
      credential := .list [.text "id", .text "secret"] }
    let busy := Response.utf8 503 (Encoding.Utf8.encode "busy") [("Retry-After", "5")]
    let start := Network.ofAnswers [.response busy]
      [.document "\x7b\x22access_token\x22: \x22t1\x22\x7d"]
    let opened : Network := { start with opened := 2 }
    ∃ c credentials, cfg.client start = .ok (c, opened) ∧ c.authenticator = .client credentials ∧
      FailsAs .reported (c.get (.text "Property") .null .null opened).1 ∧
      (c.getPayload (.text "Property") .null .null opened).2.log =
        [.token credentials.request, .data (c.request
          ⟨"https://api.example.com/odata/Property", .null, [("x-api-key", .text "key-123")]⟩
          "Bearer t1")] := by
  intro cfg busy start opened
  have hclient : cfg.client start = .ok (_, opened) := rfl
  obtain ⟨_, _, _, -, hc⟩ := Config.authenticator_of_client rfl hclient
  refine ⟨_, _, hclient, hc, ?_⟩
  obtain ⟨headers, hheaders, hclassified, -, hpayload⟩ :=
    get_classified hc "Property" .null none opened
  have htoken : (ClientCredentials.ofAnswer
      (.document "\x7b\x22access_token\x22: \x22t1\x22\x7d")).toOption = some "t1" := by
    decide +kernel
  have hgrants := ClientCredentials.ofAnswer_eq_ok_iff.1 (toOption_eq_some_iff.1 htoken)
  have hread : Answer.Legible (.response busy) := by
    rintro _ ⟨⟩
    have hflaw : (match busy.document with
        | .error cause => cause != .tooDeep
        | .ok _ => true) = true := by
      decide +kernel
    refine Response.legible_utf8_iff.2 fun hdeep => ?_
    rw [hdeep] at hflaw
    cases hflaw
  refine ⟨(hclassified.reported hread).2 ⟨⟨"t1", hgrants⟩, busy, rfl, by decide⟩, ?_⟩
  cases hheaders
  exact (congrArg Network.log hpayload).trans (hclassified.sent "t1" hgrants)

end Client

end OData
