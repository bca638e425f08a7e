import OData.Paging
import OData.Proofs.Value.Same

/-!
# One request for a page

* **A request that cannot be authorized** (`page_of_refused`): it is not sent.
* **Any other** (`page_of_authorized`, `exchange_of_authorized`): it is entered in the log and takes
  the next answer. The page is what that answer holds (`Answer.page?`); it does not depend on the
  address that was asked for (`page_eq_ok_iff`).
* **Pages one after another** (`served_cons_iff`): pages are served if the first arrives and the
  others are served after it.
-/

namespace OData

/-! ## Authorization -/

namespace Authenticator

/-- How a request is authorized when these answers to requests for tokens are to come. -/
def authorization (a : Authenticator) (tokens : List Answer) : Except Failure String :=
  (a.authorize (Network.ofAnswers [] tokens)).1

/-- Whether the first requests, this many of them, are authorized. Each takes at most one answer to
a request for a token. -/
def Authorizes (a : Authenticator) (tokens : List Answer) (count : Nat) : Prop :=
  ∀ i < count, ∃ header, a.authorization (tokens.drop i) = .ok header

/-- Authorization depends on the answers to requests for tokens alone. -/
theorem authorize_fst (a : Authenticator) (net : Network) :
    (a.authorize net).1 = a.authorization net.tokenAnswers := by
  cases a <;> rfl

/-- After one authorization the next ones go as if one answer were used up. -/
theorem authorization_drop_authorize (a : Authenticator) (net : Network) (i : Nat) :
    a.authorization ((a.authorize net).2.tokenAnswers.drop i) =
      a.authorization (net.tokenAnswers.drop (i + 1)) := by
  cases a with
  | bearer token => rfl
  | basic user password => rfl
  | client credentials =>
    have htail : (Authenticator.authorize (.client credentials) net).2.tokenAnswers =
        net.tokenAnswers.tail := rfl
    rw [htail, List.drop_tail]

/-- One more request is authorized if the first is, and the others after it. -/
theorem authorizes_succ_iff (a : Authenticator) (net : Network) (count : Nat) :
    a.Authorizes net.tokenAnswers (count + 1) ↔
      (∃ header, (a.authorize net).1 = .ok header) ∧
        a.Authorizes (a.authorize net).2.tokenAnswers count := by
  rw [authorize_fst]
  unfold Authorizes
  constructor
  · intro h
    refine ⟨h 0 (Nat.succ_pos count), fun i hi => ?_⟩
    rw [authorization_drop_authorize]
    exact h (i + 1) (Nat.succ_lt_succ hi)
  · rintro ⟨hfirst, hrest⟩ i hi
    cases i with
    | zero => exact hfirst
    | succ i =>
      rw [← authorization_drop_authorize]
      exact hrest i (Nat.lt_of_succ_lt_succ hi)

end Authenticator

/-! ## The log -/

/-- The address of a request for data. -/
def Sent.url? : Sent → Option String
  | .data request => some request.url
  | .token _ => none

/-- The addresses that were asked for data, in order. -/
def Network.asked (net : Network) : List String :=
  net.log.filterMap Sent.url?

/-- Authorizing a request asks no address for data. -/
theorem Authenticator.asked_authorize (a : Authenticator) (net : Network) :
    (a.authorize net).2.asked = net.asked := by
  cases a with
  | bearer token => rfl
  | basic user password => rfl
  | client credentials =>
    show (net.log ++ [_]).filterMap Sent.url? = net.log.filterMap Sent.url?
    rw [List.filterMap_append]
    exact List.append_nil _

/-! ## Pages -/

/-- The page that an answer holds: the payload of a response that reports no error. -/
def Answer.page? : Answer → Option Members
  | .response r => if 400 ≤ r.status then none else (Payload.decode (.bytes r.body)).toOption
  | _ => none

/-- A response without an error, with a text as its body. -/
def Answer.document (s : String) : Answer :=
  .response (.utf8 200 (Encoding.Utf8.encode s) [])

/-- Whether a text is seen to spell a payload. -/
def Payload.spells (s : String) (members : Members) : Bool :=
  match Payload.decode (.bytes (Encoding.Utf8.encode s)) with
  | .ok found => Value.sameMembers found members
  | .error _ => false

/-- The members of a document are those of the object that it holds. -/
theorem Payload.ofDocument_eq_ok_iff {x : Except Json.Error Value} {members : Members} :
    Payload.ofDocument x = .ok members ↔ x = .ok (.object members) := by
  cases x with
  | error cause => simp [Payload.ofDocument]
  | ok v => cases v <;> simp [Payload.ofDocument]

/-- A document is malformed in the way that its text is. -/
theorem Payload.ofDocument_eq_malformed_iff {x : Except Json.Error Value} {cause : Json.Error} :
    Payload.ofDocument x = .error (.malformed cause) ↔ x = .error cause := by
  cases x with
  | error cause => simp [Payload.ofDocument]
  | ok v => cases v <;> simp [Payload.ofDocument]

/-- A payload that is not nested too deep fails to be decoded as what it is. -/
theorem Undecoded.failure_eq_payload {cause : Undecoded}
    (h : ∀ isObject, cause ≠ .malformed (.tooDeep isObject)) : cause.failure = .payload cause := by
  unfold failure
  split
  · rename_i isObject
    exact absurd rfl (h isObject)
  · rfl

/-- A text that spells a payload decodes to it. -/
theorem Payload.decode_of_spells {s : String} {members : Members}
    (h : Payload.spells s members = true) :
    Payload.decode (.bytes (Encoding.Utf8.encode s)) = .ok members := by
  unfold Payload.spells at h
  split at h
  · rename_i found hdecode
    rw [hdecode, Value.eq_of_sameMembers h]
  · cases h

/-- A document holds the payload that its text spells. -/
theorem Answer.page?_document {s : String} {members : Members}
    (h : Payload.spells s members = true) : (document s).page? = some members := by
  have hstatus : ¬ (400 : Int) ≤ 200 := by decide
  rw [document, page?, Response.utf8, if_neg hstatus, Payload.decode_of_spells h]
  rfl

/-- An answer brings the body of a response that reports no error. -/
theorem Answer.outcome_eq_ok_iff {a : Answer} {url : String} {body : List UInt8} :
    a.outcome url = .ok body ↔ ∃ r, a = .response r ∧ r.status < 400 ∧ r.body = body := by
  cases a with
  | unreachable reason => simp [outcome]
  | systemFailure => simp [outcome]
  | response r =>
    rw [outcome, Response.outcome]
    by_cases hstatus : 400 ≤ r.status
    · rw [if_pos hstatus]
      cases r.explanation <;> simp [Int.not_lt.2 hstatus]
    · simp [hstatus, Int.not_le.1 hstatus]

/-- A payload is decoded from a body. -/
theorem Client.payloadOf_eq_ok_iff {x : Except Failure (List UInt8)} {page : Members} :
    payloadOf x = .ok page ↔ ∃ body, x = .ok body ∧ Payload.decode (.bytes body) = .ok page := by
  cases x with
  | error failure => simp [payloadOf]
  | ok body => cases hdecode : Payload.decode (.bytes body) <;> simp [payloadOf, hdecode]

/-- What an answer amounts to is a page exactly if it holds one, whatever address was asked. -/
theorem payloadOf_outcome_eq_ok_iff {a : Answer} {url : String} {page : Members} :
    Client.payloadOf (a.outcome url) = .ok page ↔ a.page? = some page := by
  rw [Client.payloadOf_eq_ok_iff]
  simp only [Answer.outcome_eq_ok_iff]
  cases a with
  | response r =>
    rw [Answer.page?]
    by_cases hstatus : 400 ≤ r.status
    · simp [hstatus, Int.not_lt.2 hstatus]
    · simp [hstatus, Int.not_le.1 hstatus, toOption_eq_some_iff]
  | unreachable reason => simp [Answer.page?]
  | systemFailure => simp [Answer.page?]

namespace Client

/-- What a request that was authorized leaves of the network: an entry in the log, one answer
fewer, and the tokens that authorization left. -/
structure Requested (c : Client) (endpoint : String) (net after : Network) : Prop where
  /-- One address was asked. -/
  asked : after.asked = net.asked ++ [c.resolve endpoint]
  /-- One answer was taken. -/
  dataAnswers : after.dataAnswers = net.dataAnswers.tail
  /-- Authorization goes on from what it left. -/
  tokenAnswers : after.tokenAnswers = (c.authenticator.authorize net).2.tokenAnswers

/-- A request that cannot be authorized is not sent. -/
theorem page_of_refused {c : Client} {net : Network} {failure : Failure}
    (h : (c.authenticator.authorize net).1 = .error failure) (endpoint : String) :
    c.page endpoint net = (.error failure, (c.authenticator.authorize net).2) := by
  simp only [page, getPayload, get, headers, address, Value.truthy, exchange]
  rcases hn : c.authenticator.authorize net with ⟨authorization, middle⟩
  rw [hn] at h
  cases h
  rfl

/-- A request that is authorized is sent, and ends as the next answer says. -/
theorem exchange_of_authorized {c : Client} {net : Network} {header : String}
    (h : (c.authenticator.authorize net).1 = .ok header) (url : String) (params : Value)
    (headers : Members) :
    c.exchange url params headers net =
      ((net.dataAnswers.headD .exhausted).outcome url,
        ((c.authenticator.authorize net).2.sendData
          ⟨url, params, headers, header, c.timeout, c.verify⟩).2) := by
  have hdata := dataAnswers_authorize c.authenticator net
  unfold exchange
  rcases hn : c.authenticator.authorize net with ⟨authorization, middle⟩
  rw [hn] at h hdata
  cases h
  rw [← hdata]
  rfl

/-- A page whose request is authorized is what the next answer decides. -/
theorem page_of_authorized {c : Client} {net : Network} {header : String}
    (h : (c.authenticator.authorize net).1 = .ok header) (endpoint : String) :
    (c.page endpoint net).1 =
        payloadOf ((net.dataAnswers.headD .exhausted).outcome (c.resolve endpoint)) ∧
      c.Requested endpoint net (c.page endpoint net).2 := by
  have hasked := c.authenticator.asked_authorize net
  have hpage : c.page endpoint net =
      (payloadOf (c.exchange (c.resolve endpoint) .null [("x-api-key", c.apiKey)] net).1,
        (c.exchange (c.resolve endpoint) .null [("x-api-key", c.apiKey)] net).2) := rfl
  rw [hpage, exchange_of_authorized h]
  refine ⟨rfl, ?_, ?_, rfl⟩
  · rw [← hasked]
    show (_ ++ [_]).filterMap Sent.url? = List.filterMap Sent.url? _ ++ [_]
    rw [List.filterMap_append]
    rfl
  · rw [← dataAnswers_authorize c.authenticator net]
    rfl

/-- A page arrives exactly if the request is authorized and the next answer holds the page. -/
theorem page_eq_ok_iff {c : Client} {endpoint : String} {net : Network} {members : Members} :
    (c.page endpoint net).1 = .ok members ↔
      (∃ header, (c.authenticator.authorize net).1 = .ok header) ∧
        net.dataAnswers.head?.bind Answer.page? = some members := by
  have hhead : (net.dataAnswers.headD .exhausted).page? =
      net.dataAnswers.head?.bind Answer.page? := by
    cases net.dataAnswers <;> rfl
  cases h : (c.authenticator.authorize net).1 with
  | error failure =>
    rw [page_of_refused h]
    simp
  | ok header =>
    rw [(page_of_authorized h endpoint).1, payloadOf_outcome_eq_ok_iff, hhead]
    simp

/-- Answers hold pages if the first holds the first page and those after it hold the others. -/
theorem answered_cons_iff {answers : List Answer} {page : Members} {rest : List Members} :
    (answers.take (rest.length + 1)).map Answer.page? = (page :: rest).map some ↔
      answers.head?.bind Answer.page? = some page ∧
        (answers.tail.take rest.length).map Answer.page? = rest.map some := by
  cases answers with
  | nil => simp
  | cons a answers => simp

/-- Whether the next answers hold these pages, all requests for them and one more being
authorized. -/
structure Served (c : Client) (net : Network) (pages : List Members) : Prop where
  /-- The requests are authorized. -/
  authorized : c.authenticator.Authorizes net.tokenAnswers (pages.length + 1)
  /-- The answers hold the pages. -/
  answered : (net.dataAnswers.take pages.length).map Answer.page? = pages.map some

/-- No page is served as soon as a request is authorized. -/
theorem served_nil_iff {c : Client} {net : Network} :
    c.Served net [] ↔ ∃ header, (c.authenticator.authorize net).1 = .ok header := by
  constructor
  · intro h
    exact ((c.authenticator.authorizes_succ_iff net 0).1 h.authorized).1
  · intro h
    refine ⟨(c.authenticator.authorizes_succ_iff net 0).2 ⟨h, ?_⟩, rfl⟩
    exact fun i hi => absurd hi (Nat.not_lt_zero i)

/-- Of requests that are authorized and answers that hold pages, the first request brings the first
page, and the others are left, whatever address is asked. -/
theorem supplied_cons_iff {c : Client} {net : Network} (endpoint : String) (count : Nat)
    {page : Members} {rest : List Members} :
    c.authenticator.Authorizes net.tokenAnswers (count + 1) ∧
        (net.dataAnswers.take (rest.length + 1)).map Answer.page? = (page :: rest).map some ↔
      (c.page endpoint net).1 = .ok page ∧
        c.authenticator.Authorizes (c.page endpoint net).2.tokenAnswers count ∧
        ((c.page endpoint net).2.dataAnswers.take rest.length).map Answer.page? =
          rest.map some := by
  rw [answered_cons_iff, c.authenticator.authorizes_succ_iff, page_eq_ok_iff]
  constructor
  · rintro ⟨⟨⟨header, hheader⟩, hauthorized⟩, hfirst, hrest⟩
    have hrequested := (page_of_authorized hheader endpoint).2
    rw [hrequested.tokenAnswers, hrequested.dataAnswers]
    exact ⟨⟨⟨header, hheader⟩, hfirst⟩, hauthorized, hrest⟩
  · rintro ⟨⟨⟨header, hheader⟩, hfirst⟩, hauthorized, hrest⟩
    have hrequested := (page_of_authorized hheader endpoint).2
    rw [hrequested.tokenAnswers] at hauthorized
    rw [hrequested.dataAnswers] at hrest
    exact ⟨⟨⟨header, hheader⟩, hauthorized⟩, hfirst, hrest⟩

/-- Pages are served if the first arrives and the others are served after it, whatever address is
asked for the first. -/
theorem served_cons_iff {c : Client} {net : Network} (endpoint : String) {page : Members}
    {rest : List Members} :
    c.Served net (page :: rest) ↔
      (c.page endpoint net).1 = .ok page ∧ c.Served (c.page endpoint net).2 rest := by
  constructor
  · intro h
    obtain ⟨hpage, hauthorized, hanswered⟩ :=
      (supplied_cons_iff endpoint (rest.length + 1)).1 ⟨h.authorized, h.answered⟩
    exact ⟨hpage, hauthorized, hanswered⟩
  · rintro ⟨hpage, h⟩
    obtain ⟨hauthorized, hanswered⟩ :=
      (supplied_cons_iff endpoint (rest.length + 1)).2 ⟨hpage, h.authorized, h.answered⟩
    exact ⟨hauthorized, hanswered⟩

/-- A request for a page asks its address, or none at all. -/
theorem asked_page (c : Client) (endpoint : String) (net : Network) :
    (c.page endpoint net).2.asked = net.asked ∨
      (c.page endpoint net).2.asked = net.asked ++ [c.resolve endpoint] := by
  cases h : (c.authenticator.authorize net).1 with
  | error failure =>
    rw [page_of_refused h]
    exact Or.inl (c.authenticator.asked_authorize net)
  | ok header => exact Or.inr (page_of_authorized h endpoint).2.asked

end Client

end OData
