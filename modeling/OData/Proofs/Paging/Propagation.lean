import OData.Proofs.Paging.Budget

/-!
# Failures end a walk at once

* **How a request fails** (`Client.Fails`, `page_eq_error_iff`): in one of seven ways.
* **The requests of a run** (`readAll_requests`): all of them bring pages, but for at most one,
  which is the last.
* **A failure ends a run** (`readAll_failure`): if the last request fails, reading all records fails
  as that request does and gives no records, and walking through the pages hands out those that hold
  records before it and fails in the same way.
-/

namespace OData.Client

variable {c : Client} {net : Network} {endpoint : String} {failure : Failure}

/-! ## How a request fails -/

/-- How a request for a page fails. What comes later in the list happens only if what comes earlier
does not: the request is authorized before it is sent, and an answer is read only if one arrives. -/
inductive Fails (c : Client) (endpoint : String) (net : Network) : Failure → Prop where
  /-- No token is obtained. -/
  | token {credentials : ClientCredentials} {cause : TokenFailure}
      (hc : c.authenticator = .client credentials)
      (h : ClientCredentials.ofAnswer (net.tokenAnswers.headD .exhausted) = .error (.token cause)) :
      Fails c endpoint net (.token cause)
  /-- The request cannot be authorized for another reason. -/
  | unauthorized {failure : Failure}
      (h : c.authenticator.authorization net.tokenAnswers = .error failure)
      (hother : ∀ cause, failure ≠ .token cause) : Fails c endpoint net failure
  /-- The service cannot be reached. -/
  | unreachable {header reason : String}
      (hauthorized : c.authenticator.authorization net.tokenAnswers = .ok header)
      (h : net.dataAnswers.headD .exhausted = .unreachable reason) :
      Fails c endpoint net (.unreachable reason)
  /-- The operating system fails. -/
  | system {header : String}
      (hauthorized : c.authenticator.authorization net.tokenAnswers = .ok header)
      (h : net.dataAnswers.headD .exhausted = .systemFailure) : Fails c endpoint net .system
  /-- The response reports an error, which is what its body says. -/
  | reported {header explanation : String} {r : Response}
      (hauthorized : c.authenticator.authorization net.tokenAnswers = .ok header)
      (h : net.dataAnswers.headD .exhausted = .response r) (hstatus : 400 ≤ r.status)
      (hbody : r.explanation = .ok explanation) :
      Fails c endpoint net (.reported (r.errorAnswer (c.resolve endpoint) explanation))
  /-- The response reports an error, and its body cannot be read. -/
  | unexplained {header : String} {r : Response} {cause : Fault}
      (hauthorized : c.authenticator.authorization net.tokenAnswers = .ok header)
      (h : net.dataAnswers.headD .exhausted = .response r) (hstatus : 400 ≤ r.status)
      (hbody : r.explanation = .error cause) : Fails c endpoint net (.argument cause)
  /-- The response holds no payload. -/
  | payload {header : String} {r : Response} {cause : Undecoded}
      (hauthorized : c.authenticator.authorization net.tokenAnswers = .ok header)
      (h : net.dataAnswers.headD .exhausted = .response r) (hstatus : r.status < 400)
      (hbody : Payload.decode (.bytes r.body) = .error cause) :
      Fails c endpoint net cause.failure

/-- A refused argument is no failure to obtain a token. -/
theorem refusing_ne_token {α : Type} {x : Except Fault α} {cause : TokenFailure} :
    refusing x ≠ .error (.token cause) := by
  intro h
  cases x <;> cases h

/-- A name and a password need no token. -/
theorem basicOf_ne_token {user password : Value} {cause : TokenFailure} :
    Authenticator.basicOf user password ≠ .error (.token cause) := by
  intro h
  unfold Authenticator.basicOf at h
  cases hname : refusing user.showPlain with
  | error failure =>
    rw [hname] at h
    exact refusing_ne_token (hname.trans h)
  | ok name =>
    cases hsecret : refusing password.showPlain with
    | error failure =>
      rw [hname, hsecret] at h
      exact refusing_ne_token (hsecret.trans h)
    | ok secret =>
      rw [hname, hsecret] at h
      simp only [bind, Except.bind] at h
      split at h <;> cases h

/-- Only a client's credentials can fail to bring a token. -/
theorem exists_client_of_token {a : Authenticator} {tokens : List Answer} {cause : TokenFailure}
    (h : a.authorization tokens = .error (.token cause)) :
    ∃ credentials, a = .client credentials ∧
      ClientCredentials.ofAnswer (tokens.headD .exhausted) = .error (.token cause) := by
  cases a with
  | bearer token => exact absurd h refusing_ne_token
  | basic user password => exact absurd h basicOf_ne_token
  | client credentials =>
    refine ⟨credentials, rfl, ?_⟩
    change (ClientCredentials.ofAnswer (tokens.headD .exhausted)).map _ = _ at h
    cases hanswer : ClientCredentials.ofAnswer (tokens.headD .exhausted) with
    | ok token =>
      rw [hanswer] at h
      cases h
    | error failure =>
      rw [hanswer] at h
      exact h

/-- A request that is not authorized fails in one of the first two ways. -/
theorem fails_of_authorization
    (h : c.authenticator.authorization net.tokenAnswers = .error failure) :
    c.Fails endpoint net failure := by
  by_cases htoken : ∃ cause, failure = .token cause
  · obtain ⟨cause, rfl⟩ := htoken
    obtain ⟨credentials, hc, hanswer⟩ := exists_client_of_token h
    exact .token hc hanswer
  · exact .unauthorized h fun cause heq => htoken ⟨cause, heq⟩

/-- A request that is authorized fails as its answer says. -/
theorem fails_of_outcome {header : String}
    (hauthorized : c.authenticator.authorization net.tokenAnswers = .ok header)
    (h : payloadOf ((net.dataAnswers.headD .exhausted).outcome (c.resolve endpoint)) =
      .error failure) : c.Fails endpoint net failure := by
  cases hanswer : net.dataAnswers.headD .exhausted with
  | unreachable reason =>
    rw [hanswer] at h
    cases h
    exact .unreachable hauthorized hanswer
  | systemFailure =>
    rw [hanswer] at h
    cases h
    exact .system hauthorized hanswer
  | response r =>
    rw [hanswer, Answer.outcome, Response.outcome] at h
    split at h
    · rename_i hstatus
      cases hexplanation : r.explanation with
      | ok explanation =>
        rw [hexplanation] at h
        cases h
        exact .reported hauthorized hanswer hstatus hexplanation
      | error cause =>
        rw [hexplanation] at h
        cases h
        exact .unexplained hauthorized hanswer hstatus hexplanation
    · rename_i hstatus
      cases hbody : Payload.decode (.bytes r.body) with
      | ok members =>
        rw [payloadOf, hbody] at h
        cases h
      | error cause =>
        rw [payloadOf, hbody] at h
        cases h
        exact .payload hauthorized hanswer (Int.not_le.1 hstatus) hbody

/-- No page arrives exactly if the request fails in one of these ways. -/
theorem page_eq_error_iff :
    (c.page endpoint net).1 = .error failure ↔ c.Fails endpoint net failure := by
  have hrefused (h : c.authenticator.authorization net.tokenAnswers = .error failure) :
      (c.page endpoint net).1 = .error failure := by
    rw [page_of_refused (c.authenticator.authorize_fst net ▸ h)]
  have hsent {header : String}
      (h : c.authenticator.authorization net.tokenAnswers = .ok header) :
      (c.page endpoint net).1 =
        payloadOf ((net.dataAnswers.headD .exhausted).outcome (c.resolve endpoint)) :=
    (page_of_authorized (c.authenticator.authorize_fst net ▸ h) endpoint).1
  constructor
  · intro h
    cases hauthorized : c.authenticator.authorization net.tokenAnswers with
    | error cause =>
      rw [page_of_refused (c.authenticator.authorize_fst net ▸ hauthorized)] at h
      cases h
      exact fails_of_authorization hauthorized
    | ok header => exact fails_of_outcome hauthorized (hsent hauthorized ▸ h)
  · intro h
    cases h with
    | @token credentials cause hc hanswer =>
      apply hrefused
      rw [hc]
      change (ClientCredentials.ofAnswer (net.tokenAnswers.headD .exhausted)).map _ = _
      rw [hanswer]
      rfl
    | unauthorized h hother => exact hrefused h
    | unreachable hauthorized hanswer =>
      rw [hsent hauthorized, hanswer]
      rfl
    | system hauthorized hanswer =>
      rw [hsent hauthorized, hanswer]
      rfl
    | reported hauthorized hanswer hstatus hbody =>
      rw [hsent hauthorized, hanswer, Answer.outcome, Response.outcome, if_pos hstatus, hbody]
      rfl
    | unexplained hauthorized hanswer hstatus hbody =>
      rw [hsent hauthorized, hanswer, Answer.outcome, Response.outcome, if_pos hstatus, hbody]
      rfl
    | payload hauthorized hanswer hstatus hbody =>
      rw [hsent hauthorized, hanswer, Answer.outcome, Response.outcome,
        if_neg (Int.not_le.2 hstatus), payloadOf, hbody]

/-! ## Requests one after another -/

/-- The network after requests for endpoints, one after another. -/
def after (c : Client) (net : Network) (endpoints : List String) : Network :=
  endpoints.foldl (fun net endpoint => (c.page endpoint net).2) net

/-- Whether requests for endpoints, one after another, bring these pages. -/
inductive Brings (c : Client) : Network → List String → List Members → Prop where
  /-- No request brings no page. -/
  | nil {net : Network} : Brings c net [] []
  /-- A request that brings a page, before others that bring theirs. -/
  | cons {net : Network} {endpoint : String} {page : Members} {endpoints : List String}
      {pages : List Members} (hpage : (c.page endpoint net).1 = .ok page)
      (hrest : Brings c (c.page endpoint net).2 endpoints pages) :
      Brings c net (endpoint :: endpoints) (page :: pages)

/-- Of requests that bring pages none fails, after those before it. -/
theorem Brings.exists_of_append {endpoints before rest : List String} {pages : List Members}
    (h : c.Brings net endpoints pages) (heq : endpoints = before ++ endpoint :: rest) :
    ∃ first, c.Brings net before first ∧
      ∀ failure, ¬ c.Fails endpoint (c.after net before) failure := by
  induction h generalizing before with
  | nil => exact absurd heq (by simp)
  | @cons net other arrived endpoints pages hpage hrest ih =>
    cases before with
    | nil =>
      obtain ⟨rfl, rfl⟩ := List.cons.inj heq
      refine ⟨[], .nil, fun failure hfails => ?_⟩
      cases hpage.symm.trans (page_eq_error_iff.2 hfails)
    | cons earlier before =>
      obtain ⟨rfl, hothers⟩ := List.cons.inj heq
      obtain ⟨first, hfirst, hlast⟩ := ih hothers
      exact ⟨arrived :: first, .cons hpage hfirst, hlast⟩

/-! ## Walks -/

/-- What a walk hands out of pages: the records of those that hold any. -/
def handedOut (pages : List Members) : List Value :=
  (pages.filter holdsRecords).map fun page => Payload.results (.object page)

theorem handedOut_append (first second : List Members) :
    handedOut (first ++ second) = handedOut first ++ handedOut second := by
  simp [handedOut]

variable {limit : Value} {records next pages : List Value} {count handed : Nat}
  {seen : List String} {page : Members}

/-- The reader of pages keeps a page that the reader of records takes, and goes on with it. -/
theorem hand_keepPages (h : hand keepRecords limit records count page = .next next handed) :
    hand (keepPages none) limit pages count page = .next (pages ++ handedOut [page]) handed := by
  cases hholds : holdsRecords page with
  | false =>
    have hnone : handedOut [page] = [] := by simp [handedOut, hholds]
    rw [hand_of_not_truthy hholds] at h ⊢
    cases h
    rw [hnone, List.append_nil]
  | true =>
    have hone : handedOut [page] = [Payload.results (.object page)] := by simp [handedOut, hholds]
    rw [hand_of_truthy hholds] at h ⊢
    cases htaken : keepRecords records (Payload.results (.object page)) with
    | more taken =>
      rw [htaken] at h
      cases hlimit : limitReached limit (count + 1) with
      | error cause =>
        rw [hlimit] at h
        cases h
      | ok reached =>
        rw [hlimit] at h
        cases reached with
        | true => cases h
        | false =>
          cases h
          rw [hone, keepPages]
          rfl
    | enough taken =>
      rw [htaken] at h
      cases h
    | refuse cause =>
      rw [htaken] at h
      cases h

/-- **The requests of a walk.** After a page, links are requested that all bring pages, and then at
most one that does not. There the walk ends, for the reader of records and for that of pages. -/
theorem follow_requests (c : Client) (limit : Value) (records : List Value) (count : Nat)
    (seen : List String) (page : Members) (net : Network) (pages : List Value) :
    ∃ links arrived, c.Brings net links arrived ∧
      ((c.follow keepRecords limit records count seen page net).2 = c.after net links ∨
        ∃ link failure state, (c.page link (c.after net links)).1 = .error failure ∧
          c.follow keepRecords limit records count seen page net =
            (⟨state, .failed failure⟩, c.after net (links ++ [link])) ∧
          c.follow (keepPages none) limit pages count seen page net =
            (⟨pages ++ handedOut (page :: arrived), .failed failure⟩,
              c.after net (links ++ [link]))) := by
  fun_induction c.follow keepRecords limit records count seen page net generalizing pages with
  | case1 => exact ⟨[], [], .nil, Or.inl rfl⟩
  | case2 => exact ⟨[], [], .nil, Or.inl rfl⟩
  | case3 => exact ⟨[], [], .nil, Or.inl rfl⟩
  | case4 records count seen page net next handed hhand link honward failure left hpage =>
    have hfirst : (c.page link net).1 = .error failure := by rw [hpage]
    have hleft : left = c.after net ([] ++ [link]) := (congrArg Prod.snd hpage).symm
    refine ⟨[], [], .nil, Or.inr ⟨link, failure, next, hfirst, ?_, ?_⟩⟩
    · rw [hleft]
    · exact follow_of_failure (hand_keepPages hhand) honward hfirst
  | case5 records count seen page net next handed hhand link honward arrived left hpage ih =>
    have hfirst : (c.page link net).1 = .ok arrived := by rw [hpage]
    have hleft : left = (c.page link net).2 := (congrArg Prod.snd hpage).symm
    subst hleft
    obtain ⟨links, others, hbrings, hends⟩ := ih (pages ++ handedOut [page])
    refine ⟨link :: links, arrived :: others, .cons hfirst hbrings, ?_⟩
    rcases hends with hends | ⟨last, failure, state, hfailure, hrecords, hpages⟩
    · exact Or.inl hends
    · refine Or.inr ⟨last, failure, state, hfailure, hrecords, ?_⟩
      rw [follow_of_page (hand_keepPages hhand) honward hfirst, hpages, List.append_assoc,
        ← handedOut_append]
      rfl

/-- A walk that failed gives no records. -/
theorem readAll_of_failed {q : Query} {state : List Value} {left : Network}
    (h : c.walk q keepRecords limit [] net = (⟨state, .failed failure⟩, left)) :
    c.readAll q limit net = (.error failure, left) := by
  unfold readAll
  rw [h]

/-- **The requests of a run.** Requests are made that all bring pages, and then at most one that
does not. There the run ends, whether records are read or pages are walked through. -/
theorem readAll_requests (c : Client) (q : Query) (limit : Value) (net : Network) :
    ∃ front pages, c.Brings net front pages ∧
      (front.head? = q.address.toOption ∧ (c.readAll q limit net).2 = c.after net front ∨
        ∃ last failure, (front ++ [last]).head? = q.address.toOption ∧
          (c.page last (c.after net front)).1 = .error failure ∧
          c.readAll q limit net = (.error failure, c.after net (front ++ [last])) ∧
          c.iterate q limit none net =
            (⟨handedOut pages, .failed failure⟩, c.after net (front ++ [last]))) := by
  have hiterate : c.iterate q limit none net = c.walk q (keepPages none) limit [] net := rfl
  rw [hiterate, readAll_snd]
  cases haddress : q.address with
  | error cause =>
    refine ⟨[], [], .nil, Or.inl ⟨rfl, ?_⟩⟩
    rw [walk_of_no_address haddress]
    rfl
  | ok endpoint =>
    cases hpage : (c.page endpoint net).1 with
    | error failure =>
      refine ⟨[], [], .nil, Or.inr ⟨endpoint, failure, rfl, hpage, ?_, ?_⟩⟩
      · exact readAll_of_failed (walk_of_failure haddress hpage)
      · exact walk_of_failure haddress hpage
    | ok page =>
      obtain ⟨links, arrived, hbrings, hends⟩ :=
        c.follow_requests limit [] 0 [] page (c.page endpoint net).2 []
      refine ⟨endpoint :: links, page :: arrived, .cons hpage hbrings, ?_⟩
      rw [walk_of_page haddress hpage, walk_of_page haddress hpage]
      rcases hends with hends | ⟨last, failure, state, hfailure, hrecords, hpages⟩
      · exact Or.inl ⟨rfl, hends⟩
      · refine Or.inr ⟨last, failure, rfl, hfailure, ?_, hpages⟩
        exact readAll_of_failed ((walk_of_page haddress hpage).trans hrecords)

/-- **Failures end a run at once.** Of the requests of a run, in order, the first is for the page of
the query, and before any of them all others have brought pages. If one fails, it is the last: the
run fails as this request does, gives no records, and had handed out those pages before it that hold
records. If the run gives records, every request has brought a page. -/
theorem readAll_failure (c : Client) (q : Query) (limit : Value) (net : Network) :
    ∃ endpoints, endpoints.head? = q.address.toOption ∧
      (c.readAll q limit net).2 = c.after net endpoints ∧
      (∀ before endpoint rest, endpoints = before ++ endpoint :: rest →
        ∃ pages, c.Brings net before pages ∧
          ∀ failure, c.Fails endpoint (c.after net before) failure →
            rest = [] ∧ (c.page endpoint (c.after net before)).1 = .error failure ∧
              (c.readAll q limit net).1 = .error failure ∧
              c.iterate q limit none net =
                (⟨handedOut pages, .failed failure⟩, c.after net endpoints)) ∧
      ∀ records, (c.readAll q limit net).1 = .ok records →
        ∃ pages, c.Brings net endpoints pages := by
  obtain ⟨front, pages, hbrings, hends⟩ := c.readAll_requests q limit net
  rcases hends with ⟨hhead, hleft⟩ | ⟨last, failure, hhead, hlast, hrecords, hpages⟩
  · refine ⟨front, hhead, hleft, ?_, fun records hok => ⟨pages, hbrings⟩⟩
    intro before endpoint rest hsplit
    obtain ⟨first, hfirst, hnone⟩ := hbrings.exists_of_append hsplit
    exact ⟨first, hfirst, fun failure hfails => absurd hfails (hnone failure)⟩
  · refine ⟨front ++ [last], hhead, by rw [hrecords], ?_, fun records hok => ?_⟩
    · intro before endpoint rest hsplit
      rcases List.eq_nil_or_concat rest with rfl | ⟨others, final, rfl⟩
      · obtain ⟨rfl, hsame⟩ := List.append_inj' hsplit rfl
        obtain rfl := List.singleton_inj.1 hsame
        refine ⟨pages, hbrings, fun other hfails => ?_⟩
        have hother := page_eq_error_iff.2 hfails
        obtain rfl : failure = other := Except.error.inj (hlast.symm.trans hother)
        exact ⟨rfl, hother, by rw [hrecords], hpages⟩
      · rw [List.concat_eq_append, ← List.cons_append, ← List.append_assoc] at hsplit
        obtain ⟨hfront, -⟩ := List.append_inj' hsplit rfl
        obtain ⟨first, hfirst, hnone⟩ := hbrings.exists_of_append hfront
        exact ⟨first, hfirst, fun other hfails => absurd hfails (hnone other)⟩
    · rw [hrecords] at hok
      cases hok

end OData.Client
