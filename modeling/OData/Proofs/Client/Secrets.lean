import Mathlib.Data.List.Forall2
import OData.Proofs.Client.FreshToken
import OData.Proofs.Paging.Step

/-!
# What a client does with its secrets

A secret decides how a request is authorized and nothing else. Two clients, and two networks, are
related if they are the same but for secrets: keys, passwords, tokens.

* **Authorization** (`Authenticator.sameOutcome_authorize`): both succeed, with headers that need
  not be the same, or both fail alike.
* **One request** (`sameOutcome_page`): related clients on related networks get the same page or the
  same failure, ask the same address, and leave related networks.
* **Walks** (`sameOutcome_follow`): so do walks, whatever reads their pages.
-/

namespace OData

/-! ## What may differ -/

/-- Whether two values are the same, or are both texts that are not empty. -/
def Value.SameButSecret (v w : Value) : Prop :=
  v = w ∨ ∃ s t, v = .text s ∧ s ≠ "" ∧ w = .text t ∧ t ≠ ""

/-- Whether a response brings a token, whatever its status: its document is an object in which the
token is a text that is not empty. -/
def Response.BringsToken (r : Response) : Prop :=
  ∃ document token, r.document = .ok document ∧
    document.get? "access_token" = some (.text token) ∧ token ≠ ""

/-- Answers that are the same, or that are responses with the same status and each with a token. -/
inductive Answer.SameButToken : Answer → Answer → Prop where
  /-- The answers are the same. -/
  | same (a : Answer) : SameButToken a a
  /-- Each brings a token. -/
  | tokens {r s : Response} (hstatus : r.status = s.status) (hr : r.BringsToken)
      (hs : s.BringsToken) : SameButToken (.response r) (.response s)

/-- Whether two networks are the same but for the tokens that are to come and the requests that were
not for data. -/
structure Network.SameButSecrets (net other : Network) : Prop where
  /-- The answers to requests for data are the same. -/
  dataAnswers : net.dataAnswers = other.dataAnswers
  /-- The answers to requests for tokens bring the same but for tokens. -/
  tokenAnswers : List.Forall₂ Answer.SameButToken net.tokenAnswers other.tokenAnswers
  /-- The same addresses were asked for data. -/
  asked : net.asked = other.asked

/-- Authenticators with a token each, or with credentials each that are exchanged for one. -/
inductive Authenticator.SameButSecrets : Authenticator → Authenticator → Prop where
  /-- Each has a token. -/
  | bearer {v w : Value} (h : v.SameButSecret w) : SameButSecrets (.bearer v) (.bearer w)
  /-- Each has credentials. -/
  | client (k l : ClientCredentials) : SameButSecrets (.client k) (.client l)

/-- Whether two clients ask the same service, each with secrets of its own. -/
structure Client.SameButSecrets (c d : Client) : Prop where
  /-- The address of the service is the same. -/
  base : c.base = d.base
  /-- Requests are authorized in the same way. -/
  authenticator : c.authenticator.SameButSecrets d.authenticator

/-- Whether two runs give the same result and leave networks that are the same but for secrets. -/
structure SameOutcome {α : Type} (x y : α × Network) : Prop where
  /-- The results are the same. -/
  result : x.1 = y.1
  /-- The networks are the same but for secrets. -/
  network : x.2.SameButSecrets y.2

/-- The same is made of the same results. -/
theorem SameOutcome.map {α β : Type} {x y : α × Network} (h : SameOutcome x y) (f : α → β) :
    SameOutcome (f x.1, x.2) (f y.1, y.2) :=
  ⟨congrArg f h.result, h.network⟩

variable {net other : Network}

/-! ## Authorization -/

namespace ClientCredentials

/-- A response that brings a token amounts to one, or to a refusal that depends on its status
alone. -/
theorem tokenOf_of_bringsToken {r : Response} (h : r.BringsToken) :
    (∃ token, tokenOf r = .ok token ∧ 200 ≤ r.status ∧ r.status < 300) ∨
      tokenOf r = .error (.token (.refused r.status)) ∧ ¬ (200 ≤ r.status ∧ r.status < 300) := by
  obtain ⟨document, token, hdocument, htoken⟩ := h
  unfold tokenOf
  by_cases hstatus : 200 ≤ r.status ∧ r.status < 300
  · rw [if_pos hstatus, hdocument]
    exact Or.inl ⟨token, tokenIn_eq_ok_iff.2 htoken, hstatus⟩
  · exact Or.inr ⟨if_neg hstatus, hstatus⟩

/-- A response whose token is accepted brings one. -/
theorem bringsToken_of_tokenOf {r : Response} {token : String}
    (h : (tokenOf r).toOption = some token) : r.BringsToken := by
  unfold tokenOf at h
  split at h
  · split at h
    · rename_i document hdocument
      cases htoken : tokenIn document with
      | error cause => simp [htoken, Except.toOption] at h
      | ok found => exact ⟨document, found, hdocument, tokenIn_eq_ok_iff.1 htoken⟩
    · cases h
    · cases h
  · cases h

/-- Answers that are the same but for a token both amount to a token, or to the same failure. -/
theorem ofAnswer_sameButToken {a b : Answer} (h : a.SameButToken b) :
    (∃ s t, ofAnswer a = .ok s ∧ ofAnswer b = .ok t) ∨
      ∃ failure, ofAnswer a = .error failure ∧ ofAnswer b = .error failure := by
  cases h with
  | same =>
    cases h : ofAnswer a with
    | ok token => exact Or.inl ⟨token, token, rfl, rfl⟩
    | error failure => exact Or.inr ⟨failure, rfl, rfl⟩
  | @tokens r s hstatus hr hs =>
    rcases tokenOf_of_bringsToken hr with ⟨first, hfirst, hrange⟩ | ⟨hfirst, hrange⟩
    · rcases tokenOf_of_bringsToken hs with ⟨second, hsecond, -⟩ | ⟨-, hother⟩
      · exact Or.inl ⟨first, second, by simp [ofAnswer, hfirst], by simp [ofAnswer, hsecond]⟩
      · exact absurd (hstatus ▸ hrange) hother
    · rcases tokenOf_of_bringsToken hs with ⟨-, -, hother⟩ | ⟨hsecond, -⟩
      · exact absurd (hstatus ▸ hother) hrange
      · refine Or.inr ⟨.token (.refused r.status), by simp [ofAnswer, hfirst], ?_⟩
        simp [ofAnswer, hsecond, hstatus]

end ClientCredentials

/-- Networks that have not been asked yet are the same but for secrets if their answers are. -/
theorem Network.sameButSecrets_ofAnswers (pages : List Answer) {tokens others : List Answer}
    (h : List.Forall₂ Answer.SameButToken tokens others) :
    (ofAnswers pages tokens).SameButSecrets (ofAnswers pages others) :=
  ⟨rfl, h, rfl⟩

namespace Network.SameButSecrets

/-- The next answers to requests for tokens are the same but for a token. -/
theorem nextToken (h : net.SameButSecrets other) :
    (net.tokenAnswers.headD .exhausted).SameButToken (other.tokenAnswers.headD .exhausted) :=
  match net.tokenAnswers, other.tokenAnswers, h.tokenAnswers with
  | _, _, .nil => .same _
  | _, _, .cons ha _ => ha

/-- The answers after them are, too. -/
theorem laterTokens (h : net.SameButSecrets other) :
    List.Forall₂ Answer.SameButToken net.tokenAnswers.tail other.tokenAnswers.tail :=
  match net.tokenAnswers, other.tokenAnswers, h.tokenAnswers with
  | _, _, .nil => .nil
  | _, _, .cons _ hrest => hrest

end Network.SameButSecrets

/-- **Authorization.** Two requests are authorized or fail in the same way. -/
theorem Authenticator.sameOutcome_authorize {a b : Authenticator} (h : a.SameButSecrets b)
    (hnet : net.SameButSecrets other) :
    ((∃ s t, (a.authorize net).1 = .ok s ∧ (b.authorize other).1 = .ok t) ∨
        ∃ failure, (a.authorize net).1 = .error failure ∧
          (b.authorize other).1 = .error failure) ∧
      (a.authorize net).2.SameButSecrets (b.authorize other).2 := by
  have hasked : (a.authorize net).2.asked = (b.authorize other).2.asked := by
    rw [asked_authorize, asked_authorize, hnet.asked]
  have hdata : (a.authorize net).2.dataAnswers = (b.authorize other).2.dataAnswers := by
    rw [Client.dataAnswers_authorize, Client.dataAnswers_authorize, hnet.dataAnswers]
  cases h with
  | @bearer v w h =>
    refine ⟨?_, hdata, hnet.tokenAnswers, hasked⟩
    rcases h with rfl | ⟨s, t, rfl, -, rfl, -⟩
    · have hsame : ((bearer v).authorize other).1 = ((bearer v).authorize net).1 := rfl
      rw [hsame]
      cases (Authenticator.authorize (.bearer v) net).1 with
      | ok header => exact Or.inl ⟨header, header, rfl, rfl⟩
      | error failure => exact Or.inr ⟨failure, rfl, rfl⟩
    · exact Or.inl ⟨_, _, rfl, rfl⟩
  | client k l =>
    refine ⟨?_, hdata, hnet.laterTokens, hasked⟩
    have hanswer (k : ClientCredentials) (net : Network) :
        ((Authenticator.client k).authorize net).1 =
          (ClientCredentials.ofAnswer (net.tokenAnswers.headD .exhausted)).map bearerOf := rfl
    rw [hanswer, hanswer]
    rcases ClientCredentials.ofAnswer_sameButToken hnet.nextToken with
      ⟨s, t, hs, ht⟩ | ⟨failure, hs, ht⟩
    · exact Or.inl ⟨_, _, by rw [hs]; rfl, by rw [ht]; rfl⟩
    · exact Or.inr ⟨failure, by rw [hs]; rfl, by rw [ht]; rfl⟩

namespace Client

variable {σ : Type} {c d : Client} {q : Query}

/-! ## Pages -/

/-- **One request.** Two requests for a page bring the same page or fail in the same way. -/
theorem sameOutcome_page (h : c.SameButSecrets d) (hnet : net.SameButSecrets other)
    (endpoint : String) : SameOutcome (c.page endpoint net) (d.page endpoint other) := by
  obtain ⟨hauthorized, hafter⟩ := Authenticator.sameOutcome_authorize h.authenticator hnet
  have hresolve : c.resolve endpoint = d.resolve endpoint := by
    rw [resolve, resolve, h.base]
  rcases hauthorized with ⟨s, t, hs, ht⟩ | ⟨failure, hs, ht⟩
  · obtain ⟨hc, hleft⟩ := page_of_authorized hs endpoint
    obtain ⟨hd, hright⟩ := page_of_authorized ht endpoint
    refine ⟨?_, ?_, ?_, ?_⟩
    · rw [hc, hd, hnet.dataAnswers, hresolve]
    · rw [hleft.dataAnswers, hright.dataAnswers, hnet.dataAnswers]
    · rw [hleft.tokenAnswers, hright.tokenAnswers]
      exact hafter.tokenAnswers
    · rw [hleft.asked, hright.asked, hnet.asked, hresolve]
  · rw [page_of_refused hs, page_of_refused ht]
    exact ⟨rfl, hafter⟩

theorem sameOutcome_execute (h : c.SameButSecrets d) (hnet : net.SameButSecrets other)
    (q : Query) : SameOutcome (c.execute q net) (d.execute q other) := by
  unfold execute
  cases q.address with
  | ok endpoint => exact sameOutcome_page h hnet endpoint
  | error cause => exact ⟨rfl, hnet⟩

/-- **Walks.** Two walks from the same page meet the same pages and end in the same way. -/
theorem sameOutcome_follow (h : c.SameButSecrets d) (reader : σ → Value → Verdict σ)
    (limit : Value) (state : σ) (count : Nat) (seen : List String) (page : Members)
    (hnet : net.SameButSecrets other) :
    SameOutcome (c.follow reader limit state count seen page net)
      (d.follow reader limit state count seen page other) := by
  fun_induction c.follow reader limit state count seen page net generalizing other with
  | case1 _ _ _ _ _ walk hhand =>
    rw [follow_of_done hhand]
    exact ⟨rfl, hnet⟩
  | case2 _ _ _ _ _ _ _ hhand honward =>
    rw [follow_of_stop hhand honward]
    exact ⟨rfl, hnet⟩
  | case3 _ _ _ _ _ _ _ hhand _ honward =>
    rw [follow_of_refuse hhand honward]
    exact ⟨rfl, hnet⟩
  | case4 _ _ _ _ _ _ _ hhand link honward failure after hpage =>
    have hsame := sameOutcome_page h hnet link
    rw [hpage] at hsame
    rw [follow_of_failure hhand honward hsame.result.symm]
    exact ⟨rfl, hsame.network⟩
  | case5 _ _ _ _ _ _ _ hhand link honward members after hpage ih =>
    have hsame := sameOutcome_page h hnet link
    rw [hpage] at hsame
    rw [follow_of_page hhand honward hsame.result.symm]
    exact ih hsame.network

theorem sameOutcome_walk (h : c.SameButSecrets d) (hnet : net.SameButSecrets other) (q : Query)
    (reader : σ → Value → Verdict σ) (limit : Value) (state : σ) :
    SameOutcome (c.walk q reader limit state net) (d.walk q reader limit state other) := by
  obtain ⟨hresult, hafter⟩ := sameOutcome_execute h hnet q
  unfold walk
  cases hc : c.execute q net with
  | mk first left =>
    cases hd : d.execute q other with
    | mk second right =>
      rw [hc, hd] at hresult hafter
      obtain rfl : first = second := hresult
      cases first with
      | error failure => exact ⟨rfl, hafter⟩
      | ok page => exact sameOutcome_follow h reader limit state 0 [] page hafter

theorem sameOutcome_readAll (h : c.SameButSecrets d) (hnet : net.SameButSecrets other) (q : Query)
    (limit : Value) : SameOutcome (c.readAll q limit net) (d.readAll q limit other) := by
  obtain ⟨hresult, hafter⟩ := sameOutcome_walk h hnet q keepRecords limit []
  refine ⟨?_, ?_⟩
  · unfold readAll
    dsimp only
    rw [hresult]
    split <;> rfl
  · rw [readAll_snd, readAll_snd]
    exact hafter

theorem sameOutcome_entities (h : c.SameButSecrets d) (hnet : net.SameButSecrets other)
    (q : Query) (type : Value) :
    SameOutcome (c.entities q type net) (d.entities q type other) :=
  (sameOutcome_execute h hnet q).map fun page =>
    page.bind fun members => refusing (Payload.entities (.object members) type)

/-- Closing a client asks nothing. -/
theorem sameButSecrets_close (hnet : net.SameButSecrets other) (c d : Client) :
    (c.close net).SameButSecrets (d.close other) := by
  have hclose (c : Client) (net : Network) : (c.close net).dataAnswers = net.dataAnswers ∧
      (c.close net).tokenAnswers = net.tokenAnswers ∧ (c.close net).asked = net.asked := by
    unfold close Authenticator.close
    cases c.authenticator <;> exact ⟨rfl, rfl, rfl⟩
  obtain ⟨hdata, htokens, hasked⟩ := hclose c net
  obtain ⟨hdata', htokens', hasked'⟩ := hclose d other
  refine ⟨?_, ?_, ?_⟩
  · rw [hdata, hdata', hnet.dataAnswers]
  · rw [htokens, htokens']
    exact hnet.tokenAnswers
  · rw [hasked, hasked', hnet.asked]

end Client

end OData
