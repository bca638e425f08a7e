import Mathlib.Data.Finset.Card
import OData.Proofs.Paging.Distinct

/-!
# Walks end on finitely many links

A server answers every request, and may take all requests before it into account.

* **A bound on the requests** (`exists_ends_of_linksWithin`): if the links of its pages are among
  finitely many, a run through the pages of a query asks for at most one page more than there are
  links.
* **The measure** (`exists_ends_follow`): every link that is followed is one of those that were not
  followed before.

What ends a run is not that answers are used up: `Server.Ends` says that whatever answers are left
over stay as they are.
-/

namespace OData

/-! ## Servers -/

/-- Whether an entry of the log is a request for data. -/
def Sent.isData : Sent → Bool
  | .data _ => true
  | .token _ => false

/-- A server: what it answers, given all requests sent so far. The last of them is the one that it
answers. -/
def Server : Type := List Sent → Answer

namespace Server

variable {server : Server} {before added : List Sent} {α β : Type}

/-- The answers to those of the requests after `before` that are of a kind. -/
def answers (server : Server) (kind : Sent → Bool) : List Sent → List Sent → List Answer
  | _, [] => []
  | before, entry :: rest =>
    (if kind entry then [server (before ++ [entry])] else []) ++
      server.answers kind (before ++ [entry]) rest

theorem answers_append (server : Server) (kind : Sent → Bool) (before first second : List Sent) :
    server.answers kind before (first ++ second) =
      server.answers kind before first ++ server.answers kind (before ++ first) second := by
  induction first generalizing before with
  | nil => simp [answers]
  | cons entry first ih => simp [answers, ih]

/-- A network in which the requests `before` were sent and the answers to come are those of the
server to the requests `added`, and behind them those of another network. -/
def network (server : Server) (before added : List Sent) (rest : Network) : Network :=
  { rest with
    dataAnswers := server.answers Sent.isData before added ++ rest.dataAnswers
    tokenAnswers := server.answers (!Sent.isData ·) before added ++ rest.tokenAnswers
    log := before }

theorem network_append (server : Server) (before first second : List Sent) (rest : Network) :
    server.network before (first ++ second) rest =
      server.network before first (server.network (before ++ first) second rest) := by
  simp [network, answers_append]

/-- Whether a run that starts after the requests `before` ends with a result once it has sent the
requests `added` and the server has answered them, whatever answers are left over. -/
def Ends (server : Server) (before : List Sent) (run : Network → α × Network) (added : List Sent)
    (result : α) : Prop :=
  ∀ rest : Network,
    run (server.network before added rest) = (result, { rest with log := before ++ added })

/-- A run that leaves the network alone ends without sending anything. -/
theorem ends_nil {run : Network → α × Network} {result : α} (h : ∀ net, run net = (result, net)) :
    server.Ends before run [] result := by
  intro rest
  rw [h, List.append_nil]
  rfl

/-- A run that has ended leaves the answers to later requests for the run after it. -/
theorem Ends.before_more {run : Network → α × Network} {result : α}
    (h : server.Ends before run added result) (more : List Sent) (rest : Network) :
    run (server.network before (added ++ more) rest) =
      (result, server.network (before ++ added) more rest) := by
  rw [network_append, h]
  rfl

/-- A run ends if it is a run that ends followed by another that ends. -/
theorem Ends.trans {first : Network → α × Network} {second run : Network → β × Network}
    {more : List Sent} {x : α} {y : β} (hfirst : server.Ends before first added x)
    (hsecond : server.Ends (before ++ added) second more y)
    (hrun : ∀ net, (first net).1 = x → run net = second (first net).2) :
    server.Ends before run (added ++ more) y := by
  intro rest
  have hmore := hfirst.before_more more rest
  rw [hrun _ (congrArg Prod.fst hmore), hmore, hsecond rest, List.append_assoc]

/-- Whether the links of the pages that a server answers with are among some. -/
def LinksWithin (server : Server) (links : Finset String) : Prop :=
  ∀ sent request page, (server (sent ++ [.data request])).page? = some page →
    ∀ link ∈ page.link?, link ∈ links

end Server

/-! ## Requests -/

/-- Authorizing a request ends without a request for data. -/
theorem Authenticator.exists_ends_authorize (a : Authenticator) (server : Server)
    (before : List Sent) :
    ∃ added result, server.Ends before a.authorize added result ∧
      added.countP Sent.isData = 0 := by
  cases a with
  | bearer token => exact ⟨[], _, Server.ends_nil fun net => rfl, rfl⟩
  | basic user password => exact ⟨[], _, Server.ends_nil fun net => rfl, rfl⟩
  | client credentials =>
    let answer := server (before ++ [.token credentials.request])
    exact ⟨[.token credentials.request], (ClientCredentials.ofAnswer answer).map bearerOf,
      fun rest => rfl, rfl⟩

namespace Client

variable {c : Client} {q : Query} {server : Server} {links : Finset String} {before : List Sent}
  {σ : Type} {reader : σ → Value → Verdict σ} {limit : Value}

/-- A request for a page ends after at most one request for data. If a page arrives, it is one that
the server answered with. -/
theorem exists_ends_page (c : Client) (endpoint : String) (server : Server)
    (before : List Sent) :
    ∃ added result, server.Ends before (c.page endpoint) added result ∧
      added.countP Sent.isData ≤ 1 ∧
      ∀ page, result = .ok page →
        ∃ sent request, (server (sent ++ [.data request])).page? = some page := by
  obtain ⟨added, result, hends, hcount⟩ := c.authenticator.exists_ends_authorize server before
  cases result with
  | error failure =>
    refine ⟨added, .error failure, fun rest => ?_, by omega, fun page h => nomatch h⟩
    have hauthorize := hends rest
    rw [page_of_refused (congrArg Prod.fst hauthorize), hauthorize]
  | ok authorization =>
    let url := c.resolve endpoint
    let request : DataRequest :=
      ⟨url, .null, [("x-api-key", c.apiKey)], authorization, c.timeout, c.verify⟩
    let answer := server (before ++ added ++ [.data request])
    have hsend : server.Ends (before ++ added)
        (fun net => (payloadOf ((net.sendData request).1.outcome url), (net.sendData request).2))
        [.data request] (payloadOf (answer.outcome url)) := fun rest => rfl
    refine ⟨added ++ [.data request], _, hends.trans hsend fun net hnet => ?_, ?_, ?_⟩
    · simp only [page, getPayload, get, headers, address, Value.truthy, exchange]
      rcases hn : c.authenticator.authorize net with ⟨authorized, middle⟩
      rw [hn] at hnet
      obtain rfl : authorized = .ok authorization := hnet
      rfl
    · rw [List.countP_append, hcount]
      exact Nat.le_refl 1
    · intro page hpage
      exact ⟨before ++ added, request, payloadOf_outcome_eq_ok_iff.1 hpage⟩

/-- A walk from a page on ends after at most as many requests for data as there are links that it
has not followed. -/
theorem exists_ends_follow (hserver : server.LinksWithin links) (c : Client)
    (reader : σ → Value → Verdict σ) (limit : Value) (state : σ) (count : Nat)
    (seen : List String) {page : Members} (hlinks : ∀ link ∈ page.link?, link ∈ links)
    (before : List Sent) :
    ∃ added walk, server.Ends before (c.follow reader limit state count seen page) added walk ∧
      added.countP Sent.isData ≤ (links \ seen.toFinset).card := by
  cases hhand : hand reader limit state count page with
  | done walk => exact ⟨[], walk, Server.ends_nil fun net => follow_of_done hhand, Nat.zero_le _⟩
  | next next handed =>
    cases honward : onward seen (Payload.nextLink (.object page)) with
    | stop =>
      exact ⟨[], _, Server.ends_nil fun net => follow_of_stop hhand honward, Nat.zero_le _⟩
    | refuse cause =>
      exact ⟨[], _, Server.ends_nil fun net => follow_of_refuse hhand honward, Nat.zero_le _⟩
    | follow link =>
      -- The link is one of those that were not followed, and is no longer after this.
      have hfewer : (links \ (link :: seen).toFinset).card + 1 = (links \ seen.toFinset).card := by
        obtain ⟨hlink, -, hfresh⟩ := onward_eq_follow_iff.1 honward
        have hmem : link ∈ links := hlinks link (by rw [Members.link?, hlink]; rfl)
        have hleft : link ∈ links \ seen.toFinset :=
          Finset.mem_sdiff.2 ⟨hmem, fun h => hfresh (List.mem_toFinset.1 h)⟩
        rw [List.toFinset_cons, Finset.sdiff_insert, Finset.card_erase_add_one hleft]
      obtain ⟨asked, result, hpage, hone, harrived⟩ := c.exists_ends_page link server before
      cases result with
      | error failure =>
        refine ⟨asked, ⟨next, .failed failure⟩, fun rest => ?_, by omega⟩
        have hfailure := hpage rest
        rw [follow_of_failure hhand honward (congrArg Prod.fst hfailure), hfailure]
      | ok arrived =>
        obtain ⟨sent, request, hholds⟩ := harrived arrived rfl
        obtain ⟨added, walk, hends, hcount⟩ := exists_ends_follow hserver c reader limit next
          handed (link :: seen) (hserver sent request arrived hholds) (before ++ asked)
        refine ⟨asked ++ added, walk, hpage.trans hends fun net hnet => ?_, ?_⟩
        · exact follow_of_page hhand honward hnet
        · rw [List.countP_append]
          omega
termination_by (links \ seen.toFinset).card
decreasing_by omega

/-- A walk through the pages of a query ends after at most one request for data more than there are
links. -/
theorem exists_ends_walk (hserver : server.LinksWithin links) (c : Client) (q : Query)
    (reader : σ → Value → Verdict σ) (limit : Value) (state : σ) (before : List Sent) :
    ∃ added walk, server.Ends before (c.walk q reader limit state) added walk ∧
      added.countP Sent.isData ≤ links.card + 1 := by
  cases haddress : q.address with
  | error cause =>
    exact ⟨[], _, Server.ends_nil fun net => walk_of_no_address haddress, Nat.zero_le _⟩
  | ok endpoint =>
    obtain ⟨asked, result, hpage, hone, harrived⟩ := c.exists_ends_page endpoint server before
    cases result with
    | error failure =>
      refine ⟨asked, ⟨state, .failed failure⟩, fun rest => ?_, by omega⟩
      have hfailure := hpage rest
      rw [walk_of_failure haddress (congrArg Prod.fst hfailure), hfailure]
    | ok arrived =>
      obtain ⟨sent, request, hholds⟩ := harrived arrived rfl
      obtain ⟨added, walk, hends, hcount⟩ := exists_ends_follow hserver c reader limit state 0 []
        (hserver sent request arrived hholds) (before ++ asked)
      refine ⟨asked ++ added, walk, hpage.trans hends fun net hnet => ?_, ?_⟩
      · exact walk_of_page haddress hnet
      · rw [List.toFinset_nil, Finset.sdiff_empty] at hcount
        rw [List.countP_append]
        omega

/-- **Paging ends on finitely many links.** If the links of the pages of a server, which may take
all earlier requests into account, are among finitely many, then a run through the pages of a query
ends, with a result or with a failure, after at most one request for data more than there are
links, whatever further answers there are. -/
theorem exists_ends_of_linksWithin (hserver : server.LinksWithin links) (c : Client) (q : Query)
    (limit : Value) (wanted : Option Nat) (before : List Sent) :
    (∃ added walk, server.Ends before (c.iterate q limit wanted) added walk ∧
      added.countP Sent.isData ≤ links.card + 1) ∧
    ∃ added result, server.Ends before (c.readAll q limit) added result ∧
      added.countP Sent.isData ≤ links.card + 1 := by
  constructor
  · unfold iterate
    by_cases hwanted : wanted = some 0
    · exact ⟨[], _, Server.ends_nil fun net => if_pos hwanted, Nat.zero_le _⟩
    · simp only [if_neg hwanted]
      exact exists_ends_walk hserver c q (keepPages wanted) limit [] before
  · obtain ⟨added, ⟨records, ending⟩, hends, hcount⟩ :=
      exists_ends_walk hserver c q keepRecords limit [] before
    cases ending with
    | failed failure =>
      exact ⟨added, .error failure, fun rest => by rw [readAll, hends rest], hcount⟩
    | satisfied => exact ⟨added, .ok records, fun rest => by rw [readAll, hends rest], hcount⟩
    | exhausted => exact ⟨added, .ok records, fun rest => by rw [readAll, hends rest], hcount⟩

/-- A server whose pages are empty and lead to each other in a circle of two links. Whether it comes
to one or to the other depends on how many requests it got. -/
theorem exists_ends_of_circle :
    let c : Client := ⟨"https://x/", .text "key-123", 60.0, .bool true, .bearer (.text "tok"), 0⟩
    let q := Query.ofBase (.text "Property/")
    let server : Server := fun sent =>
      if sent.length % 2 = 0 then .document "\x7b\x22@odata.nextLink\x22: \x22even\x22\x7d"
      else .document "\x7b\x22@odata.nextLink\x22: \x22odd\x22\x7d"
    server.LinksWithin {"even", "odd"} ∧
      (∃ added walk, server.Ends [] (c.iterate q .null none) added walk ∧
        added.countP Sent.isData ≤ 3) ∧
      ∃ added result, server.Ends [] (c.readAll q .null) added result ∧
        added.countP Sent.isData ≤ 3 := by
  intro c q server
  have hlink {s : String} {page : Members} (target : String)
      (hs : Payload.spells s [("@odata.nextLink", .text target)] = true)
      (h : (Answer.document s).page? = some page) : page.link? = some target := by
    rw [Answer.page?_document hs] at h
    obtain rfl := Option.some.inj h
    rfl
  have hwithin : server.LinksWithin {"even", "odd"} := by
    intro sent request page hpage link hmem
    rw [Finset.mem_insert, Finset.mem_singleton]
    by_cases heven : (sent ++ [Sent.data request]).length % 2 = 0
    · rw [show server _ = _ from if_pos heven] at hpage
      rw [hlink "even" (by decide +kernel) hpage, Option.mem_some_iff] at hmem
      exact Or.inl hmem.symm
    · rw [show server _ = _ from if_neg heven] at hpage
      rw [hlink "odd" (by decide +kernel) hpage, Option.mem_some_iff] at hmem
      exact Or.inr hmem.symm
  exact ⟨hwithin, exists_ends_of_linksWithin hwithin c q .null none []⟩

end Client

end OData
