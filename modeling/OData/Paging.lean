import OData.Client
import OData.Query.Address

/-!
# Reading pages

A query is answered by a page, and a page may link to the next. A walk hands the pages that hold
records to a reader, one at a time, and asks for the next page only when the reader wants more. It
ends when there is no link, when a link comes back, when the reader has enough or refuses a page,
when a limit on the pages handed out is reached, or when a request fails.
-/

namespace OData

/-- What a reader makes of a page. -/
inductive Verdict (σ : Type) where
  /-- It goes on with a new state. -/
  | more (state : σ)
  /-- It has enough. -/
  | enough (state : σ)
  /-- It cannot use the page. -/
  | refuse (cause : Fault)

/-- Why a walk ended. -/
inductive Ending where
  /-- The reader had enough. -/
  | satisfied
  /-- There were no more pages to hand out. -/
  | exhausted
  /-- Something failed. -/
  | failed (failure : Failure)

/-- What a walk leaves: the reader's last state and why it ended. -/
structure Walk (σ : Type) where
  /-- The reader's last state. -/
  state : σ
  /-- Why the walk ended. -/
  ending : Ending

/-- Where a page leads. -/
inductive Onward where
  /-- Nowhere. -/
  | stop
  /-- To the page at a link. -/
  | follow (link : String)
  /-- To something that is no link. -/
  | refuse (cause : Fault)

/-- Where a link leads, given the links already followed. A list or an object cannot be looked up
among them, and another value that is no text cannot be requested. -/
def onward (seen : List String) (link : Value) : Onward :=
  if link.truthy then
    match link with
    | .text s => if seen.contains s then .stop else .follow s
    | .list _ | .object _ => .refuse .wrongKind
    | _ => .refuse .noSuchOperation
  else .stop

/-- Whether a limit on the pages handed out is reached. -/
def limitReached (limit : Value) (count : Nat) : Except Fault Bool :=
  match limit with
  | .null => .ok false
  | v => do
    let n ← v.toInt
    .ok (n ≤ count)

/-- Whether a walk goes on after a page, and with which state and count. -/
inductive Handed (σ : Type) where
  /-- It goes on. -/
  | next (state : σ) (count : Nat)
  /-- It ends. -/
  | done (walk : Walk σ)

/-- Hands the records of a page to the reader. A page without records is passed over; after any
other, the limit is looked at once the reader asks for more. -/
def hand {σ : Type} (reader : σ → Value → Verdict σ) (limit : Value) (state : σ) (count : Nat)
    (page : Members) : Handed σ :=
  let records := Payload.results (.object page)
  if records.truthy then
    match reader state records with
    | .more state =>
      match limitReached limit (count + 1) with
      | .ok true => .done ⟨state, .exhausted⟩
      | .ok false => .next state (count + 1)
      | .error cause => .done ⟨state, .failed (.argument cause)⟩
    | .enough state => .done ⟨state, .satisfied⟩
    | .refuse cause => .done ⟨state, .failed (.argument cause)⟩
  else .next state count

namespace Client

/-- Requests a page. -/
def page (c : Client) (endpoint : String) (net : Network) : Except Failure Members × Network :=
  c.getPayload (.text endpoint) .null .null net

/-- Requests the page of a query. -/
def execute (c : Client) (q : Query) (net : Network) : Except Failure Members × Network :=
  match q.address with
  | .ok endpoint => c.page endpoint net
  | .error cause => (.error (.argument cause), net)

/-- Authorizing a request takes no answer to a request for data. -/
theorem dataAnswers_authorize (a : Authenticator) (net : Network) :
    (a.authorize net).2.dataAnswers = net.dataAnswers := by
  cases a <;> rfl

/-- A page that arrives takes an answer to a request for data. -/
theorem length_dataAnswers_of_page {c : Client} {endpoint : String} {net after : Network}
    {members : Members} (h : c.page endpoint net = (.ok members, after)) :
    after.dataAnswers.length < net.dataAnswers.length := by
  have hauth := dataAnswers_authorize c.authenticator net
  simp only [page, getPayload, get, headers, address, Value.truthy, exchange] at h
  rcases hn : c.authenticator.authorize net with ⟨authorization, middle⟩
  rw [hn] at h hauth
  cases authorization with
  | error failure => simp [payloadOf] at h
  | ok authorization =>
    simp only [Network.sendData] at h
    rw [← hauth]
    cases hd : middle.dataAnswers with
    | nil => simp [hd, Answer.exhausted, Answer.outcome, payloadOf] at h
    | cons a rest =>
      have hafter := congrArg (·.2.dataAnswers) h
      simp only [hd, List.tail_cons] at hafter
      simp [← hafter]

/-- Follows the links from a page on. Every page that arrives uses up an answer of the network, and
without one the walk fails, so it ends. -/
def follow {σ : Type} (c : Client) (reader : σ → Value → Verdict σ) (limit : Value) (state : σ)
    (count : Nat) (seen : List String) (page : Members) (net : Network) : Walk σ × Network :=
  match hand reader limit state count page with
  | .done walk => (walk, net)
  | .next state count =>
    match onward seen (Payload.nextLink (.object page)) with
    | .stop => (⟨state, .exhausted⟩, net)
    | .refuse cause => (⟨state, .failed (.argument cause)⟩, net)
    | .follow link =>
      match _h : c.page link net with
      | (.error failure, net) => (⟨state, .failed failure⟩, net)
      | (.ok page, net) => c.follow reader limit state count (link :: seen) page net
termination_by net.dataAnswers.length
decreasing_by exact length_dataAnswers_of_page _h

/-- Walks through the pages of a query. -/
def walk {σ : Type} (c : Client) (q : Query) (reader : σ → Value → Verdict σ) (limit : Value)
    (state : σ) (net : Network) : Walk σ × Network :=
  match c.execute q net with
  | (.error failure, net) => (⟨state, .failed failure⟩, net)
  | (.ok page, net) => c.follow reader limit state 0 [] page net

/-! ## Two readers -/

/-- The reader that keeps pages, up to a number of them. -/
def keepPages (wanted : Option Nat) (pages : List Value) (page : Value) : Verdict (List Value) :=
  let pages := pages ++ [page]
  if wanted.any (· ≤ pages.length) then .enough pages else .more pages

/-- The pages of a query, up to a number of them, and why there are no more. Nothing is requested if
none are wanted. -/
def iterate (c : Client) (q : Query) (limit : Value) (wanted : Option Nat) (net : Network) :
    Walk (List Value) × Network :=
  if wanted = some 0 then (⟨[], .satisfied⟩, net)
  else c.walk q (keepPages wanted) limit [] net

/-- The reader that keeps records. -/
def keepRecords (records : List Value) (page : Value) : Verdict (List Value) :=
  match page.elements with
  | .ok items => .more (records ++ items)
  | .error cause => .refuse cause

/-- The records of all pages of a query. -/
def readAll (c : Client) (q : Query) (limit : Value) (net : Network) :
    Except Failure (List Value) × Network :=
  let (walk, net) := c.walk q keepRecords limit [] net
  match walk.ending with
  | .failed failure => (.error failure, net)
  | _ => (.ok walk.state, net)

/-! ## Single pages -/

/-- The records of the first page. -/
def read (c : Client) (q : Query) (net : Network) : Except Failure Value × Network :=
  let (page, net) := c.execute q net
  (page.map fun members => Payload.results (.object members), net)

/-- The entries of the first page that declare a type. -/
def entities (c : Client) (q : Query) (type : Value) (net : Network) :
    Except Failure (List Value) × Network :=
  let (page, net) := c.execute q net
  (page.bind fun members => refusing (Payload.entities (.object members) type), net)

/-- A property of the first page. -/
def property (c : Client) (q : Query) (name : Value) (net : Network) :
    Except Failure Value × Network :=
  let (page, net) := c.execute q net
  (page.bind fun members => refusing (Payload.property (.object members) name), net)

end Client

end OData
