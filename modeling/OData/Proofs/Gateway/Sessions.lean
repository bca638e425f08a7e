import OData.Gateway.Endpoint
import OData.Proofs.Connection.Sessions

/-!
# No session is leaked or closed twice

A gateway runs every form through a connection of its own, which is closed whatever the outcome is.

* **Connections and gateways** (`sessions_accounted_for`): what holds of the sessions of a
  connection after every sequence of operations on it (`Connection.Usage.Orderly`), and what holds
  of a gateway after every request.
* **One request** (`accounts_answer`): it leaves no session open that it opened.
-/

namespace OData

namespace Gateway

variable {conn : Connection}

theorem ledger_collect (c : Client) (form : Form) (q : Query) (limit : Value) (net : Network) :
    (collect c form q limit net).2.ledger = net.ledger := by
  unfold collect
  split
  · exact c.ledger_readAll q limit net
  · exact c.ledger_readAll q limit net
  · exact c.ledger_execute q net

/-- A connection without a client that runs a form closes all that it opens. -/
theorem accounts_runThrough (hcurrent : conn.current = none) (form : Form) (q : Query)
    (limit : Value) (net : Network) :
    Ledger.Accounts net.ledger (runThrough conn form q limit net).2.ledger [] := by
  obtain ⟨settings, current⟩ := conn
  obtain rfl : current = none := hcurrent
  have hreached := (Connection.Tidy.ofSettings settings net).client
  unfold Connection.ofSettings at hreached
  unfold runThrough
  dsimp only
  cases (Connection.client ⟨settings, none⟩ net).client with
  | ok c =>
    have hcollect := hreached.of_ledger (ledger_collect c form q limit _)
    simpa using hcollect.close.accounts
  | error failure => simpa using hreached.close.accounts

/-- A gateway that answers a request closes all that it opens. -/
theorem accounts_answer (g : Gateway) (env : Environment) (r : Request) (net : Network) :
    Ledger.Accounts net.ledger (answer g env r net).2.ledger [] := by
  have hsame : Ledger.Accounts net.ledger net.ledger [] := .refl net.ledger
  have hrun (form : Form) : Ledger.Accounts net.ledger (run g env form net).2.ledger [] := by
    unfold run
    split
    · split
      · next conn hconn =>
        obtain ⟨settings, -, rfl⟩ := map_eq_ok_iff.1 hconn
        exact accounts_runThrough rfl form _ _ net
      · exact hsame
    · exact hsame
  unfold answer
  split
  · exact hsame
  · next endpoint _ =>
    split
    · exact hsame
    · cases endpoint with
      | health => exact hsame
      | compile => cases r.form g <;> exact hsame
      | run =>
        cases r.form g with
        | ok form => exact hrun form
        | error reply => exact hsame

end Gateway

/-- What is true of the sessions of a connection that has been used since the network was as it is
given. -/
structure Connection.Usage.Orderly (s : Settings) (start : Network) (u : Usage) : Prop where
  /-- The sessions opened so far and not yet closed are those of the client. -/
  stillOpen : (start.ledger.stillOpen u.network.ledger).Perm u.connection.sessions
  /-- There are as many as its credentials need if there is a client, and none otherwise. -/
  count : u.connection.sessions.length =
    if u.connection.current.isSome then s.credentials.sessionCount else 0
  /-- No session was closed twice. -/
  once : (start.ledger.closedSince u.network.ledger).Nodup
  /-- Only sessions that were opened so far were closed. -/
  own : ∀ id ∈ start.ledger.closedSince u.network.ledger,
    id ∈ start.ledger.openedSince u.network.ledger
  /-- Until the connection is closed, needing the client again gives the same one and changes
  nothing. -/
  same : ∀ c more, u.reached.client = .ok c → (∀ op ∈ more, op.closes = false) →
    ((u.step .client).after more).reached =
      ⟨.ok c, ((u.step .client).after more).connection, ((u.step .client).after more).network⟩
  /-- Closing a connection without a client changes nothing. -/
  idle : u.connection.current = none → ∀ op, op.closes = true → u.step op = u
  /-- Closing leaves no client. -/
  closed : ∀ op, op.closes = true → (u.step op).connection.current = none
  /-- After closing, a client can be had if the time limit is a number. -/
  again : ∀ op, op.closes = true →
    ((∃ c, (u.step op).reached.client = .ok c) ↔ ∃ limit, s.timeout.toFloat = .ok limit)
  /-- Its sessions are none of those opened so far. -/
  anew : ∀ op, op.closes = true → ∀ c, (u.step op).reached.client = .ok c →
    ∀ id ∈ c.sessions, (u.step op).network.opened ≤ id

/-- **No session is leaked or closed twice.** After every sequence of operations on a connection,
whether its requests succeed or fail, the sessions are as they should be. So a gateway that has
answered a request has closed the sessions it opened, each once, whatever the outcome is. -/
theorem sessions_accounted_for :
    (∀ (s : Settings) (net : Network) (ops : List Connection.Operation),
      ((Connection.Usage.begin s net).after ops).Orderly s net) ∧
    ∀ (g : Gateway) (env : Environment) (r : Gateway.Request) (net : Network),
      net.ledger.Settled (Gateway.answer g env r net).2.ledger := by
  refine ⟨fun s net ops => ?_, fun g env r net => (g.accounts_answer env r net).settled⟩
  have hbegin : (Connection.Usage.begin s net).Tidy s net.ledger := .ofSettings s net
  have htidy := Connection.Usage.tidy_after hbegin ops
  exact {
    stillOpen := htidy.accounts.stillOpen_perm
    count := htidy.length_sessions
    once := htidy.accounts.nodup.of_append_left
    own := htidy.accounts.closed_subset
    same := fun c more hclient hmore =>
      Connection.Usage.reached_after_of_client hclient hmore
    idle := fun hcurrent op hop => Connection.Usage.step_of_closes hcurrent hop
    closed := fun op hop => Connection.Usage.current_step_of_closes _ hop
    again := fun op hop => Connection.Tidy.exists_client_iff
      (Connection.Usage.tidy_step htidy op) (Connection.Usage.current_step_of_closes _ hop)
    anew := fun op hop c hclient id hid => Connection.le_of_mem_sessions
      (Connection.Usage.current_step_of_closes _ hop) hclient hid }

end OData
