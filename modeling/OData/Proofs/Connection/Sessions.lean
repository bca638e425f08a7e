import OData.Proofs.Client.Ledger

/-!
# The sessions of a connection

A connection opens sessions when its client is set up and closes them when it is closed.

* **Tidy connections** (`Connection.Tidy`): every session opened since some point is accounted for
  by the sessions that the connection holds. Needing the client, closing the connection and requests
  of every kind preserve it (`Tidy.client`, `Tidy.close`).
* **Every sequence of operations** (`Usage.tidy_after`): a connection with the services obtained
  through it is left tidy.
* **One client** (`current_after`, `reached_after_of_client`): until it is closed, a connection that
  needs its client again has the same one, and all services obtained through it reach that client;
  closing leaves it with none (`current_step_of_closes`).
-/

namespace OData.Connection

/-! ## Needing the client and closing -/

section Reading

variable {conn : Connection} {net : Network}

/-- Needing a client that is not set up sets it up, if that is possible. -/
theorem client_of_none (h : conn.current = none) (net : Network) :
    (∃ c after, conn.settings.config.client net = .ok (c, after) ∧
        conn.client net = ⟨.ok c, { conn with current := some c }, after⟩) ∨
      (∃ failure, conn.settings.config.client net = .error failure ∧
        conn.client net = ⟨.error failure, conn, net⟩) := by
  unfold client
  rw [h]
  rcases hclient : conn.settings.config.client net with failure | ⟨c, after⟩
  · exact Or.inr ⟨failure, rfl, by simp⟩
  · exact Or.inl ⟨c, after, rfl, by simp⟩

/-- A client that was given is the one that is set up from then on. -/
theorem current_of_client {c : Client} (h : (conn.client net).client = .ok c) :
    (conn.client net).connection.current = some c := by
  cases hcurrent : conn.current with
  | some d =>
    rw [client_of_current hcurrent] at h ⊢
    exact hcurrent.trans (congrArg some (Except.ok.inj h))
  | none =>
    rcases client_of_none hcurrent net with ⟨d, after, -, hreached⟩ | ⟨failure, -, hreached⟩
    · rw [hreached] at h ⊢
      exact congrArg some (Except.ok.inj h)
    · rw [hreached] at h
      cases h

/-- A client that is set up anew holds sessions that were not opened before. -/
theorem le_of_mem_sessions (hcurrent : conn.current = none) {c : Client}
    (hclient : (conn.client net).client = .ok c) {id : SessionId} (hid : id ∈ c.sessions) :
    net.opened ≤ id := by
  rcases client_of_none hcurrent net with ⟨d, after, hsetup, hreached⟩ | ⟨_, -, hreached⟩
  · rw [hreached] at hclient
    obtain rfl := Except.ok.inj hclient
    obtain ⟨-, hids, -⟩ := Settings.ledger_client hsetup
    exact (List.mem_range'_1.1 (hids.mem_iff.1 hid)).1
  · rw [hreached] at hclient
    cases hclient

/-- A connection without a client is left as it is when it is closed. -/
theorem close_of_none (h : conn.current = none) (net : Network) : conn.close net = (conn, net) := by
  simp [close, h]

/-- A connection that was closed has no client. -/
@[simp] theorem current_close (conn : Connection) (net : Network) :
    (conn.close net).1.current = none := by
  unfold close
  split
  · rfl
  · next h => exact h

@[simp] theorem settings_close (conn : Connection) (net : Network) :
    (conn.close net).1.settings = conn.settings := by
  unfold close
  split <;> rfl

/-- Closing a connection closes the sessions it holds. -/
theorem ledger_close (conn : Connection) (net : Network) :
    (conn.close net).2.ledger = ⟨net.opened, net.closed ++ conn.sessions⟩ := by
  unfold close sessions
  cases conn.current with
  | none => exact congrArg (Ledger.mk net.opened) (List.append_nil _).symm
  | some c => exact c.ledger_close net

end Reading

/-- What is true of a connection with given settings that has been used since some point: its
client, if there is one, holds as many sessions as its credentials need, and these account for all
that was opened. -/
structure Tidy (s : Settings) (start : Ledger) (conn : Connection) (net : Network) : Prop where
  /-- The settings stay the same. -/
  settings : conn.settings = s
  /-- The client has its own session, and another if it asks for tokens. -/
  count : ∀ c, conn.current = some c → c.sessions.length = s.credentials.sessionCount
  /-- The sessions that were opened are accounted for. -/
  accounts : start.Accounts net.ledger conn.sessions

namespace Tidy

variable {s : Settings} {start : Ledger} {conn : Connection} {net after : Network}

/-- A connection is tidy when it is made. -/
theorem ofSettings (s : Settings) (net : Network) : Tidy s net.ledger (.ofSettings s) net :=
  ⟨rfl, fun _ hcurrent => (nomatch hcurrent), Ledger.Accounts.refl net.ledger⟩

/-- What leaves the ledger alone leaves a connection tidy. -/
theorem of_ledger (h : Tidy s start conn net) (hledger : after.ledger = net.ledger) :
    Tidy s start conn after :=
  ⟨h.settings, h.count, by rw [hledger]; exact h.accounts⟩

/-- Needing the client leaves a connection tidy, whether the client can be set up or not. -/
theorem client (h : Tidy s start conn net) :
    Tidy s start (conn.client net).connection (conn.client net).network := by
  cases hcurrent : conn.current with
  | some c =>
    rw [client_of_current hcurrent]
    exact h
  | none =>
    rcases client_of_none hcurrent net with ⟨c, opened, hclient, hreached⟩ | ⟨_, -, hreached⟩
    · have hheld : conn.sessions = [] := by simp [sessions, hcurrent]
      obtain ⟨hcount, hids, hledger⟩ := Settings.ledger_client hclient
      have haccounts := h.accounts.opening hids
      rw [hheld, List.nil_append] at haccounts
      rw [hreached]
      refine ⟨h.settings, ?_, by rw [hledger]; exact haccounts⟩
      rintro _ ⟨⟩
      rw [hcount, h.settings]
    · rw [hreached]
      exact h

/-- Closing leaves a connection tidy. -/
theorem close (h : Tidy s start conn net) :
    Tidy s start (conn.close net).1 (conn.close net).2 := by
  refine ⟨(settings_close conn net).trans h.settings, ?_, ?_⟩
  · intro c hcurrent
    rw [current_close] at hcurrent
    cases hcurrent
  · rw [sessions_close, ledger_close]
    exact h.accounts.closing

/-- The number of sessions that are held says whether there is a client. -/
theorem length_sessions (h : Tidy s start conn net) :
    conn.sessions.length = if conn.current.isSome then s.credentials.sessionCount else 0 := by
  unfold sessions
  cases hcurrent : conn.current with
  | none => rfl
  | some c => exact h.count c hcurrent

/-- The client can be had if there is one or if the time limit of the settings is a number. -/
theorem exists_client_iff (h : Tidy s start conn net) (hcurrent : conn.current = none) :
    (∃ c, (conn.client net).client = .ok c) ↔ ∃ limit, s.timeout.toFloat = .ok limit := by
  rw [← h.settings, ← Settings.exists_client_iff conn.settings net]
  rcases client_of_none hcurrent net with ⟨c, after, hclient, hreached⟩ | ⟨_, hclient, hreached⟩
  · rw [hreached, hclient]
    exact iff_of_true ⟨c, rfl⟩ ⟨_, rfl⟩
  · rw [hreached, hclient]
    exact iff_of_false (fun ⟨c, hc⟩ => nomatch hc) (fun ⟨c, hc⟩ => nomatch hc)

end Tidy

/-! ## Operations -/

/-- What can be done with a connection. -/
inductive Operation where
  /-- The client is needed. -/
  | client
  /-- A service is obtained, which needs the client. -/
  | service
  /-- A call is made through a service that was obtained before, counted from the first. -/
  | request (service : Nat) (call : Client.Call)
  /-- The connection is closed. -/
  | close
  /-- The block that uses the connection is left, because of a failure or without one. -/
  | leave (failure : Option Failure)

/-- Whether an operation ends the use of the client. -/
def Operation.closes : Operation → Bool
  | .close => true
  | .leave _ => true
  | _ => false

/-- A connection with the services that were obtained through it. A service keeps its client, also
when the connection no longer does. -/
structure Usage where
  /-- The connection. -/
  connection : Connection
  /-- The clients of the services, in the order in which they were obtained. -/
  services : List Client
  /-- The network. -/
  network : Network

namespace Usage

/-- A connection that was just made. -/
def begin (s : Settings) (net : Network) : Usage := ⟨.ofSettings s, [], net⟩

/-- What needing the client of a connection gives. -/
def reached (u : Usage) : Reached := u.connection.client u.network

/-- What an operation leaves, whatever its result. -/
def step (u : Usage) : Operation → Usage
  | .client => ⟨u.reached.connection, u.services, u.reached.network⟩
  | .service =>
    ⟨u.reached.connection, u.services ++ u.reached.client.toOption.toList, u.reached.network⟩
  | .request n call =>
    { u with network := (u.services[n]?).elim u.network fun c => c.perform u.network call }
  | .close => ⟨(u.connection.close u.network).1, u.services, (u.connection.close u.network).2⟩
  | .leave _ => ⟨(u.connection.close u.network).1, u.services, (u.connection.close u.network).2⟩

/-- What a sequence of operations leaves. -/
def after (u : Usage) (ops : List Operation) : Usage := ops.foldl step u

/-- Whether a usage is tidy. -/
def Tidy (s : Settings) (start : Ledger) (u : Usage) : Prop :=
  Connection.Tidy s start u.connection u.network

variable {s : Settings} {start : Ledger} {u : Usage}

/-- Every operation leaves a tidy connection tidy. -/
theorem tidy_step (h : u.Tidy s start) (op : Operation) : (u.step op).Tidy s start := by
  cases op with
  | client => exact Connection.Tidy.client h
  | service => exact Connection.Tidy.client h
  | request n call =>
    refine Connection.Tidy.of_ledger h ?_
    cases hservice : u.services[n]? with
    | none => simp [step, hservice]
    | some c => simpa [step, hservice] using c.ledger_perform u.network call
  | close => exact Connection.Tidy.close h
  | leave failure => exact Connection.Tidy.close h

/-- Every sequence of operations leaves a tidy connection tidy. -/
theorem tidy_after (h : u.Tidy s start) (ops : List Operation) : (u.after ops).Tidy s start := by
  induction ops generalizing u with
  | nil => exact h
  | cons op ops ih => exact ih (tidy_step h op)

/-- An operation that does not close the connection leaves its client as it is. -/
theorem current_step {c : Client} (hcurrent : u.connection.current = some c) {op : Operation}
    (hop : op.closes = false) : (u.step op).connection.current = some c := by
  have hreached := client_of_current hcurrent u.network
  cases op with
  | client => simpa [step, reached, hreached] using hcurrent
  | service => simpa [step, reached, hreached] using hcurrent
  | request n call => exact hcurrent
  | close => cases hop
  | leave failure => cases hop

/-- Operations that do not close the connection leave its client as it is. -/
theorem current_after {c : Client} (hcurrent : u.connection.current = some c)
    {ops : List Operation} (hops : ∀ op ∈ ops, op.closes = false) :
    (u.after ops).connection.current = some c := by
  induction ops generalizing u with
  | nil => exact hcurrent
  | cons op ops ih =>
    obtain ⟨hop, hrest⟩ := List.forall_mem_cons.1 hops
    exact ih (current_step hcurrent hop) hrest

/-- Until the connection is closed, needing the client again gives the same one and changes
nothing. -/
theorem reached_after_of_client {c : Client} (hclient : u.reached.client = .ok c)
    {ops : List Operation} (hops : ∀ op ∈ ops, op.closes = false) :
    ((u.step .client).after ops).reached =
      ⟨.ok c, ((u.step .client).after ops).connection, ((u.step .client).after ops).network⟩ :=
  client_of_current (current_after (current_of_client hclient) hops) _

/-- An operation that closes leaves no client. -/
theorem current_step_of_closes (u : Usage) {op : Operation} (hop : op.closes = true) :
    (u.step op).connection.current = none := by
  cases op with
  | close => exact current_close _ _
  | leave failure => exact current_close _ _
  | _ => cases hop

/-- An operation that closes leaves everything as it is if there is no client. -/
theorem step_of_closes (hcurrent : u.connection.current = none) {op : Operation}
    (hop : op.closes = true) : u.step op = u := by
  have hclose := close_of_none hcurrent u.network
  cases op with
  | close => simp [step, hclose]
  | leave failure => simp [step, hclose]
  | _ => cases hop

end Usage

end OData.Connection
