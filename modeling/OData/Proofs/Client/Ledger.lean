import Mathlib.Data.List.Nodup
import OData.Connection
import OData.Proofs.Client.Run

/-!
# Sessions opened and closed

A network numbers the sessions it opens and records those it closes; its `Ledger` is that part of
it.

* **Sessions that are accounted for** (`Ledger.Accounts`): every session opened since some point is
  either closed or held, and none of them is both or closed twice. It is preserved by opening
  sessions that are held from then on (`Accounts.opening`) and by closing all that are held
  (`Accounts.closing`).
* **Requests** (`Client.ledger_perform`): requests of every kind leave the ledger alone.
* **Clients** (`ledger_client`, `exists_client_iff`): setting up a client opens the sessions that it
  holds, and settings make a client exactly if their time limit is a number.
-/

namespace OData

/-- What a network records of sessions. -/
structure Ledger where
  /-- How many were opened. -/
  opened : Nat
  /-- Those that were closed, in order. -/
  closed : List SessionId

/-- The ledger of a network. -/
def Network.ledger (net : Network) : Ledger := ⟨net.opened, net.closed⟩

namespace Ledger

/-- The sessions opened since a point. -/
def openedSince (start now : Ledger) : List SessionId :=
  List.range' start.opened (now.opened - start.opened)

/-- The sessions closed since a point. -/
def closedSince (start now : Ledger) : List SessionId :=
  now.closed.drop start.closed.length

/-- The sessions opened since a point and not closed since then. -/
def stillOpen (start now : Ledger) : List SessionId :=
  (start.openedSince now).filter fun id => id ∉ start.closedSince now

/-- Whether every session opened since a point is accounted for: as one closed since then or as one
of those held, and as no more than one of them. -/
structure Accounts (start now : Ledger) (held : List SessionId) : Prop where
  /-- The count of opened sessions only grows. -/
  opened : start.opened ≤ now.opened
  /-- What was closed stays closed. -/
  closed : start.closed <+: now.closed
  /-- The sessions closed and those held are the sessions opened. -/
  balance : (start.closedSince now ++ held).Perm (start.openedSince now)

/-- Whether all sessions opened since a point are closed, each once. -/
structure Settled (start now : Ledger) : Prop where
  /-- None is still open. -/
  none : start.stillOpen now = []
  /-- The sessions closed are the sessions opened. -/
  each : (start.closedSince now).Perm (start.openedSince now)
  /-- As many were closed as were opened. -/
  count : now.closed.length - start.closed.length = now.opened - start.opened

namespace Accounts

variable {start now : Ledger} {held : List SessionId}

/-- At the start there is nothing to account for. -/
theorem refl (start : Ledger) : Accounts start start [] := by
  refine ⟨Nat.le_refl _, List.prefix_refl _, ?_⟩
  simp [closedSince, openedSince]

/-- The sessions that are opened next are held from then on. -/
theorem opening (h : Accounts start now held) {ids : List SessionId}
    (hids : ids.Perm (List.range' now.opened ids.length)) :
    Accounts start ⟨now.opened + ids.length, now.closed⟩ (held ++ ids) := by
  refine ⟨Nat.le_trans h.opened (Nat.le_add_right _ _), h.closed, ?_⟩
  have hopened : start.openedSince ⟨now.opened + ids.length, now.closed⟩ =
      start.openedSince now ++ List.range' now.opened ids.length := by
    have hstart : start.opened + (now.opened - start.opened) = now.opened :=
      Nat.add_sub_cancel' h.opened
    have hcount : now.opened + ids.length - start.opened =
        now.opened - start.opened + ids.length := Nat.sub_add_comm h.opened
    unfold openedSince
    rw [hcount, ← List.range'_append_1, hstart]
  rw [hopened, ← List.append_assoc]
  exact h.balance.append hids

/-- The sessions that are held can be closed. -/
theorem closing (h : Accounts start now held) :
    Accounts start ⟨now.opened, now.closed ++ held⟩ [] := by
  refine ⟨h.opened, h.closed.trans (List.prefix_append _ _), ?_⟩
  have hclosed : start.closedSince ⟨now.opened, now.closed ++ held⟩ =
      start.closedSince now ++ held := List.drop_append_of_le_length h.closed.length_le
  rw [hclosed, List.append_nil]
  exact h.balance

/-- No session is closed twice, none that is held is closed, and none is held twice. -/
theorem nodup (h : Accounts start now held) : (start.closedSince now ++ held).Nodup :=
  h.balance.nodup_iff.2 List.nodup_range'

/-- Only sessions opened since the start were closed since then. -/
theorem closed_subset (h : Accounts start now held) :
    ∀ id ∈ start.closedSince now, id ∈ start.openedSince now := fun _ hid =>
  h.balance.mem_iff.1 (List.mem_append_left _ hid)

/-- The sessions that are still open are those held. -/
theorem stillOpen_perm (h : Accounts start now held) : (start.stillOpen now).Perm held := by
  have hdisjoint : ∀ id ∈ held, id ∉ start.closedSince now := fun id hheld hclosed =>
    List.disjoint_of_nodup_append h.nodup hclosed hheld
  have hfilter : (start.closedSince now ++ held).filter (fun id => id ∉ start.closedSince now) =
      held := by
    rw [List.filter_append, List.filter_eq_nil_iff.2 (by simp), List.nil_append,
      List.filter_eq_self.2 (by simpa using hdisjoint)]
  have hperm := (h.balance.filter fun id => id ∉ start.closedSince now).symm
  rwa [hfilter] at hperm

/-- If no session is held, all that were opened are closed. -/
theorem settled (h : Accounts start now []) : start.Settled now := by
  have hbalance := h.balance
  rw [List.append_nil] at hbalance
  have hcount := hbalance.length_eq
  unfold closedSince openedSince at hcount
  rw [List.length_drop, List.length_range'] at hcount
  exact ⟨h.stillOpen_perm.eq_nil, hbalance, hcount⟩

end Accounts

end Ledger

/-! ## Requests -/

/-- Authorizing a request opens and closes nothing. -/
theorem Authenticator.ledger_authorize (a : Authenticator) (net : Network) :
    (a.authorize net).2.ledger = net.ledger := by
  cases a <;> rfl

namespace Client

variable {σ : Type}

theorem ledger_exchange (c : Client) (url : String) (params : Value) (headers : Members)
    (net : Network) : (c.exchange url params headers net).2.ledger = net.ledger := by
  have hauthorize := c.authenticator.ledger_authorize net
  unfold exchange
  rcases hn : c.authenticator.authorize net with ⟨authorization, middle⟩
  rw [hn] at hauthorize
  cases authorization with
  | error failure => exact hauthorize
  | ok authorization => exact hauthorize

theorem ledger_get (c : Client) (endpoint params additions : Value) (net : Network) :
    (c.get endpoint params additions net).2.ledger = net.ledger := by
  unfold get
  cases c.headers additions with
  | error cause => rfl
  | ok headers =>
    cases c.address endpoint with
    | error cause => rfl
    | ok url => exact c.ledger_exchange url params headers net

theorem ledger_page (c : Client) (endpoint : String) (net : Network) :
    (c.page endpoint net).2.ledger = net.ledger :=
  c.ledger_get (.text endpoint) .null .null net

theorem ledger_execute (c : Client) (q : Query) (net : Network) :
    (c.execute q net).2.ledger = net.ledger := by
  unfold execute
  cases q.address with
  | error cause => rfl
  | ok endpoint => exact c.ledger_page endpoint net

/-- Following links opens and closes nothing, however it ends. -/
theorem ledger_follow (c : Client) (reader : σ → Value → Verdict σ) (limit : Value) (state : σ)
    (count : Nat) (seen : List String) (page : Members) (net : Network) :
    (c.follow reader limit state count seen page net).2.ledger = net.ledger := by
  fun_induction c.follow reader limit state count seen page net with
  | case1 => rfl
  | case2 => rfl
  | case3 => rfl
  | case4 _ _ _ _ net _ _ _ link _ _ _ hpage =>
    have hledger := c.ledger_page link net
    rwa [hpage] at hledger
  | case5 _ _ _ _ net _ _ _ link _ _ _ hpage ih =>
    have hledger := c.ledger_page link net
    rw [hpage] at hledger
    exact ih.trans hledger

theorem ledger_walk (c : Client) (q : Query) (reader : σ → Value → Verdict σ) (limit : Value)
    (state : σ) (net : Network) : (c.walk q reader limit state net).2.ledger = net.ledger := by
  have hledger := c.ledger_execute q net
  unfold walk
  rcases hn : c.execute q net with ⟨result, middle⟩
  rw [hn] at hledger
  cases result with
  | error failure => exact hledger
  | ok page => exact (c.ledger_follow reader limit state 0 [] page middle).trans hledger

theorem ledger_readAll (c : Client) (q : Query) (limit : Value) (net : Network) :
    (c.readAll q limit net).2.ledger = net.ledger := by
  rw [readAll_snd]
  exact c.ledger_walk q keepRecords limit [] net

/-- A call opens and closes nothing, whether it succeeds or fails. -/
theorem ledger_perform (c : Client) (net : Network) (call : Call) :
    (c.perform net call).ledger = net.ledger := by
  cases call with
  | get endpoint params additions => exact c.ledger_get endpoint params additions net
  | getPayload endpoint params additions => exact c.ledger_get endpoint params additions net
  | execute q => exact c.ledger_execute q net
  | read q => exact c.ledger_execute q net
  | entities q type => exact c.ledger_execute q net
  | property q name => exact c.ledger_execute q net
  | iterate q limit wanted =>
    rw [perform, iterate]
    split
    · rfl
    · exact c.ledger_walk q (keepPages wanted) limit [] net
  | readAll q limit => exact c.ledger_readAll q limit net

/-! ## Setting up a client and closing it -/

/-- Closing a client closes the sessions it holds, once each. -/
theorem ledger_close (c : Client) (net : Network) :
    (c.close net).ledger = ⟨net.opened, net.closed ++ c.sessions⟩ := by
  unfold close sessions Authenticator.close
  cases c.authenticator with
  | client credentials => exact congrArg (Ledger.mk net.opened) (List.append_assoc _ _ _)
  | _ => rfl

end Client

/-- How many sessions a client with such credentials holds: its own, and one more if it asks for
tokens. -/
def Credentials.sessionCount : Credentials → Nat
  | .token _ => 1
  | .client _ _ => 2

namespace Settings

variable {s : Settings} {net : Network}

/-- What setting up a client opens is what the client holds. -/
theorem ledger_client {c : Client} {after : Network} (h : s.config.client net = .ok (c, after)) :
    c.sessions.length = s.credentials.sessionCount ∧
      c.sessions.Perm (List.range' net.opened c.sessions.length) ∧
      after.ledger = ⟨net.opened + c.sessions.length, net.closed⟩ := by
  obtain ⟨baseUrl, apiKey, credentials, tokenUrl, scope, verify, timeout⟩ := s
  obtain ⟨base, -, h⟩ := bind_eq_ok_iff.1 h
  obtain ⟨limit, -, h⟩ := bind_eq_ok_iff.1 h
  cases credentials with
  | token token =>
    cases h
    exact ⟨rfl, List.Perm.refl _, rfl⟩
  | client clientId clientSecret =>
    cases h
    exact ⟨rfl, List.Perm.swap _ _ _, rfl⟩

/-- A client can be set up from settings whose time limit is a number. -/
theorem exists_client_iff (s : Settings) (net : Network) :
    (∃ reached, s.config.client net = .ok reached) ↔ ∃ limit, s.timeout.toFloat = .ok limit := by
  obtain ⟨baseUrl, apiKey, credentials, tokenUrl, scope, verify, timeout⟩ := s
  constructor
  · rintro ⟨reached, h⟩
    obtain ⟨base, -, h⟩ := bind_eq_ok_iff.1 h
    obtain ⟨limit, hlimit, -⟩ := bind_eq_ok_iff.1 h
    exact ⟨limit, refusing_eq_ok_iff.1 hlimit⟩
  · rintro ⟨limit, hlimit⟩
    have hlimit : timeout.toFloat = .ok limit := hlimit
    cases credentials with
    | token token => exact ⟨_, by simp [config, Config.client, hlimit]; rfl⟩
    | client clientId clientSecret => exact ⟨_, by simp [config, Config.client, hlimit]; rfl⟩

end Settings

end OData
