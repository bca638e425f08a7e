import OData.Settings

/-!
# Connections

A connection has settings and at most one client. The client is set up when it is first needed, kept
until the connection is closed, and set up anew if it is needed after that. So the sessions that are
open on behalf of a connection are those of its client.
-/

namespace OData

/-- A connection. -/
structure Connection where
  /-- Its settings. -/
  settings : Settings
  /-- Its client, if one is set up. -/
  current : Option Client

namespace Connection

/-- A connection without a client. -/
def ofSettings (settings : Settings) : Connection := ⟨settings, none⟩

/-- Sets up a connection from arguments and variables. -/
def establish (args : Overrides) (env : Environment) : Except Failure Connection :=
  (args.resolve env).map ofSettings

/-- What needing the client leaves: the client or why it cannot be set up, the connection, and the
network. -/
structure Reached where
  /-- The client, or why it cannot be set up. -/
  client : Except Failure Client
  /-- The connection afterwards. -/
  connection : Connection
  /-- The network afterwards. -/
  network : Network

/-- The client of a connection, which is set up if there is none. -/
def client (conn : Connection) (net : Network) : Reached :=
  match conn.current with
  | some c => ⟨.ok c, conn, net⟩
  | none =>
    match conn.settings.config.client net with
    | .ok (c, net) => ⟨.ok c, { conn with current := some c }, net⟩
    | .error failure => ⟨.error failure, conn, net⟩

/-- Closes the client, if there is one, and forgets it. -/
def close (conn : Connection) (net : Network) : Connection × Network :=
  match conn.current with
  | some c => ({ conn with current := none }, c.close net)
  | none => (conn, net)

/-- The sessions that a connection holds. -/
def sessions (conn : Connection) : List SessionId :=
  match conn.current with
  | some c => c.sessions
  | none => []

/-- A closed connection holds no session. -/
@[simp] theorem sessions_close (conn : Connection) (net : Network) :
    (conn.close net).1.sessions = [] := by
  unfold close
  split
  · rfl
  · next h => simp [sessions, h]

/-- A client that is set up is given as it is, and nothing else changes. -/
theorem client_of_current {conn : Connection} {c : Client} (h : conn.current = some c)
    (net : Network) : conn.client net = ⟨.ok c, conn, net⟩ := by
  simp [client, h]

end Connection

end OData
