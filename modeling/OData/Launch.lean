import OData.Environment
import OData.Text.Trim
import OData.Value.Number

/-!
# Launch settings

Where the gateway listens and how it is run, taken from the environment. The number of the socket is
the only setting that can be wrong: its text has to spell an integer.
-/

namespace OData

/-- How the gateway is run. -/
structure Launch where
  /-- The interface to listen on. -/
  host : String
  /-- The number of the socket to listen on. -/
  socket : Int
  /-- Whether the gateway is restarted when its files change. -/
  reload : Bool
  /-- How much is logged. -/
  logLevel : String
deriving DecidableEq, Repr

namespace Launch

/-- The launch settings in an environment. -/
def ofEnvironment (env : Environment) : Except Fault Launch := do
  let socket ← readInteger (env.get "ODATA_PORT" "5050")
  .ok {
    host := env.get "ODATA_HOST" "0.0.0.0"
    socket := socket
    reload := Text.lower (env.get "ODATA_RELOAD" "false") == "true"
    logLevel := env.get "ODATA_LOG_LEVEL" "info" }

/-- The line that announces the gateway. -/
def banner (l : Launch) : String :=
  "Starting OData Query Gateway on " ++ l.host ++ ":" ++ toString l.socket

end Launch

end OData
