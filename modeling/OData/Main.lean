import OData.Launch

/-!
# The command line

Reads the launch settings from the environment and announces where the gateway listens. A socket
number that is no integer is reported and ends the program with status one.
-/

namespace OData

/-- The names of the variables that launch settings are taken from. -/
def launchVariables : List String :=
  ["ODATA_HOST", "ODATA_PORT", "ODATA_RELOAD", "ODATA_LOG_LEVEL"]

/-- The variables among the given names that are set, with their texts. -/
def readEnvironment : List String → IO Environment
  | [] => pure []
  | name :: rest => do
    let text ← IO.getEnv name
    let env ← readEnvironment rest
    pure ((text.map fun t => (name, t)).toList ++ env)

/-- Announces the gateway of an environment. -/
def announce (env : Environment) : IO UInt32 :=
  match Launch.ofEnvironment env with
  | .ok l => do
    IO.println l.banner
    pure 0
  | .error _ => do
    IO.eprintln "ODATA_PORT is not an integer"
    pure 1

end OData

/-- Announces the gateway of the process's environment. -/
def main : IO UInt32 := do
  let env ← OData.readEnvironment OData.launchVariables
  OData.announce env
