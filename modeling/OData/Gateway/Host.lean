import OData.Gateway.Endpoint

/-!
# Hosts

A host is a process that serves applications. It keeps one gateway: the one given to the application
made last, and every application answers with it. A host that needs its gateway before there is one
makes it from the environment.
-/

namespace OData.Gateway

/-- The number of an application of a host. -/
structure App where
  /-- The number. -/
  number : Nat
deriving DecidableEq, Repr

/-- A host. -/
structure Host where
  /-- The variables of the process. -/
  environment : Environment
  /-- The gateway, if there is one. -/
  current : Option Gateway
  /-- How many applications were made. -/
  apps : Nat

namespace Host

/-- A host without applications. -/
def ofEnvironment (env : Environment) : Host := ⟨env, none, 0⟩

/-- The gateway of a host, which is made if there is none. -/
def gateway (h : Host) : Gateway × Host :=
  match h.current with
  | some g => (g, h)
  | none =>
    let g := Gateway.ofEnvironment h.environment
    (g, { h with current := some g })

/-- Makes an application with the given gateway, or else with one from the environment. -/
def createApp (h : Host) (given : Option Gateway) : App × Host :=
  (⟨h.apps⟩, { h with
    current := some (given.getD (Gateway.ofEnvironment h.environment))
    apps := h.apps + 1 })

/-- The answer of an application to a request. It does not depend on which application it is. -/
def serve (h : Host) (_app : App) (r : Request) (net : Network) : Reply × Host × Network :=
  let (g, h) := h.gateway
  let (reply, net) := answer g h.environment r net
  (reply, h, net)

end Host

end OData.Gateway
