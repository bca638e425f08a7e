import OData.Connection

/-!
# The gateway

A gateway has the settings of a connection to the service, a key of its own and two caps. Its
settings come from the arguments given to it and the environment; `Gateway.validate` says which of
them is missing first, and `Gateway.connect` sets up a connection with them.
-/

namespace OData

/-- The arguments given to a gateway. -/
structure GatewayOverrides where
  /-- The address of the service. -/
  baseUrl : Value := .null
  /-- The key that goes with every request to the service. -/
  apiKey : Value := .null
  /-- The client's name. -/
  clientId : Value := .null
  /-- The client's secret. -/
  clientSecret : Value := .null
  /-- A token for the service. -/
  bearerToken : Value := .null
  /-- The key that requests to the gateway carry. -/
  gatewayKey : Value := .null
  /-- The cap on the page size. -/
  maxTop : Value := .int 500
  /-- The cap on the number of pages. -/
  maxPages : Value := .int 10

/-- A gateway. -/
structure Gateway where
  /-- The address of the service. -/
  baseUrl : Value
  /-- The key that goes with every request to the service. -/
  apiKey : Value
  /-- The client's name. -/
  clientId : Value
  /-- The client's secret. -/
  clientSecret : Value
  /-- A token for the service. -/
  bearerToken : Value
  /-- The key that requests to the gateway carry; an empty one lets every request pass. -/
  gatewayKey : Value
  /-- The cap on the page size. -/
  maxTop : Value
  /-- The cap on the number of pages. -/
  maxPages : Value

/-- The gateway that arguments and variables make. -/
def GatewayOverrides.resolve (args : GatewayOverrides) (env : Environment) : Gateway where
  baseUrl := env.resolve args.baseUrl "ODATA_BASE_URL" ""
  apiKey := env.resolve args.apiKey "ODATA_API_KEY" ""
  clientId := env.resolve args.clientId "ODATA_CLIENT_ID" ""
  clientSecret := env.resolve args.clientSecret "ODATA_CLIENT_SECRET" ""
  bearerToken := env.resolve args.bearerToken "ODATA_BEARER_TOKEN" ""
  gatewayKey := env.resolve args.gatewayKey "ODATA_GATEWAY_KEY" ""
  maxTop := args.maxTop
  maxPages := args.maxPages

/-- A setting without which a gateway is not to be started. -/
inductive Incomplete where
  /-- The address of the service. -/
  | address
  /-- A token, or a client's name and secret. -/
  | credentials
  /-- The gateway's key. -/
  | key
deriving DecidableEq, Repr

/-- The wording of an incomplete gateway. -/
def Incomplete.message : Incomplete → String
  | .address => "Missing ODATA_BASE_URL environment variable"
  | .credentials => "Missing ODATA_CLIENT_ID/ODATA_CLIENT_SECRET or ODATA_BEARER_TOKEN"
  | .key => "Missing ODATA_GATEWAY_KEY - required for security"

namespace Gateway

/-- The gateway of an environment alone. -/
def ofEnvironment (env : Environment) : Gateway :=
  GatewayOverrides.resolve {} env

/-- The first setting that a gateway lacks. -/
def validate (g : Gateway) : Except Incomplete Unit :=
  if !g.baseUrl.truthy then .error .address
  else if (Credentials.choose g.bearerToken g.clientId g.clientSecret).isNone then
    .error .credentials
  else if !g.gatewayKey.truthy then .error .key
  else .ok ()

/-- The arguments of a gateway's connections. What they leave open the environment decides. -/
def overrides (g : Gateway) : Overrides where
  baseUrl := g.baseUrl
  apiKey := g.apiKey
  clientId := g.clientId
  clientSecret := g.clientSecret
  bearerToken := g.bearerToken

/-- Sets up a connection to the service. -/
def connect (g : Gateway) (env : Environment) : Except Failure Connection :=
  Connection.establish g.overrides env

/-- Whether a gateway lets a request with the given key pass. -/
def admits (g : Gateway) (key : String) : Bool :=
  !g.gatewayKey.truthy || g.gatewayKey.text? == some key

end Gateway

end OData
