import OData.Client
import OData.Environment

/-!
# Settings

What a connection needs is taken from the arguments given to it and, where an argument is absent or
empty, from the variables of the environment. `Overrides.resolve` gives the settings or says which
of the two that have no default is missing: the address, or else the credentials.
-/

namespace OData

/-- What a connection authorizes its requests with. -/
inductive Credentials where
  /-- A token. -/
  | token (token : Value)
  /-- A client's name and secret. -/
  | client (clientId clientSecret : Value)

namespace Credentials

/-- A token if there is one, else a name and a secret if there are both. -/
def choose (token clientId clientSecret : Value) : Option Credentials :=
  if token.truthy then some (.token token)
  else if clientId.truthy && clientSecret.truthy then some (.client clientId clientSecret)
  else none

/-- The kind of authentication that the credentials are for. -/
def kind : Credentials → String
  | .token _ => "bearer"
  | .client _ _ => "client_credentials"

/-- The credentials as that kind expects them. -/
def value : Credentials → Value
  | .token t => t
  | .client name secret => .list [name, secret]

end Credentials

/-- The arguments given to a connection. -/
structure Overrides where
  /-- The address of the service. -/
  baseUrl : Value := .null
  /-- The key that goes with every request. -/
  apiKey : Value := .null
  /-- The client's name. -/
  clientId : Value := .null
  /-- The client's secret. -/
  clientSecret : Value := .null
  /-- A token, which is preferred to the client's name and secret. -/
  bearerToken : Value := .null
  /-- The address of the token endpoint. -/
  tokenUrl : Value := .null
  /-- The scope that is asked for. -/
  scope : Value := .null
  /-- How certificates are verified. -/
  verify : Value := .null
  /-- The time limit of a request in seconds. -/
  timeout : Value := .float 60.0

/-- The settings of a connection. -/
structure Settings where
  /-- The address of the service, with one slash at the end. -/
  baseUrl : String
  /-- The key that goes with every request. -/
  apiKey : Value
  /-- What requests are authorized with. -/
  credentials : Credentials
  /-- The address of the token endpoint. -/
  tokenUrl : Value
  /-- The scope that is asked for. -/
  scope : Value
  /-- How certificates are verified. -/
  verify : Value
  /-- The time limit of a request, as given. -/
  timeout : Value

namespace Overrides

/-- How certificates are verified: as given, else as the environment says, where every text but
`false` stands for yes. -/
def verification (args : Overrides) (env : Environment) : Value :=
  match args.verify with
  | .null => .bool (Text.lower (env.get "ODATA_VERIFY_TLS" "true") != "false")
  | v => v

/-- The credentials among the arguments and the variables. -/
def credentials (args : Overrides) (env : Environment) : Option Credentials :=
  Credentials.choose (env.resolve args.bearerToken "ODATA_BEARER_TOKEN" "")
    (env.resolve args.clientId "ODATA_CLIENT_ID" "")
    (env.resolve args.clientSecret "ODATA_CLIENT_SECRET" "")

/-- The settings that arguments and variables make. An address of nothing but slashes counts as
missing. -/
def resolve (args : Overrides) (env : Environment) : Except Failure Settings := do
  let base ← refusing (Config.baseOf (env.resolve args.baseUrl "ODATA_BASE_URL" ""))
  if base = "/" then .error (.setting .address)
  else
    match args.credentials env with
    | none => .error (.setting .credentials)
    | some credentials => .ok {
        baseUrl := base
        apiKey := env.resolve args.apiKey "ODATA_API_KEY" ""
        credentials := credentials
        tokenUrl := env.resolve args.tokenUrl "ODATA_TOKEN_URL" defaultTokenUrl
        scope := env.resolve args.scope "ODATA_SCOPE" defaultScope
        verify := args.verification env
        timeout := args.timeout }

/-- Settings are made exactly if there is an address that is more than slashes, and credentials. -/
theorem resolve_eq_ok_iff {args : Overrides} {env : Environment} {s : Settings} :
    args.resolve env = .ok s ↔ ∃ base credentials,
      Config.baseOf (env.resolve args.baseUrl "ODATA_BASE_URL" "") = .ok base ∧ base ≠ "/" ∧
        args.credentials env = some credentials ∧ s = {
          baseUrl := base
          apiKey := env.resolve args.apiKey "ODATA_API_KEY" ""
          credentials := credentials
          tokenUrl := env.resolve args.tokenUrl "ODATA_TOKEN_URL" defaultTokenUrl
          scope := env.resolve args.scope "ODATA_SCOPE" defaultScope
          verify := args.verification env
          timeout := args.timeout } := by
  unfold resolve
  simp only [bind_eq_ok_iff, refusing_eq_ok_iff]
  refine exists_congr fun base => ?_
  by_cases hbase : base = "/"
  · simp [hbase]
  · cases args.credentials env with
    | none => simp [hbase]
    | some credentials => simp [hbase, eq_comm]

end Overrides

namespace Settings

/-- The configuration of the client that the settings describe. -/
def config (s : Settings) : Config where
  baseUrl := .text s.baseUrl
  apiKey := s.apiKey
  kind := .text s.credentials.kind
  credential := s.credentials.value
  tokenUrl := s.tokenUrl
  scope := s.scope
  timeout := s.timeout
  verify := s.verify

end Settings

end OData
