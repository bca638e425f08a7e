import OData.Encoding.Base64
import OData.Failure
import OData.Network
import OData.Text.Trim

/-!
# Credentials

Three ways to authorize a request: a fixed token, a user's name and password, or the name and secret
of a client, which are exchanged for a fresh token on every request. The exchange has a session of
its own.
-/

namespace OData

/-- A client's credentials and how they are exchanged for a token. -/
structure ClientCredentials where
  /-- The client's name. -/
  clientId : Value
  /-- The client's secret. -/
  clientSecret : Value
  /-- The address of the token endpoint. -/
  tokenUrl : Value
  /-- The scope that is asked for. -/
  scope : Value
  /-- The time limit of the exchange. -/
  timeout : Value
  /-- How the endpoint's certificate is verified. -/
  verify : Value
  /-- The session of the exchange. -/
  session : SessionId

/-- A way to authorize requests. -/
inductive Authenticator where
  /-- A fixed token. -/
  | bearer (token : Value)
  /-- A user's name and password. -/
  | basic (user password : Value)
  /-- A client's credentials. -/
  | client (credentials : ClientCredentials)

namespace ClientCredentials

/-- The request for a token. It depends on the credentials alone. -/
def request (c : ClientCredentials) : TokenRequest where
  url := c.tokenUrl
  form := [("grant_type", .text "client_credentials"), ("client_id", c.clientId),
    ("client_secret", c.clientSecret), ("scope", c.scope)]
  timeout := c.timeout
  verify := c.verify

/-- The token in a document: a text that is not empty, in an object. -/
def tokenIn (document : Value) : Except Failure String :=
  match document.get? "access_token" with
  | some (.text s) => if s = "" then .error (.token .missing) else .ok s
  | _ => .error (.token .missing)

/-- The token in a response. That its body is nested too deep is not taken for the lack of one. -/
def tokenOf (r : Response) : Except Failure String :=
  if 200 ≤ r.status ∧ r.status < 300 then
    match r.document with
    | .ok document => tokenIn document
    | .error (.malformed reason) => .error (.token (.unreadable reason))
    | .error .tooDeep => .error (.argument .tooDeep)
  else .error (.token (.refused r.status))

/-- What an answer of the token endpoint amounts to. -/
def ofAnswer : Answer → Except Failure String
  | .response r => tokenOf r
  | .unreachable reason => .error (.token (.unreachable reason))
  | .systemFailure => .error .system

/-- Asks for a token. -/
def fetchToken (c : ClientCredentials) (net : Network) : Except Failure String × Network :=
  let (answer, net) := net.sendToken c.request
  (ofAnswer answer, net)

end ClientCredentials

namespace Authenticator

/-- The authorization of a token. -/
def bearerOf (token : String) : String := "Bearer " ++ token

/-- The authorization of a user: name and password, each in Latin-1, with a colon between them, in
base 64. -/
def basicOf (user password : Value) : Except Failure String := do
  let name ← refusing user.showPlain
  let secret ← refusing password.showPlain
  match Encoding.latin1? name.toList, Encoding.latin1? secret.toList with
  | some a, some b => .ok ("Basic " ++ String.ofList (Encoding.base64 (a ++ 0x3A :: b)))
  | _, _ => .error .unencodable

/-- The authorization of a request, which may take a request for a token. -/
def authorize (a : Authenticator) (net : Network) : Except Failure String × Network :=
  match a with
  | .bearer token => (refusing (token.showPlain.map bearerOf), net)
  | .basic user password => (basicOf user password, net)
  | .client credentials =>
    let (token, net) := credentials.fetchToken net
    (token.map bearerOf, net)

/-- The sessions that an authenticator holds. -/
def sessions : Authenticator → List SessionId
  | .client credentials => [credentials.session]
  | _ => []

/-- Closes the sessions that an authenticator holds. -/
def close (a : Authenticator) (net : Network) : Network :=
  a.sessions.foldl Network.closeSession net

end Authenticator

end OData
