import OData.Credential
import OData.Value.Number

/-!
# The client

A client knows where the service is and how to authorize requests. Every request for data is one
exchange: it is authorized, sent and classified. The result is the body, or the first failure among
authorization, transport and an answer that reports an error.

Whether a request is repeated after some answers, and which general headers go with it, is left to
the transport: an exchange takes the one answer that the transport ends up with.
-/

namespace OData

/-- The address of the token endpoint unless another is set. -/
def defaultTokenUrl : String :=
  "https://realtyfeed-sso.auth.us-east-1.amazoncognito.com/oauth2/token"

/-- The scope that is asked for unless another is set. -/
def defaultScope : String := "api/read"

/-- How a client is set up. -/
structure Config where
  /-- The address of the service. -/
  baseUrl : Value
  /-- The key that goes with every request. -/
  apiKey : Value
  /-- The kind of authentication. -/
  kind : Value
  /-- What the kind needs: a token, or a pair of texts. -/
  credential : Value
  /-- The address of the token endpoint. -/
  tokenUrl : Value := .text defaultTokenUrl
  /-- The scope that is asked for. -/
  scope : Value := .text defaultScope
  /-- The time limit of a request in seconds. -/
  timeout : Value := .float 60.0
  /-- How certificates are verified. -/
  verify : Value := .bool true

/-- A client. -/
structure Client where
  /-- The address of the service, with one slash at the end. -/
  base : String
  /-- The key that goes with every request. -/
  apiKey : Value
  /-- The time limit of a request in seconds. -/
  timeout : Float
  /-- How certificates are verified. -/
  verify : Value
  /-- How requests are authorized. -/
  authenticator : Authenticator
  /-- The session of the client. -/
  session : SessionId

namespace Config

/-- The way to authorize requests that a configuration asks for. -/
def authenticator (cfg : Config) (net : Network) : Except Failure (Authenticator × Network) :=
  match cfg.kind with
  | .text "client_credentials" => do
    let (clientId, clientSecret) ← refusing cfg.credential.pair
    let (session, net) := net.openSession
    .ok (.client ⟨clientId, clientSecret, cfg.tokenUrl, cfg.scope, cfg.timeout, cfg.verify,
      session⟩, net)
  | .text "bearer" => .ok (.bearer cfg.credential, net)
  | .text "basic" => do
    let (user, password) ← refusing cfg.credential.pair
    .ok (.basic user password, net)
  | _ => .error .unknownAuthentication

/-- The address of a service with one slash at the end. -/
def baseOf : Value → Except Fault String
  | .text s => .ok (Text.trimEndSlashes s ++ "/")
  | _ => .error .noSuchOperation

/-- Sets up a client. If it cannot be, no session has been opened. -/
def client (cfg : Config) (net : Network) : Except Failure (Client × Network) := do
  let base ← refusing (baseOf cfg.baseUrl)
  let timeout ← refusing cfg.timeout.toFloat
  let (authenticator, net) ← cfg.authenticator net
  let (session, net) := net.openSession
  .ok (⟨base, cfg.apiKey, timeout, cfg.verify, authenticator, session⟩, net)

end Config

/-! ## What an error answer says -/

/-- The value if it counts as present, as a labelled part. -/
def labelled (label : String) (v : Value) : Except Fault (List String) :=
  if v.truthy then v.showPlain.map fun shown => [label ++ "=" ++ shown] else .ok []

/-- The message of an error: a text, or the value inside an object. -/
def messageOf (error : Members) : Value :=
  match error.lookup "message" with
  | some (.object inner) => (inner.lookup "value").getD .null
  | some (.text s) => .text s
  | _ => .null

/-- The labelled parts of an error that are present: code, message, target. -/
def errorParts (error : Members) : Except Fault (List String) := do
  let code ← labelled "code" ((error.lookup "code").getD .null)
  let message ← labelled "message" (messageOf error)
  let target ← labelled "target" ((error.lookup "target").getD .null)
  .ok (code ++ message ++ target)

namespace Response

/-- Parts in one line, or the text of the response if there are none. -/
def lineOf (r : Response) : List String → Except Fault String
  | [] => r.text
  | part :: parts => .ok (String.intercalate " | " (part :: parts))

/-- What a response says about an error: the parts of the error that its document describes, or else
its text. That its body is nested too deep is not taken for the lack of a document. -/
def explanation (r : Response) : Except Fault String :=
  match r.document with
  | .error .tooDeep => .error .tooDeep
  | .error (.malformed _) => r.text
  | .ok document =>
    match (document.get? "error").bind Value.members? with
    | none => r.text
    | some error => errorParts error >>= r.lineOf

/-- A response to a request for `url` as an error answer that says `explanation`. -/
def errorAnswer (r : Response) (url explanation : String) : ErrorAnswer where
  status := .int r.status
  body := .text explanation
  url := .text url
  headers := .object (r.headers.distinct.map fun h => (h.1, .text h.2))

/-- The body of a response to a request for `url`, unless it reports an error. -/
def outcome (r : Response) (url : String) : Except Failure (List UInt8) :=
  if 400 ≤ r.status then
    match r.explanation with
    | .ok explanation => .error (.reported (r.errorAnswer url explanation))
    | .error cause => .error (.argument cause)
  else .ok r.body

end Response

/-- What an answer to a request for `url` amounts to. -/
def Answer.outcome (url : String) : Answer → Except Failure (List UInt8)
  | .response r => r.outcome url
  | .unreachable reason => .error (.unreachable reason)
  | .systemFailure => .error .system

namespace Client

/-! ## Preparing a request -/

/-- Whether a text is an address of its own. -/
def isAbsolute (s : String) : Bool :=
  Text.beginsWith "http://" s || Text.beginsWith "https://" s

/-- The address that an endpoint stands for: itself if it is absolute, else the service's address
with the endpoint after it. -/
def resolve (c : Client) (endpoint : String) : String :=
  if isAbsolute endpoint then endpoint else c.base ++ Text.trimStartSlashes endpoint

/-- The address that an endpoint stands for; only a text is an endpoint. -/
def address (c : Client) : Value → Except Fault String
  | .text endpoint => .ok (c.resolve endpoint)
  | _ => .error .noSuchOperation

/-- Headers given as a list of pairs. A key has to be one that an object can have. -/
def headerPairs : List Value → Except Fault (List (Value × Value))
  | [] => .ok []
  | v :: rest => do
    let (key, value) ← v.pair
    match key with
    | .list _ | .object _ => .error .wrongKind
    | _ => do
      let pairs ← headerPairs rest
      .ok ((key, value) :: pairs)

/-- The names of headers have to be texts. -/
def namedHeaders : List (Value × Value) → Except Fault Members
  | [] => .ok []
  | (.text name, value) :: rest => do
    let members ← namedHeaders rest
    .ok ((name, value) :: members)
  | _ :: _ => .error .noSuchOperation

/-- The headers of a request: the key, and whatever is added, which may replace it. Additions are an
object or a sequence of pairs, and may be absent. -/
def headers (c : Client) (additions : Value) : Except Fault Members :=
  let own : Members := [("x-api-key", c.apiKey)]
  if additions.truthy then
    match additions with
    | .object members => .ok (own.merge members)
    | _ => do
      let items ← additions.elements
      let pairs ← headerPairs items
      let members ← namedHeaders pairs
      .ok (own.merge members)
  else .ok own

/-! ## Requests -/

/-- Sends a request that is ready: authorizes it, sends it and classifies the answer. A request that
cannot be authorized is not sent. -/
def exchange (c : Client) (url : String) (params : Value) (headers : Members) (net : Network) :
    Except Failure (List UInt8) × Network :=
  match c.authenticator.authorize net with
  | (.error failure, net) => (.error failure, net)
  | (.ok authorization, net) =>
    let (answer, net) := net.sendData ⟨url, params, headers, authorization, c.timeout, c.verify⟩
    (answer.outcome url, net)

/-- Requests an endpoint and gives the body. -/
def get (c : Client) (endpoint params additions : Value) (net : Network) :
    Except Failure (List UInt8) × Network :=
  match c.headers additions, c.address endpoint with
  | .ok headers, .ok url => c.exchange url params headers net
  | .error cause, _ => (.error (.argument cause), net)
  | .ok _, .error cause => (.error (.argument cause), net)

/-- The payload of a body. -/
def payloadOf : Except Failure (List UInt8) → Except Failure Members
  | .ok body =>
    match Payload.decode (.bytes body) with
    | .ok members => .ok members
    | .error cause => .error cause.failure
  | .error failure => .error failure

/-- Requests an endpoint and decodes the body. -/
def getPayload (c : Client) (endpoint params additions : Value) (net : Network) :
    Except Failure Members × Network :=
  let (body, net) := c.get endpoint params additions net
  (payloadOf body, net)

/-- The sessions that a client holds: its own and its authenticator's. -/
def sessions (c : Client) : List SessionId :=
  c.session :: c.authenticator.sessions

/-- Closes the sessions that a client holds. -/
def close (c : Client) (net : Network) : Network :=
  c.authenticator.close (net.closeSession c.session)

end Client

end OData
