import OData.Response

/-!
# The network

What the outside will answer, and what was sent to it. Requests for data and requests for tokens are
answered from two queues, each in order; a queue that is used up answers that it cannot be reached.
Every request is entered in the log before it is answered. Sessions are numbered as they are opened,
and closing one enters its number.
-/

namespace OData

/-- What comes back for a request. -/
inductive Answer where
  /-- A response. -/
  | response (r : Response)
  /-- The other side could not be reached. -/
  | unreachable (reason : String)
  /-- The operating system failed. -/
  | systemFailure

/-- The answer of a queue that is used up. -/
def Answer.exhausted : Answer := .unreachable "no scripted response"

/-- A request for data. -/
structure DataRequest where
  /-- The address. -/
  url : String
  /-- Additional parameters, as given. -/
  params : Value
  /-- The headers given with the request. -/
  headers : Members
  /-- The authorization that the authenticator added. -/
  authorization : String
  /-- The time limit in seconds. -/
  timeout : Float
  /-- How the other side's certificate is verified. -/
  verify : Value

/-- A request for a token. -/
structure TokenRequest where
  /-- The address of the token endpoint. -/
  url : Value
  /-- The form that is sent. -/
  form : Members
  /-- The time limit. -/
  timeout : Value
  /-- How the other side's certificate is verified. -/
  verify : Value

/-- An entry of the log. -/
inductive Sent where
  /-- A request for data. -/
  | data (request : DataRequest)
  /-- A request for a token. -/
  | token (request : TokenRequest)

/-- The number of a session. -/
abbrev SessionId := Nat

/-- The network: answers to come, requests sent, sessions opened and closed. -/
structure Network where
  /-- The answers to requests for data, in order. -/
  dataAnswers : List Answer
  /-- The answers to requests for tokens, in order. -/
  tokenAnswers : List Answer
  /-- What was sent, in order. -/
  log : List Sent
  /-- How many sessions were opened; their numbers are those below. -/
  opened : Nat
  /-- The sessions that were closed, in order. -/
  closed : List SessionId

namespace Network

/-- A network before any request. -/
def ofAnswers (dataAnswers tokenAnswers : List Answer) : Network :=
  ⟨dataAnswers, tokenAnswers, [], 0, []⟩

/-- Sends a request for data. -/
def sendData (net : Network) (request : DataRequest) : Answer × Network :=
  (net.dataAnswers.headD .exhausted,
    { net with dataAnswers := net.dataAnswers.tail, log := net.log ++ [.data request] })

/-- Sends a request for a token. -/
def sendToken (net : Network) (request : TokenRequest) : Answer × Network :=
  (net.tokenAnswers.headD .exhausted,
    { net with tokenAnswers := net.tokenAnswers.tail, log := net.log ++ [.token request] })

/-- Opens a session. -/
def openSession (net : Network) : SessionId × Network :=
  (net.opened, { net with opened := net.opened + 1 })

/-- Closes a session. -/
def closeSession (net : Network) (id : SessionId) : Network :=
  { net with closed := net.closed ++ [id] }

end Network

end OData
