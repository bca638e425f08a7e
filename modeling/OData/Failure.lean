import OData.Fault
import OData.Payload

/-!
# How an operation fails

An operation that reaches the network or resolves settings ends with a result or with one of the
failures below. Those that concern the protocol belong to a class; the others have none.
-/

namespace OData

/-- Why no access token could be obtained. -/
inductive TokenFailure where
  /-- The token endpoint could not be reached. -/
  | unreachable (reason : String)
  /-- It answered with a status other than success. -/
  | refused (status : Int)
  /-- Its answer is no JSON document. -/
  | unreadable (reason : String)
  /-- Its answer holds no token. -/
  | missing
deriving DecidableEq, Repr

/-- The wording of a token failure. -/
def TokenFailure.message : TokenFailure → String
  | .unreachable reason => "OAuth 2.0 authentication failed: " ++ reason
  | .refused status =>
    "OAuth 2.0 authentication failed: token endpoint returned " ++ toString status
  | .unreadable reason => "Error parsing token response: " ++ reason
  | .missing => "Token response does not contain an access_token"

/-- An answer of the service that reports an error. -/
structure ErrorAnswer where
  /-- The status of the answer. -/
  status : Value
  /-- What the answer says about the error, in full: a text, or a list. -/
  body : Value
  /-- The address that was asked. -/
  url : Value
  /-- The headers of the answer. -/
  headers : Value

namespace ErrorAnswer

/-- An error answer with the given parts. An absent body is the empty text, absent headers are the
empty object, and a body without a front that a message could quote is refused. -/
def ofParts (status body url headers : Value) : Except Fault ErrorAnswer :=
  match body.orElse (.text "") with
  | .text s => .ok ⟨status, .text s, url, headers.orElse (.object [])⟩
  | .list items => .ok ⟨status, .list items, url, headers.orElse (.object [])⟩
  | _ => .error .wrongKind

/-- How many characters of a body, or how many of its items, a message quotes. -/
def snippetLength : Nat := 1200

/-- The part of a body that a message quotes. -/
def snippet : Value → String
  | .text s => Text.take snippetLength s
  | .list items => (Value.list (items.take snippetLength)).plain
  | v => v.plain

/-- The wording of an error answer: it quotes the front of the body. -/
def message (e : ErrorAnswer) : String :=
  "OData upstream error " ++ e.status.plain ++ " for " ++ e.url.plain ++ ": " ++ snippet e.body

end ErrorAnswer

/-- A setting without which nothing can be sent. -/
inductive MissingSetting where
  /-- The address of the service. -/
  | address
  /-- A token, or a client's name and secret. -/
  | credentials
deriving DecidableEq, Repr

/-- The wording of a missing setting. -/
def MissingSetting.message : MissingSetting → String
  | .address =>
    "Missing base_url. Set ODATA_BASE_URL environment variable or pass base_url parameter."
  | .credentials =>
    "Missing credentials. Set ODATA_CLIENT_ID/ODATA_CLIENT_SECRET or " ++
      "ODATA_BEARER_TOKEN environment variables, or pass client_id/client_secret " ++
      "or bearer_token parameters."

/-- How an operation fails. -/
inductive Failure where
  /-- An argument was refused, or what a body holds in the place of one. -/
  | argument (cause : Fault)
  /-- A credential holds a character that a header cannot carry. -/
  | unencodable
  /-- The operating system failed. -/
  | system
  /-- A setting is missing. -/
  | setting (missing : MissingSetting)
  /-- The kind of authentication is unknown. -/
  | unknownAuthentication
  /-- No access token could be obtained. -/
  | token (cause : TokenFailure)
  /-- The service could not be reached. -/
  | unreachable (reason : String)
  /-- The service answered with an error. -/
  | reported (error : ErrorAnswer)
  /-- The answer holds no payload. -/
  | payload (cause : Undecoded)

/-- A class of protocol failures. -/
inductive Failure.Class where
  /-- No access token could be obtained. -/
  | authentication
  /-- The request for data failed. -/
  | request
  /-- The service answered with an error. -/
  | reported
  /-- The answer holds no payload. -/
  | payload
deriving DecidableEq, Repr

/-- The class of a protocol failure; other failures have none. -/
def Failure.class? : Failure → Option Failure.Class
  | .token _ => some .authentication
  | .unreachable _ => some .request
  | .reported _ => some .reported
  | .payload _ => some .payload
  | _ => none

/-- The wording of a failure, where the library gives it one. -/
def Failure.message? : Failure → Option String
  | .argument _ => none
  | .unencodable => none
  | .system => none
  | .setting missing => some missing.message
  | .unknownAuthentication =>
    some "auth.kind must be 'client_credentials', 'bearer' or 'basic'"
  | .token cause => some cause.message
  | .unreachable reason => some ("HTTP request failed: " ++ reason)
  | .reported error => some error.message
  | .payload cause => some cause.message

/-- How an operation fails on an answer without a payload. One that is nested too deep is not
passed off as one that holds no document. -/
def Undecoded.failure : Undecoded → Failure
  | .malformed (.tooDeep _) => .argument .tooDeep
  | cause => .payload cause

/-- An answer with a refused argument as a failure. -/
def refusing {α : Type} : Except Fault α → Except Failure α
  | .ok a => .ok a
  | .error cause => .error (.argument cause)

theorem refusing_eq_ok_iff {α : Type} {x : Except Fault α} {a : α} :
    refusing x = .ok a ↔ x = .ok a := by
  cases x <;> simp [refusing]

end OData
