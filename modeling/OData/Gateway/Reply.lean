import OData.Failure
import OData.Gateway.Issue
import OData.Value.Finite

/-!
# Replies

What the gateway answers, by cause; `Reply.status` and `Reply.body` are the form that goes out. A
reply that reports issues, and one to a request that could not be handled, have no body here: of the
first `Reply.issues` is what counts.
-/

namespace OData.Gateway

/-- What the gateway answers. -/
inductive Reply where
  /-- It is up. -/
  | healthy
  /-- The address and the filter of a query. -/
  | compiled (url filter : String)
  /-- The address of a query and the records it found. -/
  | found (url : String) (items : List Members)
  /-- There is nothing at the path. -/
  | noSuchPath
  /-- The path does not take the method. -/
  | wrongMethod
  /-- The body cannot be read. -/
  | unreadable
  /-- The key is not the gateway's. -/
  | wrongKey
  /-- Something is wrong with the request. -/
  | invalid (issues : List Issue)
  /-- The service answered with an error. -/
  | reported (error : ErrorAnswer)
  /-- The service gave no usable answer. -/
  | unavailable (reason : String)
  /-- The request could not be handled. -/
  | broken

/-- The version of the gateway. -/
def version : String := "0.1.0"

namespace Reply

/-- The status of a reply. -/
def status : Reply → Nat
  | .healthy | .compiled .. | .found .. => 200
  | .unreadable => 400
  | .wrongKey => 401
  | .noSuchPath => 404
  | .wrongMethod => 405
  | .invalid _ => 422
  | .broken => 500
  | .reported _ | .unavailable _ => 502

/-- A body that gives a detail. -/
def detail (v : Value) : Option Value :=
  some (.object [("detail", v)])

/-- The body of a reply. -/
def body : Reply → Option Value
  | .healthy => some (.object [("ok", .bool true), ("version", .text version)])
  | .compiled url filter => some (.object [("url", .text url), ("filter", .text filter)])
  | .found url items =>
    some (.object [("url", .text url), ("count", .int items.length),
      ("items", .list (items.map fun members => (Value.object members).finite))])
  | .noSuchPath => detail (.text "Not Found")
  | .wrongMethod => detail (.text "Method Not Allowed")
  | .unreadable => detail (.text "There was an error parsing the body")
  | .wrongKey => detail (.text "Invalid API key")
  | .invalid _ => none
  | .reported error =>
    detail (.object [("upstream_status", error.status), ("message", .text error.message),
      ("url", error.url)])
  | .unavailable reason => detail (.object [("message", .text reason)])
  | .broken => none

/-- The reply that reports issues. Infinities and numbers that are none cannot be quoted, so a
report that would have to quote one breaks. -/
def ofIssues (listed : List Issue) : Reply :=
  if listed.all fun i => i.quoted.isFinite then .invalid listed else .broken

/-- The issues that a reply reports. -/
def issues : Reply → List Issue
  | .invalid listed => listed
  | _ => []

/-- The reply to a request that failed: a protocol failure is passed on, any other is not. -/
def ofFailure : Failure → Reply
  | .reported error => .reported error
  | failure =>
    match failure.class?, failure.message? with
    | some _, some reason => .unavailable reason
    | _, _ => .broken

end Reply

end OData.Gateway
