import OData.Gateway.Basic
import OData.Gateway.Form
import OData.Gateway.Reply
import OData.Gateway.Target
import OData.Paging

/-!
# The endpoints

Three paths: one tells that the gateway is up, one compiles a query form, one runs it. Slashes at
the end of a path do not count. A request to the last two is read in a fixed order: first its body
has to be a JSON document, then its key has to be the gateway's, then the document has to be a query
form. A form that is run uses one connection, which is closed whatever the outcome is.
-/

namespace OData.Gateway

/-- The method of a request. -/
inductive Method where
  /-- To read. -/
  | get
  /-- To send a form. -/
  | post
  /-- Any other. -/
  | other
deriving DecidableEq, Repr

/-- A request to the gateway. -/
structure Request where
  /-- The method. -/
  method : Method
  /-- Where it goes. -/
  target : String
  /-- The headers as they arrived. -/
  headers : Headers
  /-- The body as it arrived. -/
  body : List UInt8

/-- What can be asked of the gateway. -/
inductive Endpoint where
  /-- Whether it is up. -/
  | health
  /-- To compile a form. -/
  | compile
  /-- To run a form. -/
  | run
deriving DecidableEq, Repr

namespace Endpoint

/-- A path without a line feed at its end. -/
def withoutFinalFeed (path : String) : String :=
  if path.toList.getLast? == some '\n' then String.ofList path.toList.dropLast else path

/-- The endpoint at a path. Slashes at its end do not count, nor does one line feed before them. -/
def ofPath? (path : String) : Option Endpoint :=
  match withoutFinalFeed (Text.trimEndSlashes path) with
  | "/health" => some .health
  | "/compile" => some .compile
  | "/query" => some .run
  | _ => none

/-- The endpoint that a target leads to. -/
def ofTarget? (target : String) : Option Endpoint :=
  (Target.ofText? target).bind fun t => ofPath? t.arriving

/-- The method that an endpoint takes. -/
def method : Endpoint → Method
  | .health => .get
  | .compile | .run => .post

end Endpoint

/-! ## Reading a request -/

namespace Request

/-- The name of the header that carries the key. -/
def keyHeader : String := "x-api-key"

/-- The key that a request carries. -/
def key? (r : Request) : Option String :=
  r.headers.find? keyHeader

/-- Checks that a request carries a key. -/
def checkKey (r : Request) : Checked String :=
  match r.key? with
  | some key => .ok key
  | none => .flawed [⟨[.member "header", .member keyHeader], .missing, .null⟩]

/-- The document in a body: none if the body is empty. -/
def document (r : Request) : Except Reply (Option Value) :=
  if r.body.isEmpty then .ok none
  else
    match Json.decodeBytes r.body with
    | .ok v => .ok (some v)
    | .error (.unmet _ _ index) =>
      .error (.invalid [⟨[.member "body", .index index], .malformed, .object []⟩])
    | .error _ => .error .unreadable

/-- Checks that a document is a query form. -/
def checkForm (document : Option Value) : Checked Form :=
  (match document with
  | some v => Form.ofDocument v
  | none => .fail .missing .null).under (.member "body")

/-- The query form of a request to a gateway, or the reply that refuses the request. -/
def form (r : Request) (g : Gateway) : Except Reply Form := do
  let document ← r.document
  let checkedKey := r.checkKey
  let checkedForm := checkForm document
  match checkedKey with
  | .ok key =>
    if g.admits key then
      match checkedForm with
      | .ok form => .ok form
      | .flawed issues => .error (.ofIssues issues)
    else .error .wrongKey
  | .flawed issues => .error (.ofIssues (issues ++ checkedForm.issues))

end Request

/-! ## Answering a request -/

/-- The address and the filter of a form. Its page size is not capped. -/
def compile (form : Form) : Reply :=
  match form.query .null with
  | .ok q =>
    match q.address with
    | .ok url => .compiled url q.filter.expression
    | .error _ => .broken
  | .error _ => .broken

/-- What a form finds through a client: the entities of a type on the first page if it names one,
else the records of all pages up to a limit. -/
def collect (c : Client) (form : Form) (q : Query) (limit : Value) (net : Network) :
    Except Failure (List Value) × Network :=
  match form.entityType with
  | none | some "" => c.readAll q limit net
  | some type => c.entities q (.text type) net

/-- The members of values that are all objects. -/
def allMembers? : List Value → Option (List Members)
  | [] => some []
  | .object members :: rest => (allMembers? rest).map (members :: ·)
  | _ :: _ => none

/-- The reply to a form whose query found something or failed. -/
def replyTo (q : Query) : Except Failure (List Value) → Reply
  | .error failure => .ofFailure failure
  | .ok items =>
    match q.address, allMembers? items with
    | .ok url, some found => .found url found
    | _, _ => .broken

/-- Runs a query through a connection and closes the connection. -/
def runThrough (conn : Connection) (form : Form) (q : Query) (limit : Value) (net : Network) :
    Reply × Network :=
  let reached := conn.client net
  match reached.client with
  | .ok c =>
    let (items, net) := collect c form q limit reached.network
    (replyTo q items, (reached.connection.close net).2)
  | .error failure => (.ofFailure failure, (reached.connection.close reached.network).2)

/-- Runs a form: its page size and its number of pages are capped. What the connection lacks is no
failure of the service. -/
def run (g : Gateway) (env : Environment) (form : Form) (net : Network) : Reply × Network :=
  match form.query g.maxTop, g.maxPages.lesser form.maxPages with
  | .ok q, .ok limit =>
    match g.connect env with
    | .ok conn => runThrough conn form q limit net
    | .error _ => (.broken, net)
  | _, _ => (.broken, net)

/-- Answers a request. -/
def answer (g : Gateway) (env : Environment) (r : Request) (net : Network) : Reply × Network :=
  match Endpoint.ofTarget? r.target with
  | none => (.noSuchPath, net)
  | some endpoint =>
    if r.method != endpoint.method then (.wrongMethod, net)
    else
      match endpoint with
      | .health => (.healthy, net)
      | .compile =>
        match r.form g with
        | .ok form => (compile form, net)
        | .error reply => (reply, net)
      | .run =>
        match r.form g with
        | .ok form => run g env form net
        | .error reply => (reply, net)

end OData.Gateway
