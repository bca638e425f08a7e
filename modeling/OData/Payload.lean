import OData.Json.Decoder
import OData.Text.Trim

/-!
# Payloads

A payload is a JSON object in one of two layouts. The newer one has the records under `value` and
the next link under `@odata.nextLink`; the older one has both inside an object `d`, under `results`
and `__next`. What is looked up in something other than an object is absent.
-/

namespace OData

/-- A payload as it arrives. -/
inductive Raw where
  /-- A text. -/
  | text (s : String)
  /-- Bytes, in a form still to be found out. -/
  | bytes (bytes : List UInt8)
  /-- Something that is neither. -/
  | other (v : Value)

/-- Why a payload is no JSON object. -/
inductive Undecoded where
  /-- It is no JSON document. -/
  | malformed (cause : Json.Error)
  /-- It is a document that holds something other than an object. -/
  | notAnObject (kind : String)
  /-- It is neither text nor bytes. -/
  | notText (kind : String)
deriving DecidableEq, Repr

/-- The wording of a failure to decode. -/
def Undecoded.message : Undecoded → String
  | .malformed cause => "Error parsing JSON response: " ++ cause.message
  | .notAnObject kind => "Error parsing JSON response: expected an object, got " ++ kind
  | .notText kind =>
    "Error parsing JSON response: the JSON object must be str, bytes or bytearray, not " ++ kind

namespace Payload

/-- The members of the object that a document holds. -/
def ofDocument : Except Json.Error Value → Except Undecoded Members
  | .ok (.object members) => .ok members
  | .ok v => .error (.notAnObject v.kindName)
  | .error cause => .error (.malformed cause)

/-- The members of the object that a payload holds. -/
def decode : Raw → Except Undecoded Members
  | .text s => ofDocument (Json.decodeText s)
  | .bytes bytes => ofDocument (Json.decodeBytes bytes)
  | .other v => .error (.notText v.kindName)

/-- A top-level property. A name that could be no key is refused; one that is merely never a key is
absent. -/
def property (payload name : Value) : Except Fault Value :=
  match payload with
  | .object members =>
    match name with
    | .text key => .ok ((members.lookup key).getD .null)
    | .list _ | .object _ => .error .wrongKind
    | _ => .ok .null
  | _ => .ok .null

/-- Whether a record declares the given type. -/
def declares (type : String) (record : Value) : Bool :=
  (record.get? "@odata.type").any fun v => v.text? == some type

/-- The declared form of a type's name: it starts with a number sign. -/
def declaredName (type : String) : String :=
  if Text.beginsWith "#" type then type else "#" ++ type

/-- The entries under `value` that declare the given type. -/
def entities (payload type : Value) : Except Fault (List Value) :=
  match payload with
  | .object members =>
    match type with
    | .text name => do
      let entries ← ((members.lookup "value").getD .null |>.orElse (.list [])).elements
      .ok (entries.filter (declares (declaredName name)))
    | _ => .error .noSuchOperation
  | _ => .ok []

/-- The records of a payload, in either layout; whatever stands in their place is given as it is,
unless it counts as absent. -/
def results : Value → Value
  | .object members =>
    match members.lookup "d" with
    | some (.object inner) => ((inner.lookup "results").getD .null).orElse (.list [])
    | _ => ((members.lookup "value").getD .null).orElse (.list [])
  | _ => .list []

/-- The next link of a payload, in either layout. -/
def nextLink : Value → Value
  | .object members =>
    let outer := (members.lookup "@odata.nextLink").getD .null
    match members.lookup "d" with
    | some (.object inner) => ((inner.lookup "__next").getD .null).orElse outer
    | _ => outer
  | _ => .null

end Payload

end OData
