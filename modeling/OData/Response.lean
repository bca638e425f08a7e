import OData.Encoding.Utf8
import OData.Fault
import OData.Headers
import OData.Json.Decoder

/-!
# Responses

A response has a status, headers and a body. The body is bytes; which text they are, and which
document, is for the library to say that received the response. It looks at the headers and at the
bytes, and it may fail. So a response carries both readings, and whatever is said of all responses
is said of all ways to read them. `Response.utf8` is one that is read as UTF-8.
-/

namespace OData

/-- Why a body could not be read as a document. -/
inductive Unreadable where
  /-- It is none, and the wording says why. -/
  | malformed (reason : String)
  /-- It is nested deeper than there is room for. -/
  | tooDeep
deriving DecidableEq, Repr

/-- A response to a request. -/
structure Response where
  /-- The status. -/
  status : Int
  /-- The body as it arrived. -/
  body : List UInt8
  /-- The headers as they arrived. -/
  headers : Headers
  /-- The text that the body is read as. -/
  text : Except Fault String
  /-- The document that the body is read as. -/
  document : Except Unreadable Value

/-- The reading of a document that a text spells. -/
def Unreadable.ofText (s : String) : Except Unreadable Value :=
  match Json.decodeText s with
  | .ok v => .ok v
  | .error (.tooDeep _) => .error .tooDeep
  | .error cause => .error (.malformed cause.message)

/-- A response whose body is read as UTF-8, with U+FFFD for what cannot be decoded. -/
def Response.utf8 (status : Int) (body : List UInt8) (headers : Headers) : Response where
  status := status
  body := body
  headers := headers
  text := .ok (Encoding.Utf8.lossy body)
  document := Unreadable.ofText (Encoding.Utf8.lossy body)

end OData
