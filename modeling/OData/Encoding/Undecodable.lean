import OData.Text.Quoted

/-!
# Bytes that decode to no text

A decoder that meets bytes outside its form reports where they start, how many of them belong to
the flaw, the first of them, and what is wrong.
-/

namespace OData.Encoding

/-- A form of encoded text. -/
inductive Form where
  /-- UTF-8. -/
  | utf8
  /-- UTF-16 with the given byte order. -/
  | utf16 (bigEndian : Bool)
  /-- UTF-32 with the given byte order. -/
  | utf32 (bigEndian : Bool)
deriving DecidableEq, Repr

/-- The name of a form in messages. -/
def Form.name : Form → String
  | .utf8 => "utf-8"
  | .utf16 bigEndian => if bigEndian then "utf-16-be" else "utf-16-le"
  | .utf32 bigEndian => if bigEndian then "utf-32-be" else "utf-32-le"

/-- What is wrong with a sequence of bytes. -/
inductive Reason where
  /-- The byte starts no character. -/
  | invalidStart
  /-- A byte that should continue a character does not. -/
  | invalidContinuation
  /-- The bytes end inside a character. -/
  | unexpectedEnd
  /-- The bytes end inside a unit of the form. -/
  | truncated
  /-- The unit is no code point. -/
  | outOfRange
deriving DecidableEq, Repr

/-- The wording of a reason. -/
def Reason.message : Reason → String
  | .invalidStart => "invalid start byte"
  | .invalidContinuation => "invalid continuation byte"
  | .unexpectedEnd => "unexpected end of data"
  | .truncated => "truncated data"
  | .outOfRange => "code point not in range(0x110000)"

/-- The first flaw of a sequence of bytes. -/
structure Undecodable where
  /-- The form that was decoded. -/
  form : Form
  /-- The index of the first byte of the flaw. -/
  position : Nat
  /-- How many bytes the flaw has. -/
  width : Nat
  /-- The first byte of the flaw. -/
  byte : UInt8
  /-- What is wrong. -/
  reason : Reason
deriving DecidableEq, Repr

/-- A byte as two hexadecimal digits. -/
def hexByte (b : UInt8) : String :=
  String.ofList (Text.hex 2 b.toNat)

/-- The wording of a flaw: one byte is named by its value, several by their positions. -/
def Undecodable.message (u : Undecodable) : String :=
  let codec := "'" ++ u.form.name ++ "' codec can't decode "
  let place :=
    if u.width = 1 then "byte 0x" ++ hexByte u.byte ++ " in position " ++ toString u.position
    else "bytes in position " ++ toString u.position ++ "-" ++ toString (u.position + u.width - 1)
  codec ++ place ++ ": " ++ u.reason.message

end OData.Encoding
