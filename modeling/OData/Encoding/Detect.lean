import OData.Encoding.Utf8
import OData.Encoding.Wide

/-!
# Which form a document has

A byte order mark decides. Without one, the places of the zero bytes at the front do, since the
first characters of a document are ASCII; otherwise it is UTF-8. The mark is no part of the text.
-/

namespace OData.Encoding

/-- A form and the length of the byte order mark in front. -/
structure Detected where
  /-- The form of the text. -/
  form : Form
  /-- How many bytes the mark has. -/
  mark : Nat

/-- The form of a document. -/
def detect : List UInt8 → Detected
  | 0x00 :: 0x00 :: 0xFE :: 0xFF :: _ => ⟨.utf32 true, 4⟩
  | 0xFF :: 0xFE :: 0x00 :: 0x00 :: _ => ⟨.utf32 false, 4⟩
  | 0xFE :: 0xFF :: _ => ⟨.utf16 true, 2⟩
  | 0xFF :: 0xFE :: _ => ⟨.utf16 false, 2⟩
  | 0xEF :: 0xBB :: 0xBF :: _ => ⟨.utf8, 3⟩
  | a :: b :: c :: d :: _ =>
    if a = 0 then
      if b = 0 then ⟨.utf32 true, 0⟩ else ⟨.utf16 true, 0⟩
    else if b = 0 then
      if c = 0 ∧ d = 0 then ⟨.utf32 false, 0⟩ else ⟨.utf16 false, 0⟩
    else ⟨.utf8, 0⟩
  | [a, b] =>
    if a = 0 then ⟨.utf16 true, 0⟩ else if b = 0 then ⟨.utf16 false, 0⟩ else ⟨.utf8, 0⟩
  | _ => ⟨.utf8, 0⟩

/-- The text of a document. Positions of flaws count a mark of two or four bytes, not one of
three. -/
def decodeDocument (bytes : List UInt8) : Except Undecodable (List Char) :=
  let d := detect bytes
  let body := bytes.drop d.mark
  match d.form with
  | .utf8 => Utf8.decode body
  | .utf16 bigEndian => decodeUtf16 bigEndian d.mark body
  | .utf32 bigEndian => decodeUtf32 bigEndian d.mark body

end OData.Encoding
