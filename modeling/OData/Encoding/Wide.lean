import OData.Encoding.Undecodable

/-!
# UTF-16 and UTF-32

Bytes are taken in units of two or four with the given byte order. In UTF-16 a pair of surrogates is
one character; a surrogate on its own, in either form, stands for U+FFFD. Bytes that do not fill the
last unit are a flaw, and so is a unit beyond U+10FFFF.
-/

namespace OData.Encoding

/-- The number that the bytes of a unit spell. -/
def unitValue (bigEndian : Bool) (unit : List UInt8) : Nat :=
  (if bigEndian then unit else unit.reverse).foldl (fun n b => n * 256 + b.toNat) 0

/-- The units of two bytes. -/
def pairs (bigEndian : Bool) (position : Nat) : List UInt8 → Except Undecodable (List Nat)
  | [] => .ok []
  | [a] => .error ⟨.utf16 bigEndian, position, 1, a, .truncated⟩
  | a :: b :: rest =>
    (pairs bigEndian (position + 2) rest).map (unitValue bigEndian [a, b] :: ·)

/-- Whether a unit is the first of a pair of surrogates. -/
def isHighSurrogate (u : Nat) : Bool := 0xD800 ≤ u && u < 0xDC00

/-- Whether a unit is the second of a pair of surrogates. -/
def isLowSurrogate (u : Nat) : Bool := 0xDC00 ≤ u && u < 0xE000

/-- The character that a pair of surrogates stands for. -/
def joinSurrogates (high low : Nat) : Char :=
  Char.ofNat (0x10000 + (high - 0xD800) * 0x400 + (low - 0xDC00))

/-- A code point as a character; a surrogate stands for U+FFFD. -/
def charOfCode (n : Nat) : Char :=
  if n.isValidChar then Char.ofNat n else '\uFFFD'

/-- The characters of UTF-16 units. -/
def ofUnits : List Nat → List Char
  | [] => []
  | [u] => [charOfCode u]
  | u :: v :: rest =>
    if isHighSurrogate u && isLowSurrogate v then joinSurrogates u v :: ofUnits rest
    else charOfCode u :: ofUnits (v :: rest)

/-- The text that UTF-16 bytes encode, the first of them at the given position. -/
def decodeUtf16 (bigEndian : Bool) (position : Nat) (bytes : List UInt8) :
    Except Undecodable (List Char) :=
  (pairs bigEndian position bytes).map ofUnits

/-- The text that UTF-32 bytes encode, the first of them at the given position. -/
def decodeUtf32 (bigEndian : Bool) (position : Nat) : List UInt8 → Except Undecodable (List Char)
  | [] => .ok []
  | a :: b :: c :: d :: rest =>
    let n := unitValue bigEndian [a, b, c, d]
    if n ≤ 0x10FFFF then (decodeUtf32 bigEndian (position + 4) rest).map (charOfCode n :: ·)
    else .error ⟨.utf32 bigEndian, position, 4, a, .outOfRange⟩
  | a :: rest => .error ⟨.utf32 bigEndian, position, rest.length + 1, a, .truncated⟩

end OData.Encoding
