import OData.Encoding.Undecodable

/-!
# UTF-8

A character is a leading byte and up to three continuation bytes. The leading byte fixes how many
follow and narrows the range of the first of them, which rules out overlong forms, surrogates and
numbers beyond U+10FFFF. A flaw is as long as the bytes that could still have begun a character.

Two readings of the same scan: `decode` stops at the first flaw, `lossy` puts U+FFFD in its place.
Three bytes that spell a surrogate are three flaws for `lossy`; `decode` takes them for one U+FFFD.
-/

namespace OData.Encoding.Utf8

/-- A flaw at the front of a sequence: its length in bytes and what is wrong. -/
structure Flaw where
  /-- How many bytes the flaw has, at least one. -/
  width : Nat
  /-- What is wrong. -/
  reason : Reason

/-- How many bytes continue a character that starts with `b`, the range of the first of them, and
the bits that `b` contributes. -/
def lead? (b : Nat) : Option (Nat × Nat × Nat × Nat) :=
  if b < 0x80 then some (0, 0x80, 0xBF, b)
  else if b < 0xC2 then none
  else if b < 0xE0 then some (1, 0x80, 0xBF, b - 0xC0)
  else if b = 0xE0 then some (2, 0xA0, 0xBF, 0)
  else if b = 0xED then some (2, 0x80, 0x9F, 0xD)
  else if b < 0xF0 then some (2, 0x80, 0xBF, b - 0xE0)
  else if b = 0xF0 then some (3, 0x90, 0xBF, 0)
  else if b < 0xF4 then some (3, 0x80, 0xBF, b - 0xF0)
  else if b = 0xF4 then some (3, 0x80, 0x8F, 4)
  else none

/-- Reads continuation bytes: how many, the range of the next, the bits and the bytes so far. -/
def continuation : Nat → Nat → Nat → Nat → Nat → List UInt8 → Except Flaw (Nat × Nat)
  | 0, _, _, bits, width, _ => .ok (bits, width)
  | _ + 1, _, _, _, width, [] => .error ⟨width, .unexpectedEnd⟩
  | count + 1, low, high, bits, width, b :: rest =>
    if low ≤ b.toNat ∧ b.toNat ≤ high then
      continuation count 0x80 0xBF (bits * 64 + (b.toNat - 0x80)) (width + 1) rest
    else .error ⟨width, .invalidContinuation⟩

/-- The character at the front of `b :: rest` and its length in bytes. -/
def front (b : UInt8) (rest : List UInt8) : Except Flaw (Char × Nat) :=
  match lead? b.toNat with
  | none => .error ⟨1, .invalidStart⟩
  | some (count, low, high, bits) =>
    (continuation count low high bits 1 rest).map fun r => (Char.ofNat r.1, r.2)

/-- Whether the three bytes at the front of `b :: rest` spell a surrogate. -/
def spellsSurrogate (b : UInt8) (rest : List UInt8) : Bool :=
  match rest with
  | c :: d :: _ => b == 0xED && 0xA0 ≤ c && c ≤ 0xBF && 0x80 ≤ d && d ≤ 0xBF
  | _ => false

/-- The character at the front of `b :: rest` and its length in bytes, where a surrogate stands for
U+FFFD. -/
def frontOrSurrogate (b : UInt8) (rest : List UInt8) : Except Flaw (Char × Nat) :=
  if spellsSurrogate b rest then .ok ('\uFFFD', 3) else front b rest

/-- The scan that stops at the first flaw. The first argument is the position of the next byte and
the second says how many bytes belong to a character already read. -/
def decodeFrom (position : Nat) : Nat → List UInt8 → Except Undecodable (List Char)
  | _, [] => .ok []
  | skip + 1, _ :: rest => decodeFrom (position + 1) skip rest
  | 0, b :: rest =>
    match frontOrSurrogate b rest with
    | .ok (c, width) => (decodeFrom (position + 1) (width - 1) rest).map (c :: ·)
    | .error flaw => .error ⟨.utf8, position, flaw.width, b, flaw.reason⟩

/-- The text that bytes encode. -/
def decode (bytes : List UInt8) : Except Undecodable (List Char) :=
  decodeFrom 0 0 bytes

/-- The scan that replaces flaws. -/
def lossyFrom : Nat → List UInt8 → List Char
  | _, [] => []
  | skip + 1, _ :: rest => lossyFrom skip rest
  | 0, b :: rest =>
    match front b rest with
    | .ok (c, width) => c :: lossyFrom (width - 1) rest
    | .error flaw => '\uFFFD' :: lossyFrom (flaw.width - 1) rest

/-- The text that bytes encode, with one U+FFFD for each flaw. -/
def lossy (bytes : List UInt8) : String :=
  String.ofList (lossyFrom 0 bytes)

/-- The bytes of a text. -/
def encode (s : String) : List UInt8 :=
  s.toUTF8.toList

end OData.Encoding.Utf8
