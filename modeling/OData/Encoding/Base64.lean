/-!
# Latin-1 and base 64

What a basic credential needs: its text as one byte a character, where every character is below
U+0100, and bytes as groups of six bits.
-/

namespace OData.Encoding

/-- The bytes of a text in Latin-1, if every character has one. -/
def latin1? : List Char → Option (List UInt8)
  | [] => some []
  | c :: rest =>
    if c.toNat < 0x100 then (latin1? rest).map (UInt8.ofNat c.toNat :: ·) else none

/-- The character for six bits. -/
def sextet (n : Nat) : Char :=
  if n < 26 then Char.ofNat ('A'.toNat + n)
  else if n < 52 then Char.ofNat ('a'.toNat + (n - 26))
  else if n < 62 then Char.ofNat ('0'.toNat + (n - 52))
  else if n = 62 then '+'
  else '/'

/-- Three bytes become four characters; the last group is filled up with equals signs. -/
def base64 : List UInt8 → List Char
  | [] => []
  | [a] =>
    let n := a.toNat * 0x10000
    [sextet (n / 0x40000 % 64), sextet (n / 0x1000 % 64), '=', '=']
  | [a, b] =>
    let n := a.toNat * 0x10000 + b.toNat * 0x100
    [sextet (n / 0x40000 % 64), sextet (n / 0x1000 % 64), sextet (n / 0x40 % 64), '=']
  | a :: b :: c :: rest =>
    let n := a.toNat * 0x10000 + b.toNat * 0x100 + c.toNat
    sextet (n / 0x40000 % 64) :: sextet (n / 0x1000 % 64) :: sextet (n / 0x40 % 64) ::
      sextet (n % 64) :: base64 rest

end OData.Encoding
