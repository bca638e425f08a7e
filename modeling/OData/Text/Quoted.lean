import OData.Text.Printable

/-!
# Quoted texts

The form in which a text is shown inside a list, an object or a message: between single quotes, or
between double quotes when it holds a single quote and no double one. A backslash and the quote
that is used are written after a backslash, the three common controls by name, and every other
unprintable character by its number.
-/

namespace OData.Text

/-- The hexadecimal digits of `n`, at least `width` of them, in lower case. -/
def hex (width n : Nat) : List Char :=
  let ds := Nat.toDigits 16 n
  List.replicate (width - ds.length) '0' ++ ds

/-- An unprintable character by its number: two, four or eight hexadecimal digits. -/
def numbered (c : Char) : List Char :=
  let n := c.toNat
  if n < 0x100 then ['\x5c', 'x'] ++ hex 2 n
  else if n < 0x10000 then ['\x5c', 'u'] ++ hex 4 n
  else ['\x5c', 'U'] ++ hex 8 n

/-- The quote that surrounds a text. -/
def quoteOf (cs : List Char) : Char :=
  if cs.contains '\x27' && !cs.contains '\x22' then '\x22' else '\x27'

/-- One character as it stands between the given quotes. -/
def quotedChar (quote c : Char) : List Char :=
  if c = quote ∨ c = '\x5c' then ['\x5c', c]
  else if c = '\n' then ['\x5c', 'n']
  else if c = '\r' then ['\x5c', 'r']
  else if c = '\t' then ['\x5c', 't']
  else if isPrintable c then [c]
  else numbered c

/-- A text in quotes. -/
def quoted (s : String) : String :=
  let quote := quoteOf s.toList
  String.ofList (quote :: s.toList.flatMap (quotedChar quote) ++ [quote])

end OData.Text
