import OData.Decimal.Shortest
import OData.Text.Quoted
import OData.Value

/-!
# Writing JSON

A value as an ASCII text without blanks. Characters outside ASCII are written by the numbers of
their UTF-16 units, control characters by theirs.
-/

namespace OData.Json

/-- A UTF-16 unit as an escape. -/
def unitEscape (n : Nat) : List Char :=
  '\x5c' :: 'u' :: Text.hex 4 n

/-- One character inside a string. -/
def printChar (c : Char) : List Char :=
  let n := c.toNat
  if c = '\x22' ∨ c = '\x5c' then ['\x5c', c]
  else if 0x20 ≤ n ∧ n < 0x7F then [c]
  else if n < 0x10000 then unitEscape n
  else unitEscape (0xD800 + (n - 0x10000) / 0x400) ++ unitEscape (0xDC00 + (n - 0x10000) % 0x400)

/-- A text as a string. -/
def printString (s : String) : String :=
  String.ofList ('\x22' :: s.toList.flatMap printChar ++ ['\x22'])

/-- A double: the words for what is no finite number, else its shortest decimal. -/
def printFloat (x : Float) : String :=
  match Decimal.Double.ofFloat x with
  | .nan => "NaN"
  | .infinite negative => if negative then "-Infinity" else "Infinity"
  | .finite _ => Decimal.render x

mutual

/-- A value as JSON. -/
def print : Value → String
  | .null => "null"
  | .bool b => if b then "true" else "false"
  | .int n => toString n
  | .float x => printFloat x
  | .text s => printString s
  | .list items => "[" ++ String.intercalate "," (printItems items) ++ "]"
  | .object members => "\x7b" ++ String.intercalate "," (printMembers members) ++ "\x7d"

/-- The items of a list as JSON. -/
def printItems : List Value → List String
  | [] => []
  | v :: rest => print v :: printItems rest

/-- The members of an object as JSON. -/
def printMembers : List (String × Value) → List String
  | [] => []
  | (key, v) :: rest => (printString key ++ ":" ++ print v) :: printMembers rest

end

end OData.Json
