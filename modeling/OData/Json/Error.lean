import OData.Encoding.Undecodable

/-!
# Why a text is no JSON document

A reader that stops says what it needed and at which character; line and column are computed from
that index. Three causes have no place in the text: an integer of too many digits, lists or objects
that are nested too deep, and bytes that encode no text at all.
-/

namespace OData.Json

/-- What a reader needed where it stopped. -/
inductive Need where
  /-- A value. -/
  | value
  /-- A key in double quotes. -/
  | key
  /-- The colon after a key. -/
  | colon
  /-- A comma or the closing bracket. -/
  | comma
  /-- The end of a string; the index is that of its opening quote. -/
  | closingQuote
  /-- A string without raw control characters. -/
  | plainCharacter
  /-- A known escape. -/
  | escape
  /-- Four hexadecimal digits. -/
  | unicodeEscape
  /-- Nothing but blanks after the document. -/
  | documentEnd
  /-- A text without a byte order mark. -/
  | noMark
deriving DecidableEq, Repr

/-- The wording of a need. -/
def Need.message : Need → String
  | .value => "Expecting value"
  | .key => "Expecting property name enclosed in double quotes"
  | .colon => "Expecting ':' delimiter"
  | .comma => "Expecting ',' delimiter"
  | .closingQuote => "Unterminated string starting at"
  | .plainCharacter => "Invalid control character at"
  | .escape => "Invalid \\escape"
  | .unicodeEscape => "Invalid \\uXXXX escape"
  | .documentEnd => "Extra data"
  | .noMark => "Unexpected UTF-8 BOM (decode using utf-8-sig)"

/-- Why a text is no document. -/
inductive Error where
  /-- The reader stopped at an index of the text. -/
  | unmet (need : Need) (text : List Char) (index : Nat)
  /-- An integer has too many digits. -/
  | longInteger (digits : Nat)
  /-- A list or an object is nested deeper than there is room for. Unlike the other causes this is
  no flaw of the text, and callers tell the two apart. -/
  | tooDeep (isObject : Bool)
  /-- The bytes encode no text. -/
  | undecodable (flaw : Encoding.Undecodable)
deriving DecidableEq, Repr

/-- The number of the line that holds the character at `index`, counted from one. -/
def lineAt (text : List Char) (index : Nat) : Nat :=
  (text.take index).count '\n' + 1

/-- The place of the character at `index` in its line, counted from one. -/
def columnAt (text : List Char) (index : Nat) : Nat :=
  ((text.take index).reverse.takeWhile (· != '\n')).length + 1

/-- The wording of an error. -/
def Error.message : Error → String
  | .unmet need text index =>
    need.message ++ ": line " ++ toString (lineAt text index) ++
      " column " ++ toString (columnAt text index) ++ " (char " ++ toString index ++ ")"
  | .longInteger digits =>
    "Exceeds the limit (4300 digits) for integer string conversion: value has " ++
      toString digits ++ " digits; use sys.set_int_max_str_digits() to increase the limit"
  | .tooDeep isObject =>
    "maximum recursion depth exceeded while decoding a JSON " ++
      (if isObject then "object" else "array") ++ " from a unicode string"
  | .undecodable flaw => flaw.message

end OData.Json
