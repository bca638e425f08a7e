import OData.Text.Trim

/-!
# White space

The blanks are the characters of Unicode's bidirectional types B, S and WS and of the category
space separator. U+200B and U+FEFF are not among them. All of them but the four information
separators may stand around a numeral.
-/

namespace OData.Text

/-- Whether a character is white space. -/
def isBlank (c : Char) : Bool :=
  let n := c.toNat
  (0x9 ≤ n && n ≤ 0xD) || (0x1C ≤ n && n ≤ 0x20) || n == 0x85 || n == 0xA0 || n == 0x1680 ||
    (0x2000 ≤ n && n ≤ 0x200A) || n == 0x2028 || n == 0x2029 || n == 0x202F || n == 0x205F ||
    n == 0x3000

/-- A list of characters without the blanks at its ends. -/
def stripChars (cs : List Char) : List Char :=
  dropFinal isBlank (cs.dropWhile isBlank)

/-- A text without the blanks at its ends. -/
def strip (s : String) : String :=
  String.ofList (stripChars s.toList)

@[simp] theorem toList_strip (s : String) : (strip s).toList = stripChars s.toList :=
  String.toList_ofList

/-- Whether a character may stand around a numeral: a blank that is no information separator. -/
def isPadding (c : Char) : Bool :=
  isBlank c && !(0x1C ≤ c.toNat && c.toNat ≤ 0x1F)

/-- The characters of a numeral without what may stand around it. -/
def unpadded (cs : List Char) : List Char :=
  dropFinal isPadding (cs.dropWhile isPadding)

end OData.Text
