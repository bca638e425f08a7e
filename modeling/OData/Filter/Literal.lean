import OData.Value.Text

/-!
# Literals

The form of a value inside a filter. A text stands between single quotes, with a backslash before
every backslash and quote and with NUL written as backslash and zero; a list is the text of its
items joined by commas; the absent value and the truth values are words. Numbers and objects keep
their plain form.
-/

namespace OData

namespace Text

/-- One character inside a literal. -/
def slashed (c : Char) : List Char :=
  if c = '\x5c' ∨ c = '\x27' ∨ c = '\x22' then ['\x5c', c]
  else if c = '\x00' then ['\x5c', '0']
  else [c]

/-- The inside of a literal. -/
def addSlashes (s : String) : String :=
  String.ofList (s.toList.flatMap slashed)

@[simp] theorem toList_addSlashes (s : String) :
    (addSlashes s).toList = s.toList.flatMap slashed :=
  String.toList_ofList

/-- A text as a literal. -/
def literal (s : String) : String :=
  "'" ++ addSlashes s ++ "'"

end Text

namespace Value

/-- A value as a literal. -/
def literal : Value → String
  | .text s => Text.literal s
  | .list items => Text.literal (String.intercalate "," (items.map plain))
  | .null => "null"
  | .bool b => if b then "true" else "false"
  | v => v.plain

/-- The literal of a showable value. -/
def showLiteral (v : Value) : Except Fault String :=
  v.shownAs v.literal

@[simp] theorem showLiteral_text (s : String) :
    (Value.text s).showLiteral = .ok (Text.literal s) := rfl

end Value

end OData
