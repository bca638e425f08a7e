import OData.Decimal.Shortest
import OData.Text.Quoted
import OData.Value

/-!
# The text of a value

Two forms: `Value.plain` shows a text as it is, and `Value.quoted` shows it in quotes; the items of
lists and the members of objects are always in the quoted form. Both are total. Callers see them
through `Value.showPlain` and `Value.showQuoted`, which refuse a value that holds an integer of more
than 4300 digits anywhere; `Value.showable` says which values are shown.
-/

namespace OData

/-- The greatest number of digits that an integer may have when it is read or shown in base ten. -/
def digitLimit : Nat := 4300

/-- Whether an integer has few enough digits to be shown. -/
def showableInteger (n : Int) : Bool :=
  (Nat.toDigits 10 n.natAbs).length ≤ digitLimit

/-- An integer in base ten. -/
def showInteger (n : Int) : Except Fault String :=
  if showableInteger n then .ok (toString n) else .error .badContent

namespace Value

mutual

/-- Whether every integer in a value has few enough digits to be shown. -/
def showable : Value → Bool
  | .int n => showableInteger n
  | .list items => showableItems items
  | .object members => showableMembers members
  | _ => true

/-- Whether all items of a list are showable. -/
def showableItems : List Value → Bool
  | [] => true
  | v :: rest => v.showable && showableItems rest

/-- Whether the values of all members are showable. -/
def showableMembers : List (String × Value) → Bool
  | [] => true
  | (_, v) :: rest => v.showable && showableMembers rest

end

mutual

/-- The form of a value inside a list or an object. -/
def quoted : Value → String
  | .null => "None"
  | .bool b => if b then "True" else "False"
  | .int n => toString n
  | .float x => Decimal.render x
  | .text s => Text.quoted s
  | .list items => "[" ++ String.intercalate ", " (quotedItems items) ++ "]"
  | .object members => "\x7b" ++ String.intercalate ", " (quotedMembers members) ++ "\x7d"

/-- The quoted forms of the items of a list. -/
def quotedItems : List Value → List String
  | [] => []
  | v :: rest => v.quoted :: quotedItems rest

/-- The quoted forms of the members of an object: key, colon, value. -/
def quotedMembers : List (String × Value) → List String
  | [] => []
  | (key, v) :: rest => (Text.quoted key ++ ": " ++ v.quoted) :: quotedMembers rest

end

/-- The form of a value on its own: a text as it is, everything else in its quoted form. -/
def plain : Value → String
  | .text s => s
  | v => v.quoted

/-- The given form of a value, if the value is showable. -/
def shownAs (v : Value) (form : String) : Except Fault String :=
  if v.showable then .ok form else .error .badContent

/-- The quoted form of a showable value. -/
def showQuoted (v : Value) : Except Fault String :=
  v.shownAs v.quoted

/-- The plain form of a showable value. -/
def showPlain (v : Value) : Except Fault String :=
  v.shownAs v.plain

@[simp] theorem showPlain_text (s : String) : (Value.text s).showPlain = .ok s := rfl

end Value

end OData
