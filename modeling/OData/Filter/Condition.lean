import OData.Filter.Piece

/-!
# Conditions

A condition compares a field with a value. It is given as such, or as an object whose members name
the three parts, each of which may be missing. A call takes its field as a `Subject`: a value, or a
list among whose items conditions may stand.
-/

namespace OData

/-- A comparison of a field with a value. -/
structure Condition where
  /-- The name or path of the field. -/
  field : Value
  /-- The comparison. -/
  operator : Value
  /-- The value to compare with. -/
  value : Value

namespace Condition

/-- The condition that an object describes: a missing field or comparison is empty, a missing value
absent. -/
def ofMembers (members : Members) : Condition where
  field := (members.lookup "field").getD (.text "")
  operator := (members.lookup "operator").getD (.text "")
  value := (members.lookup "value").getD .null

/-- The condition that a value describes; only an object describes one. -/
def ofValue : Value → Except Fault Condition
  | .object members => .ok (ofMembers members)
  | _ => .error .noSuchOperation

/-- Field, operator and literal, with single spaces between them. -/
def comparison (field operator : String) (literal : Piece) : List Piece :=
  [.bare (field ++ " " ++ operator ++ " "), literal]

/-- The pieces of a condition. -/
def pieces (c : Condition) : Except Fault (List Piece) := do
  let field ← c.field.showPlain
  let operator ← c.operator.showPlain
  let literal ← c.value.piece
  .ok (comparison field operator literal)

/-- The text of a condition. -/
def render (c : Condition) : Except Fault String := do
  let pieces ← c.pieces
  .ok (Piece.join pieces)

/-- The form of a condition inside a list. -/
def showQuoted (c : Condition) : Except Fault String := do
  let field ← c.field.showQuoted
  let operator ← c.operator.showQuoted
  let value ← c.value.showQuoted
  .ok ("Condition(field=" ++ field ++ ", operator=" ++ operator ++ ", value=" ++ value ++ ")")

end Condition

/-- An item of a list of conditions. -/
inductive Item where
  /-- A condition. -/
  | condition (c : Condition)
  /-- Any other value. -/
  | value (v : Value)

namespace Item

/-- The condition that an item is or describes. -/
def toCondition : Item → Except Fault Condition
  | .condition c => .ok c
  | .value v => Condition.ofValue v

/-- The form of an item inside a list. -/
def showQuoted : Item → Except Fault String
  | .condition c => c.showQuoted
  | .value v => v.showQuoted

/-- The quoted forms of items. -/
def showQuotedAll : List Item → Except Fault (List String)
  | [] => .ok []
  | i :: rest => do
    let part ← i.showQuoted
    let parts ← showQuotedAll rest
    .ok (part :: parts)

/-- The pieces of the conditions that items are or describe. -/
def piecesAll : List Item → Except Fault (List (List Piece))
  | [] => .ok []
  | i :: rest => do
    let c ← i.toCondition
    let run ← c.pieces
    let runs ← piecesAll rest
    .ok (run :: runs)

end Item

/-- What a call is about: a value, or a list that may hold conditions. -/
inductive Subject where
  /-- A value. -/
  | value (v : Value)
  /-- A list of items. -/
  | items (xs : List Item)

namespace Subject

/-- The plain form of a subject. -/
def showPlain : Subject → Except Fault String
  | .value v => v.showPlain
  | .items xs => do
    let parts ← Item.showQuotedAll xs
    .ok ("[" ++ String.intercalate ", " parts ++ "]")

/-- The items that walking through a subject meets. -/
def elements : Subject → Except Fault (List Item)
  | .value v => do
    let vs ← v.elements
    .ok (vs.map .value)
  | .items xs => .ok xs

end Subject

end OData
