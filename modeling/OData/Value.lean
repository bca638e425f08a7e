import OData.Fault

/-!
# Dynamic values

What a caller may pass for an argument and what a payload may hold: nothing, a truth value, an
integer of any size, a double, a text, a list or an object. An object is the list of its members in
the order in which they were first set; every operation of this library keeps its keys distinct.
-/

namespace OData

/-- A dynamic value. -/
inductive Value where
  /-- The absent value. -/
  | null
  /-- A truth value. -/
  | bool (b : Bool)
  /-- An integer of any size. -/
  | int (n : Int)
  /-- A double. -/
  | float (x : Float)
  /-- A text. -/
  | text (s : String)
  /-- A list. -/
  | list (items : List Value)
  /-- An object: its members in order. -/
  | object (members : List (String × Value))
deriving Inhabited

/-- The members of an object, in order. -/
abbrev Members := List (String × Value)

namespace Value

/-- The name of a value's kind, as messages give it. -/
def kindName : Value → String
  | .null => "NoneType"
  | .bool _ => "bool"
  | .int _ => "int"
  | .float _ => "float"
  | .text _ => "str"
  | .list _ => "list"
  | .object _ => "dict"

/-- Whether a value counts as present: everything does but `null`, `false`, the zeros and the empty
text, list and object. -/
def truthy : Value → Bool
  | .null => false
  | .bool b => b
  | .int n => n != 0
  | .float x => !(x == 0.0)
  | .text s => s != ""
  | .list items => !items.isEmpty
  | .object members => !members.isEmpty

/-- The value if it counts as present, else the given one. -/
def orElse (v fallback : Value) : Value :=
  if v.truthy then v else fallback

/-- The text of a text value. -/
def text? : Value → Option String
  | .text s => some s
  | _ => none

/-- The members of an object. -/
def members? : Value → Option Members
  | .object members => some members
  | _ => none

/-- The member of an object with the given key. -/
def get? (key : String) : Value → Option Value
  | .object members => members.lookup key
  | _ => none

/-- What walking through a value meets: the items of a list, the characters of a text, the keys of
an object. Nothing else can be walked through. -/
def elements : Value → Except Fault (List Value)
  | .list items => .ok items
  | .text s => .ok (s.toList.map fun c => .text (String.singleton c))
  | .object members => .ok (members.map fun m => .text m.1)
  | _ => .error .wrongKind

/-- The two values of a pair: anything that can be walked through and meets exactly two. -/
def pair (v : Value) : Except Fault (Value × Value) := do
  match ← v.elements with
  | [a, b] => .ok (a, b)
  | _ => .error .badContent

end Value

/-- Sets a member: an existing key keeps its place, a new one comes last. -/
def Members.set (key : String) (v : Value) : Members → Members
  | [] => [(key, v)]
  | m :: rest => if m.1 = key then (key, v) :: rest else m :: Members.set key v rest

/-- Sets members one after another. -/
def Members.merge (ms additions : Members) : Members :=
  additions.foldl (fun acc m => Members.set m.1 m.2 acc) ms

end OData
