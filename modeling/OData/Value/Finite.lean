import OData.Decimal.Binary
import OData.Value

/-!
# Values without infinities

The form in which a value goes out where only finite numbers are allowed: every double that is
infinite or no number gives way to `null`, at any depth. `isFinite` tells the values without such
doubles.
-/

namespace OData.Value

mutual

/-- A value with `null` in place of every double that is not finite. -/
def finite : Value → Value
  | .float x =>
    match Decimal.Double.ofFloat x with
    | .finite _ => .float x
    | _ => .null
  | .list items => .list (finiteItems items)
  | .object members => .object (finiteMembers members)
  | v => v

/-- The items of a list, each in its finite form. -/
def finiteItems : List Value → List Value
  | [] => []
  | v :: rest => v.finite :: finiteItems rest

/-- The members of an object, each in its finite form. -/
def finiteMembers : List (String × Value) → List (String × Value)
  | [] => []
  | (key, v) :: rest => (key, v.finite) :: finiteMembers rest

end

mutual

/-- Whether no double in a value, at any depth, is infinite or no number. -/
def isFinite : Value → Bool
  | .float x =>
    match Decimal.Double.ofFloat x with
    | .finite _ => true
    | _ => false
  | .list items => areFiniteItems items
  | .object members => areFiniteMembers members
  | _ => true

/-- Whether all items of a list are finite. -/
def areFiniteItems : List Value → Bool
  | [] => true
  | v :: rest => v.isFinite && areFiniteItems rest

/-- Whether all members of an object are finite. -/
def areFiniteMembers : List (String × Value) → Bool
  | [] => true
  | (_, v) :: rest => v.isFinite && areFiniteMembers rest

end

end OData.Value
