import OData.Filter.Call
import OData.Gateway.Check

/-!
# Filter clauses

A clause is a filter call as a request spells it: the name of the operation and one member for each
argument that any operation takes. All members are checked, whichever operation is named; those that
the operation does not take are ignored when the clause is turned into a call.
-/

namespace OData.Gateway

/-- The operation that a clause names. -/
inductive Operation where
  /-- A comparison. -/
  | compare
  /-- A parenthesized list of comparisons. -/
  | group
  /-- A test for membership. -/
  | oneOf
  /-- A text function whose field comes first. -/
  | textFunction (function : Filter.TextFunction)
  /-- The text function whose value comes first. -/
  | substringOf
  /-- A comparison of a length. -/
  | length
  /-- A comparison of a distance. -/
  | distance
  /-- Opens a group. -/
  | openGroup
  /-- Closes a group. -/
  | closeGroup
deriving DecidableEq, Repr

/-- The words for the operations. -/
def Operation.words : List (String × Operation) :=
  [("where", .compare), ("where_group", .group), ("where_in", .oneOf),
   ("contains", .textFunction .contains), ("startswith", .textFunction .startsWith),
   ("endswith", .textFunction .endsWith), ("substringof", .substringOf), ("length", .length),
   ("distance", .distance), ("start_group", .openGroup), ("end_group", .closeGroup)]

/-- A comparison in a list of comparisons. -/
structure ConditionForm where
  /-- The field. -/
  field : String
  /-- The comparison. -/
  operator : String
  /-- The value to compare with. -/
  value : Value

namespace ConditionForm

/-- Checks the members of a comparison. -/
def ofMembers (members : Members) : Checked ConditionForm :=
  ConditionForm.mk
    <$> required members "field" Check.text
    <*> required members "operator" Check.text
    <*> defaulted members "value" .null Check.anything

/-- The condition that is meant. -/
def condition (c : ConditionForm) : Condition :=
  ⟨.text c.field, .text c.operator, c.value⟩

end ConditionForm

/-- A filter clause. -/
structure Clause where
  /-- The operation. -/
  operation : Operation
  /-- The field. -/
  field : Option String
  /-- The comparison. -/
  operator : Option String
  /-- The value to compare with. -/
  value : Value
  /-- The values to be a member of. -/
  values : Option (List Value)
  /-- The comparisons of a group. -/
  conditions : Option (List ConditionForm)
  /-- The word that joins the clause, or the comparisons of a group. -/
  logical : String
  /-- The relation of an opened group. -/
  relation : String
  /-- The comparison of a length. -/
  comparison : String
  /-- The length to compare with. -/
  length : Option Int
  /-- The point to measure a distance from. -/
  point : Option Members

namespace Clause

/-- Checks the members of a clause. -/
def ofMembers (members : Members) : Checked Clause :=
  Clause.mk
    <$> required members "op" (Check.word Operation.words)
    <*> defaulted members "field" none (Check.optional Check.text)
    <*> defaulted members "operator" none (Check.optional Check.text)
    <*> defaulted members "value" .null Check.anything
    <*> defaulted members "values" none (Check.optional (Check.list Check.anything))
    <*> defaulted members "conditions" none
      (Check.optional (Check.list (Check.record ConditionForm.ofMembers)))
    <*> defaulted members "logical" "and" Check.text
    <*> defaulted members "relation" "AND" Check.text
    <*> defaulted members "comparison" "eq" Check.text
    <*> defaulted members "length" none (Check.optional Check.integer)
    <*> defaulted members "point" none (Check.optional Check.dictionary)

/-- The field of a clause as the subject of a call. -/
def subject (c : Clause) : Subject :=
  .value (.text (c.field.getD ""))

/-- The comparison of a distance: as given, unless it is absent or empty. -/
def distanceOperator (c : Clause) : String :=
  match c.operator with
  | none | some "" => "le"
  | some word => word

/-- The filter call that a clause stands for. -/
def call (c : Clause) : Filter.Call :=
  match c.operation with
  | .compare =>
    .compare c.subject ((c.operator.map Value.text).getD .null) c.value (.text c.logical)
  | .group =>
    .group (.items ((c.conditions.getD []).map fun f => .condition f.condition))
      (.text c.logical) (.text "and")
  | .oneOf => .oneOf c.subject (.list (c.values.getD [])) (.text c.logical)
  | .textFunction function => .textFunction function c.subject c.value (.text c.logical)
  | .substringOf => .substringOf c.value c.subject (.text c.logical)
  | .length =>
    .length c.subject (.int (c.length.getD 0)) (.text c.comparison) (.text c.logical)
  | .distance =>
    .distance c.subject (.text c.distanceOperator) (.object (c.point.getD [])) (.text c.logical)
  | .openGroup => .openGroup (.text c.relation)
  | .closeGroup => .closeGroup

end Clause

end OData.Gateway
