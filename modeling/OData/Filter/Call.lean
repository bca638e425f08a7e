import OData.Filter.Expression

/-!
# Filter calls as data

A sequence of calls is a list, and running it is a fold. A call that is refused leaves the filter as
it was, and the calls after it go on from there.
-/

namespace OData.Filter

/-- The text functions whose field comes first. -/
inductive TextFunction where
  /-- The field contains the value. -/
  | contains
  /-- The field starts with the value. -/
  | startsWith
  /-- The field ends with the value. -/
  | endsWith
deriving DecidableEq, Repr

/-- The name of a text function. -/
def TextFunction.name : TextFunction → String
  | .contains => "contains"
  | .startsWith => "startswith"
  | .endsWith => "endswith"

/-- A call on a filter. -/
inductive Call where
  /-- A comparison of a field, or a list of comparisons. -/
  | compare (field : Subject) (operator value logical : Value)
  /-- A comparison of a field. -/
  | condition (field : Subject) (operator value logical : Value)
  /-- A parenthesized list of comparisons. -/
  | group (conditions : Subject) (logical join : Value)
  /-- A test for membership. -/
  | oneOf (field : Subject) (values logical : Value)
  /-- A text function. -/
  | textFunction (function : TextFunction) (field : Subject) (value logical : Value)
  /-- The text function whose value comes first. -/
  | substringOf (part : Value) (field : Subject) (logical : Value)
  /-- A comparison of a length. -/
  | length (field : Subject) (length comparison logical : Value)
  /-- A comparison of a distance. -/
  | distance (field : Subject) (operator point logical : Value)
  /-- Opens a group. -/
  | openGroup (relation : Value)
  /-- Closes a group. -/
  | closeGroup

/-- What a call does to a filter. -/
inductive Effect where
  /-- It appends a part. -/
  | append (part : Part)
  /-- It does nothing. -/
  | nothing
  /-- It opens a group. -/
  | openGroup (relation : Value)
  /-- It closes a group. -/
  | closeGroup

/-- What a call does, or why it is refused. This depends on its arguments and not on the filter. A
distance from a point that names none of its parts does nothing. -/
def Call.effect : Call → Except Fault Effect
  | .compare field operator value logical =>
    (Part.compare field operator value logical).map .append
  | .condition field operator value logical =>
    (Part.condition field operator value logical).map .append
  | .group conditions logical join => (Part.group conditions logical join).map .append
  | .oneOf field values logical => (Part.oneOf field values logical).map .append
  | .textFunction function field value logical =>
    (Part.textFunction function.name field value logical).map .append
  | .substringOf part field logical => (Part.substringOf part field logical).map .append
  | .length field count comparison logical =>
    (Part.length field count comparison logical).map .append
  | .distance field operator point logical => do
    if ← Part.namesPart point then
      match point with
      | .object members => (Part.distance field operator members logical).map .append
      | _ => .error .noSuchOperation
    else .ok .nothing
  | .openGroup relation => .ok (.openGroup relation)
  | .closeGroup => .ok .closeGroup

/-- The filter after what a call does, or why it cannot be done: a joining word that cannot be
shown. -/
def apply (f : Filter) : Effect → Except Fault Filter
  | .append part => f.append part
  | .nothing => .ok f
  | .openGroup relation => .ok (f.openGroup relation)
  | .closeGroup => .ok f.closeGroup

/-- The filter after a call, or why it was refused. -/
def run (f : Filter) (call : Call) : Except Fault Filter := do
  let effect ← call.effect
  f.apply effect

/-- The filter after a sequence of calls, where a refused call changes nothing. -/
def runAll (f : Filter) (calls : List Call) : Filter :=
  calls.foldl (fun f call => (f.run call).toOption.getD f) f

end OData.Filter
