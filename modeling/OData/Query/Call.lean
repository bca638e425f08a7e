import OData.Filter.Call
import OData.Query.Address

/-!
# Query calls as data

The calls that set options, those that go to the filter, and `addFilter`, which chooses the filter
call by the name of a function.
-/

namespace OData

/-- A call that sets an option. -/
inductive Options.Call where
  /-- Selects fields. -/
  | select (fields : Value)
  /-- Expands properties. -/
  | expand (fields : Value)
  /-- Orders the records. -/
  | orderBy (terms : Value)
  /-- Limits the number of records. -/
  | top (count : Value)
  /-- Leaves out records at the front. -/
  | skip (count : Value)

/-- The options after a call, or why it was refused. -/
def Options.run (o : Options) : Options.Call → Except Fault Options
  | .select fields => o.select fields
  | .expand fields => o.expand fields
  | .orderBy terms => o.orderBy terms
  | .top count => o.setTop count
  | .skip count => o.setSkip count

namespace Query

/-- A call on a query. -/
inductive Call where
  /-- Sets an option. -/
  | option (call : Options.Call)
  /-- A call on the filter. -/
  | filter (call : Filter.Call)
  /-- Adds a comparison or the named function of the field. -/
  | addFilter (field : Subject) (operator value logical function : Value)

/-- The filter call that `addFilter` makes. A name that is none of the six functions, or none at
all, makes a comparison. -/
def filterCall (field : Subject) (operator value logical function : Value) : Filter.Call :=
  match function with
  | .text "contains" => .textFunction .contains field value logical
  | .text "startswith" => .textFunction .startsWith field value logical
  | .text "endswith" => .textFunction .endsWith field value logical
  | .text "substringof" => .substringOf value field logical
  | .text "length" => .length field value (operator.orElse (.text "eq")) logical
  | .text "in" => .oneOf field value logical
  | _ => .compare field operator value logical

/-- The query after a call on its filter. -/
def runFilter (q : Query) (call : Filter.Call) : Except Fault Query := do
  let f ← q.filter.run call
  .ok { q with filter := f }

/-- The query after a call, or why it was refused. -/
def run (q : Query) : Call → Except Fault Query
  | .option call => do
    let o ← q.options.run call
    .ok { q with options := o }
  | .filter call => q.runFilter call
  | .addFilter field operator value logical function =>
    q.runFilter (filterCall field operator value logical function)

/-- The query after a sequence of calls that stops at the first refused one. -/
def runAll (q : Query) : List Call → Except Fault Query
  | [] => .ok q
  | call :: rest => do
    let q ← q.run call
    q.runAll rest

end Query

end OData
