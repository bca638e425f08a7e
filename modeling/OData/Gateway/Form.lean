import OData.Gateway.Clause
import OData.Query.Call

/-!
# Query forms

A form is a query as a request spells it. `Form.ofDocument` reads one from a document or reports
everything that is wrong with it; `Form.query` is the query that a form stands for, with its page
size held below a cap.
-/

namespace OData.Gateway

/-- A direction of order. -/
inductive Direction where
  /-- The least first. -/
  | ascending
  /-- The greatest first. -/
  | descending
deriving DecidableEq, Repr

/-- The word for a direction. -/
def Direction.word : Direction → String
  | .ascending => "asc"
  | .descending => "desc"

/-- The words for the directions. -/
def Direction.words : List (String × Direction) :=
  [("asc", .ascending), ("desc", .descending)]

/-- An order term. -/
structure OrderTerm where
  /-- The field. -/
  field : String
  /-- The direction. -/
  direction : Option Direction

namespace OrderTerm

/-- Checks the members of an order term. -/
def ofMembers (members : Members) : Checked OrderTerm :=
  OrderTerm.mk
    <$> required members "field" Check.text
    <*> defaulted members "direction" none (Check.optional (Check.word Direction.words))

/-- The order term as an argument of a query call. -/
def value (t : OrderTerm) : Value :=
  .list [.text t.field, (t.direction.map fun d => Value.text d.word).getD .null]

end OrderTerm

/-- A query form. -/
structure Form where
  /-- The resource. -/
  resource : String
  /-- The selected fields. -/
  select : Option (List String)
  /-- The expanded properties. -/
  expand : Option (List String)
  /-- The order terms. -/
  orderBy : Option (List OrderTerm)
  /-- The greatest number of records wanted. -/
  top : Option Nat
  /-- The number of records to leave out at the front. -/
  skip : Option Nat
  /-- The filter clauses. -/
  filters : List Clause
  /-- The type of the entities wanted. -/
  entityType : Option String
  /-- The greatest number of pages wanted, at least one. -/
  maxPages : Nat

/-- The resource of a form that names none. -/
def defaultResource : String := "Property"

namespace Form

/-- Checks the members of a form. -/
def ofMembers (members : Members) : Checked Form :=
  Form.mk
    <$> defaulted members "resource" defaultResource Check.text
    <*> defaulted members "select" none (Check.optional (Check.list Check.text))
    <*> defaulted members "expand" none (Check.optional (Check.list Check.text))
    <*> defaulted members "orderby" none
      (Check.optional (Check.list (Check.record OrderTerm.ofMembers)))
    <*> defaulted members "top" none (Check.optional (Check.integerFrom 0))
    <*> defaulted members "skip" none (Check.optional (Check.integerFrom 0))
    <*> defaulted members "filters" [] (Check.list (Check.record Clause.ofMembers))
    <*> defaulted members "entity_type" none (Check.optional Check.text)
    <*> defaulted members "max_pages" 1 (Check.integerFrom 1)

/-- Checks a document that has to be a form. -/
def ofDocument : Check Form :=
  Check.record ofMembers

/-! ## The query of a form -/

/-- The page size to ask for: the wanted one, but not more than a cap if there is one; without a
wanted one, the cap. -/
def cappedTop (top : Option Nat) (cap : Value) : Except Fault Value :=
  match top, cap with
  | none, cap => .ok cap
  | some n, .null => .ok (.int n)
  | some n, cap => cap.lesser n

/-- The call that sets a list of fields, unless there are none. -/
def listCall (call : Value → Options.Call) (items : List Value) : List Query.Call :=
  if items.isEmpty then [] else [.option (call (.list items))]

/-- The call that sets a count, unless there is none. -/
def countCall (call : Value → Options.Call) : Value → List Query.Call
  | .null => []
  | count => [.option (call count)]

/-- The calls that build the query of a form, with the given page size. -/
def calls (f : Form) (top : Value) : List Query.Call :=
  listCall .select ((f.select.getD []).map .text) ++
    listCall .expand ((f.expand.getD []).map .text) ++
    listCall .orderBy ((f.orderBy.getD []).map OrderTerm.value) ++
    countCall .top top ++
    countCall .skip ((f.skip.map fun n => Value.int n).getD .null) ++
    f.filters.map fun clause => .filter clause.call

/-- The query that a form stands for, with its page size capped. -/
def query (f : Form) (cap : Value) : Except Fault Query := do
  let top ← cappedTop f.top cap
  (Query.ofBase (.text f.resource)).runAll (f.calls top)

end Form

end OData.Gateway
