import OData.Filter.Expression
import OData.Query.Options

/-!
# The address of a query

A resource, a filter and options make one address: the resource without trailing slashes, a question
mark and the options if there are any, and the filter last. Nothing is percent-encoded.
-/

namespace OData

/-- A query under construction. -/
structure Query where
  /-- The address of the resource, absolute or relative. -/
  base : Value
  /-- The filter. -/
  filter : Filter
  /-- The options. -/
  options : Options

namespace Query

/-- A query for a resource, with nothing else set. -/
def ofBase (base : Value) : Query := ⟨base, .empty, .empty⟩

/-- An address from its three parts. -/
def assemble (resource options filter : String) : String :=
  let withOptions := if options = "" then resource else resource ++ "?" ++ options
  if filter = "" then withOptions
  else withOptions ++ (if options = "" then "?" else "&") ++ "$filter=" ++ filter

/-- The address of a query. -/
def address (q : Query) : Except Fault String :=
  match q.base with
  | .text base => do
    let options ← q.options.render
    .ok (assemble (Text.trimEndSlashes base) options q.filter.expression)
  | _ => .error .noSuchOperation

end Query

end OData
