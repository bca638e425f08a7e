import OData.Filter.Part

/-!
# The filter under construction

A filter is the expression built so far and two facts about how the next part is joined to it: the
relation of the group that was opened last, which stays in effect after the group is closed, and
whether a group was opened just now, in which case the next part follows its parenthesis directly.
Three operations change it: appending a part, opening a group and closing one.
-/

namespace OData

/-- A filter under construction. -/
structure Filter where
  /-- The expression so far. -/
  expression : String
  /-- The relation of the group opened last; `null` before the first. -/
  relation : Value
  /-- Whether the last operation opened a group. -/
  opened : Bool

namespace Filter

/-- The filter before any operation. -/
def empty : Filter := ⟨"", .null, false⟩

/-- The word that joins the next part: the tracked relation, or the given one before any group. -/
def joinWord (f : Filter) (logical : Value) : Value :=
  match f.relation with
  | .null => logical
  | r => r

/-- Whether the next part follows without a join. -/
def atStart (f : Filter) : Bool :=
  f.expression == "" || f.opened

/-- Appends a part, joined to what is there. -/
def append (f : Filter) (part : Part) : Except Fault Filter :=
  if f.atStart then .ok { f with expression := f.expression ++ part.text, opened := false }
  else do
    let word ← (f.joinWord part.logical).showPlain
    .ok { f with expression := f.expression ++ " " ++ word ++ " " ++ part.text, opened := false }

/-- Opens a group. It is attached by `AND` whatever its relation is. -/
def openGroup (f : Filter) (relation : Value) : Filter where
  expression := f.expression ++ (if f.atStart then "(" else " AND (")
  relation := relation
  opened := true

/-- Closes a group. -/
def closeGroup (f : Filter) : Filter :=
  { f with expression := f.expression ++ ")", opened := false }

/-- The form of a filter in messages. -/
def display (f : Filter) : String :=
  "ODataFilterBuilder(" ++ Text.quoted f.expression ++ ")"

end Filter

end OData
