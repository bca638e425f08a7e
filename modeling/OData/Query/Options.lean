import OData.Text.Blank
import OData.Value.Number

/-!
# Query options

The selected fields, the expanded properties, the order terms and the two counts. Each is replaced
as a whole. Lists are kept as given and looked at only when the options are written: a blank field
is left out, and an item of the wrong kind makes every writing fail until the list is replaced.
-/

namespace OData

/-- The options of a query other than its filter. -/
structure Options where
  /-- The selected fields. -/
  selected : List Value
  /-- The expanded properties. -/
  expanded : List Value
  /-- The order terms. -/
  orderTerms : List Value
  /-- The greatest number of records wanted. -/
  top : Option Int
  /-- The number of records to leave out at the front. -/
  skip : Option Int

namespace Options

/-- No option is set. -/
def empty : Options := ⟨[], [], [], none, none⟩

/-! ## Setting -/

/-- Replaces the selected fields. -/
def select (o : Options) (fields : Value) : Except Fault Options := do
  let items ← fields.elements
  .ok { o with selected := items }

/-- Replaces the expanded properties. -/
def expand (o : Options) (fields : Value) : Except Fault Options := do
  let items ← fields.elements
  .ok { o with expanded := items }

/-- Replaces the order terms. -/
def orderBy (o : Options) (terms : Value) : Except Fault Options := do
  let items ← terms.elements
  .ok { o with orderTerms := items }

/-- Replaces the greatest number of records. -/
def setTop (o : Options) (count : Value) : Except Fault Options := do
  let n ← count.toInt
  .ok { o with top := some n }

/-- Replaces the number of records left out. -/
def setSkip (o : Options) (count : Value) : Except Fault Options := do
  let n ← count.toInt
  .ok { o with skip := some n }

/-! ## Writing -/

/-- One field of a list: nothing for an absent or blank one, else its text without blanks at the
ends. Only texts can be trimmed. -/
def csvField (v : Value) : Except Fault (Option String) :=
  if v.truthy then
    match v with
    | .text s =>
      let t := Text.strip s
      .ok (if t = "" then none else some t)
    | _ => .error .noSuchOperation
  else .ok none

/-- The fields of a list that are not blank. -/
def csvFields : List Value → Except Fault (List String)
  | [] => .ok []
  | v :: rest => do
    let field ← csvField v
    let fields ← csvFields rest
    .ok (field.toList ++ fields)

/-- Fields joined by commas. -/
def csv (items : List Value) : Except Fault String := do
  let fields ← csvFields items
  .ok (String.intercalate "," fields)

/-- A field and, if one is present, a direction after a space. -/
def directed (field direction : Value) : Except Fault String :=
  if direction.truthy then do
    let field ← field.showPlain
    let direction ← direction.showPlain
    .ok (field ++ " " ++ direction)
  else field.showPlain

/-- An order term: a text, an object with a field and perhaps a direction, or a sequence of the
two, of which only the first two items count. -/
def orderTerm : Value → Except Fault String
  | .text s => .ok (Text.strip s)
  | .object members =>
    match members.lookup "field" with
    | some field => directed field ((members.lookup "direction").getD .null)
    | none => .error .missingMember
  | v => do
    match ← v.elements with
    | [] => .error .badContent
    | [field] => directed field .null
    | field :: direction :: _ => directed field direction

/-- The order terms as texts. -/
def orderTexts : List Value → Except Fault (List String)
  | [] => .ok []
  | v :: rest => do
    let term ← orderTerm v
    let terms ← orderTexts rest
    .ok (term :: terms)

/-- The option with the given name, if its text is not empty. -/
def listed (name text : String) : List (String × String) :=
  if text = "" then [] else [(name, text)]

/-- The option with the given name, if its count is set. -/
def counted (name : String) : Option Int → Except Fault (List (String × String))
  | none => .ok []
  | some n => do
    let digits ← showInteger n
    .ok [(name, digits)]

/-- The options that are present, as names and values in the order in which they are written. -/
def pairs (o : Options) : Except Fault (List (String × String)) := do
  let select ← csv o.selected
  let expand ← csv o.expanded
  let terms ← orderTexts o.orderTerms
  let orderby ← csv (terms.map .text)
  let top ← counted "$top" o.top
  let skip ← counted "$skip" o.skip
  .ok (listed "$select" select ++ listed "$expand" expand ++ listed "$orderby" orderby ++ top ++
    skip)

/-- One option as it is written. -/
def assignment (p : String × String) : String :=
  p.1 ++ "=" ++ p.2

/-- The options as they are written, joined by ampersands. -/
def render (o : Options) : Except Fault String := do
  let ps ← o.pairs
  .ok (String.intercalate "&" (ps.map assignment))

end Options

end OData
