import OData.Filter.Condition
import OData.Text.Trim
import OData.Value.Number

/-!
# Parts of a filter

A condition of any kind becomes one part of the filter: the pieces that are written, which are never
the empty text, and the word that joins the part to what is there unless a group was opened before.
A part is made from the arguments of a call alone, or the call is refused.
-/

namespace OData

/-- A part of a filter. -/
structure Part where
  /-- What is written. -/
  pieces : List Piece
  /-- The word that joins the part where no group was opened before. -/
  logical : Value
  /-- Something is written. -/
  written : Piece.join pieces ≠ ""

namespace Part

/-- The text of a part. -/
def text (p : Part) : String :=
  Piece.join p.pieces

/-! ## Conditions -/

/-- A comparison of a field. -/
def condition (field : Subject) (operator value logical : Value) : Except Fault Part := do
  let field ← field.showPlain
  let operator ← operator.showPlain
  let literal ← value.piece
  .ok ⟨Condition.comparison field operator literal, logical, by simp [Condition.comparison]⟩

/-- A parenthesized list of comparisons, joined inside by `logical` and to what is there by
`join`. -/
def group (conditions : Subject) (logical join : Value) : Except Fault Part := do
  let items ← conditions.elements
  let runs ← Item.piecesAll items
  let word ← logical.showPlain
  .ok ⟨.bare "(" :: Piece.between (" " ++ word ++ " ") runs ++ [.bare ")"], join, by simp⟩

/-- Whether a word is one of the two that join conditions, in any letter case. -/
def isJoinWord (s : String) : Bool :=
  let w := Text.lower s
  w == "and" || w == "or"

/-- A comparison of a field given as a text, or else a list of comparisons. For a list, the operator
may name the word that joins it; then `logical` joins it to what is there, and otherwise `logical`
joins the list itself. -/
def compare (field : Subject) (operator value logical : Value) : Except Fault Part :=
  match field with
  | .value (.text name) =>
    condition (.value (.text name)) (operator.orElse (.text "")) value logical
  | _ =>
    match operator with
    | .null => group field logical (.text "and")
    | .text word =>
      if isJoinWord word then group field operator logical
      else group field logical (.text "and")
    | _ => .error .noSuchOperation

/-- A test for membership in a list of values. -/
def oneOf (field : Subject) (values logical : Value) : Except Fault Part := do
  let items ← values.elements
  let literals ← Value.pieces items
  let field ← field.showPlain
  .ok ⟨.bare (field ++ " in (") :: Piece.between ", " (literals.map ([·])) ++ [.bare ")"], logical,
    by simp⟩

/-! ## Functions -/

/-- A text function of a field and a value. -/
def textFunction (name : String) (field : Subject) (value logical : Value) :
    Except Fault Part := do
  let field ← field.showPlain
  let literal ← value.piece
  .ok ⟨[.bare (name ++ "(" ++ field ++ ", "), literal, .bare ")"], logical, by simp⟩

/-- The text function whose value comes before the field. -/
def substringOf (part : Value) (field : Subject) (logical : Value) : Except Fault Part := do
  let literal ← part.piece
  let field ← field.showPlain
  .ok ⟨[.bare "substringof(", literal, .bare (", " ++ field ++ ")")], logical, by simp⟩

/-- A comparison of a field's length with an integer. -/
def length (field : Subject) (length comparison logical : Value) : Except Fault Part := do
  let field ← field.showPlain
  let comparison ← comparison.showPlain
  let n ← length.toInt
  let digits ← showInteger n
  .ok ⟨[.bare ("length(" ++ field ++ ") " ++ comparison ++ " " ++ digits)], logical, by simp⟩

/-- The parts of a point that a distance is about. -/
def pointParts : List String := ["lat", "long", "radius"]

/-- Whether a point names one of its parts. An object names its keys, a list its items, a text
whatever occurs in it. -/
def namesPart (point : Value) : Except Fault Bool :=
  match point with
  | .object members => .ok (pointParts.any fun k => (members.lookup k).isSome)
  | .list items => .ok (pointParts.any fun k => items.any fun v => v.text? == some k)
  | .text s => .ok (pointParts.any fun k => Text.occursIn k s)
  | _ => .error .wrongKind

/-- A comparison of a distance from a point given as an object, in which a part may be missing. -/
def distance (field : Subject) (operator : Value) (point : Members) (logical : Value) :
    Except Fault Part := do
  let part (k : String) : Except Fault Piece := ((point.lookup k).getD .null).piece
  let latitude ← part "lat"
  let longitude ← part "long"
  let radius ← part "radius"
  let field ← field.showPlain
  let operator ← operator.showPlain
  .ok ⟨[.bare ("geo.distance(" ++ field ++ ", POINT("), longitude, .bare " ", latitude,
    .bare (")) " ++ operator ++ " "), radius], logical, by simp⟩

end Part

end OData
