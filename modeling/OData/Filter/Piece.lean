import OData.Filter.Literal

/-!
# Pieces of a filter

What is written into a filter is bare text (names, operators, punctuation) with literals between.
The two are kept apart until the text is written, so that it stays known which characters of a
filter come from a value.
-/

namespace OData

/-- A piece of a filter. -/
inductive Piece where
  /-- Text that stands as it is. -/
  | bare (s : String)
  /-- A value, which stands as its literal. -/
  | literal (v : Value)

namespace Piece

/-- The text of a piece. -/
def text : Piece → String
  | .bare s => s
  | .literal v => v.literal

/-- The text of pieces, one after another. -/
def join (pieces : List Piece) : String :=
  String.join (pieces.map text)

@[simp] theorem join_nil : join [] = "" :=
  String.join_nil

@[simp] theorem join_cons (p : Piece) (pieces : List Piece) :
    join (p :: pieces) = p.text ++ join pieces :=
  String.join_cons

@[simp] theorem join_append (ps qs : List Piece) : join (ps ++ qs) = join ps ++ join qs := by
  simp [join]

@[simp] theorem text_bare (s : String) : (bare s).text = s := rfl

@[simp] theorem text_literal (v : Value) : (literal v).text = v.literal := rfl

/-- Runs of pieces with the same text between any two of them. -/
def between (separator : String) (runs : List (List Piece)) : List Piece :=
  List.intercalate [.bare separator] runs

end Piece

namespace Value

/-- A showable value as a piece. -/
def piece (v : Value) : Except Fault Piece := do
  let _ ← v.showLiteral
  .ok (.literal v)

/-- Values as pieces, if all of them are showable. -/
def pieces : List Value → Except Fault (List Piece)
  | [] => .ok []
  | v :: rest => do
    let part ← v.piece
    let parts ← pieces rest
    .ok (part :: parts)

end Value

end OData
