import OData.Value

/-!
# What is wrong with a request

A request is checked as a whole, and every part that is wrong is reported: where it is, what is
wrong with it and the value that shows it. `Checked` is the result of a check. Its applicative
structure runs all checks and collects what they report, in order, so that a check of several parts
succeeds exactly if each of them does.
-/

namespace OData.Gateway

/-- What is wrong with a part of a request. -/
inductive Flaw where
  /-- It is absent. -/
  | missing
  /-- It is no JSON document. -/
  | malformed
  /-- It is no text. -/
  | notText
  /-- It is no list. -/
  | notList
  /-- It is no object with free keys. -/
  | notDictionary
  /-- It is no object with fixed keys. -/
  | notRecord
  /-- It is none of the words that are allowed. -/
  | notAllowed
  /-- It is nothing that an integer is read from. -/
  | notInteger
  /-- It is a text that spells no integer. -/
  | notNumeral
  /-- It is a number with a fraction. -/
  | fractional
  /-- It is infinite or no number. -/
  | notFinite
  /-- It is a number or numeral beyond what is read. -/
  | tooLarge
  /-- It is below the least allowed integer. -/
  | tooSmall
deriving DecidableEq, Repr

/-- The word that reports a flaw. -/
def Flaw.code : Flaw → String
  | .missing => "missing"
  | .malformed => "json_invalid"
  | .notText => "string_type"
  | .notList => "list_type"
  | .notDictionary => "dict_type"
  | .notRecord => "model_attributes_type"
  | .notAllowed => "literal_error"
  | .notInteger => "int_type"
  | .notNumeral => "int_parsing"
  | .fractional => "int_from_float"
  | .notFinite => "finite_number"
  | .tooLarge => "int_parsing_size"
  | .tooSmall => "greater_than_equal"

/-- A step from a part of a request to one inside it. -/
inductive Step where
  /-- To the member with a name. -/
  | member (name : String)
  /-- To the item at an index, or to the character there. -/
  | index (n : Nat)
deriving DecidableEq, Repr

/-- A flaw, where it is and what is quoted to show it. -/
structure Issue where
  /-- The steps from the request to the part. -/
  place : List Step
  /-- What is wrong with the part. -/
  flaw : Flaw
  /-- What is quoted: the part, or what a missing part is missing from. -/
  quoted : Value

/-- The same issue seen from one step further out. -/
def Issue.under (step : Step) (i : Issue) : Issue :=
  { i with place := step :: i.place }

/-- The result of a check: what was read, or everything that is wrong. -/
inductive Checked (α : Type) where
  /-- Nothing is wrong. -/
  | ok (a : α)
  /-- Something is wrong. -/
  | flawed (issues : List Issue)

namespace Checked

variable {α β : Type}

/-- Applies a function to what was read. -/
def map (f : α → β) : Checked α → Checked β
  | .ok a => .ok (f a)
  | .flawed issues => .flawed issues

/-- Runs two checks and applies what the first read to what the second read. -/
def both : Checked (α → β) → Checked α → Checked β
  | .ok f, .ok a => .ok (f a)
  | .ok _, .flawed issues => .flawed issues
  | .flawed issues, .ok _ => .flawed issues
  | .flawed first, .flawed second => .flawed (first ++ second)

/-- A check of two parts succeeds exactly if both of them do. -/
theorem both_eq_ok_iff {f : Checked (α → β)} {x : Checked α} {b : β} :
    both f x = .ok b ↔ ∃ g a, f = .ok g ∧ x = .ok a ∧ g a = b := by
  cases f <;> cases x <;> simp [both]

instance : Applicative Checked where
  pure := .ok
  map := map
  seq f x := both f (x ())

/-- A check that reports one flaw in the part it looks at and quotes a value. -/
def fail (flaw : Flaw) (quoted : Value) : Checked α :=
  .flawed [⟨[], flaw, quoted⟩]

/-- The same check seen from one step further out. -/
def under (step : Step) : Checked α → Checked α
  | .ok a => .ok a
  | .flawed issues => .flawed (issues.map (Issue.under step))

/-- The issues that a check reports. -/
def issues : Checked α → List Issue
  | .ok _ => []
  | .flawed found => found

end Checked

end OData.Gateway
