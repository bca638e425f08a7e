/-!
# Why a call refuses its arguments

Every operation on a dynamic value either answers or gives one of the causes below. They say what
was wrong with the argument and not where it was noticed, so that two operations which refuse for
the same reason give the same cause.
-/

namespace OData

/-- Why a call refuses its arguments. -/
inductive Fault where
  /-- The value is of the wrong kind: a number where a sequence is needed, a list as a key. -/
  | wrongKind
  /-- The value has no such operation: trimming a number, reading a member of a text. -/
  | noSuchOperation
  /-- The kind is right and the content is not: a text that spells no number, a pair of three. -/
  | badContent
  /-- A member that has to be present is absent. -/
  | missingMember
  /-- A number outside the range of the target: an infinite value read as an integer. -/
  | outOfRange
  /-- A document is nested deeper than there is room for. -/
  | tooDeep
deriving DecidableEq, Repr

/-- Two steps one after the other give a result exactly if both do. -/
theorem bind_eq_ok_iff {ε α β : Type} {x : Except ε α} {f : α → Except ε β} {b : β} :
    (x >>= f) = .ok b ↔ ∃ a, x = .ok a ∧ f a = .ok b := by
  constructor
  · intro h
    cases x with
    | error e => cases h
    | ok a => exact ⟨a, rfl, h⟩
  · rintro ⟨a, rfl, h⟩
    exact h

/-- A result is changed exactly if there is one. -/
theorem map_eq_ok_iff {ε α β : Type} {x : Except ε α} {f : α → β} {b : β} :
    x.map f = .ok b ↔ ∃ a, x = .ok a ∧ f a = b := by
  cases x with
  | error e => simp [Except.map]
  | ok a => simp [Except.map]

/-- Forgetting the cause of a refusal keeps a result. -/
theorem toOption_eq_some_iff {ε α : Type} {x : Except ε α} {a : α} :
    x.toOption = some a ↔ x = .ok a := by
  cases x with
  | error e => simp [Except.toOption]
  | ok a => simp [Except.toOption]

end OData
