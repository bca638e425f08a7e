import Mathlib.Algebra.Order.Ring.Int
import Mathlib.Data.List.Induction
import OData.Text.Digit
import OData.Value.Text

/-!
# Values that can be shown

A value can be shown if no integer in it has more digits than are shown.

* **Integers** (`showableInteger_iff`, `showableInteger_ofDigits`): by their size, and by the digits
  that spell them.
* **Lists and objects** (`showable_list_iff`, `showable_object_iff`, `showable_of_lookup`): one
  lemma for each way to take a value apart or put one together.
-/

namespace OData

/-! ## Integers -/

/-- An integer can be shown exactly if it is below the least power of ten that cannot. -/
theorem showableInteger_iff (n : Int) : showableInteger n = true ↔ n.natAbs < 10 ^ digitLimit := by
  unfold showableInteger
  rw [decide_eq_true_iff]
  exact Nat.length_toDigits_le_iff (by decide) (by decide)

theorem showableInteger_neg (n : Int) : showableInteger (-n) = showableInteger n := by
  unfold showableInteger
  rw [Int.natAbs_neg]

/-- The number that digits spell is below the power of ten with as many zeros. -/
theorem Text.ofDigits_lt {ds : List Nat} (h : ∀ d ∈ ds, d < 10) :
    ofDigits ds < 10 ^ ds.length := by
  induction ds using List.reverseRecOn with
  | nil => exact Nat.one_pos
  | append_singleton ds d ih =>
    have hfront : ofDigits ds < 10 ^ ds.length := ih fun e he => h e (List.mem_append_left _ he)
    have hlast : d < 10 := h d (List.mem_append_right _ List.mem_cons_self)
    have hstep : ofDigits (ds ++ [d]) = ofDigits ds * 10 + d := by
      unfold ofDigits
      rw [List.foldl_append]
      rfl
    rw [hstep, List.length_append, List.length_singleton, Nat.pow_succ]
    omega

/-- The value of an ASCII digit is below ten. -/
theorem Text.lt_of_asciiDigitValue? {c : Char} {d : Nat} (h : asciiDigitValue? c = some d) :
    d < 10 := by
  unfold asciiDigitValue? at h
  split at h
  · rename_i hc
    obtain rfl := Option.some.inj h
    have hnine : c.toNat ≤ '9'.toNat := Char.le_def.1 hc.2
    have hzero : '0'.toNat = 48 := rfl
    have hlast : '9'.toNat = 57 := rfl
    omega
  · cases h

/-- Few enough digits spell an integer that can be shown. -/
theorem showableInteger_ofDigits {ds : List Nat} (h : ∀ d ∈ ds, d < 10)
    (hlength : ds.length ≤ digitLimit) : showableInteger (Text.ofDigits ds) = true := by
  rw [showableInteger_iff, Int.natAbs_natCast]
  exact Nat.lt_of_lt_of_le (Text.ofDigits_lt h) (Nat.pow_le_pow_right (by decide) hlength)

namespace Value

/-! ## Lists and objects -/

/-- A list can be shown exactly if its items can. -/
theorem showable_list_iff {items : List Value} :
    (list items).showable = true ↔ ∀ v ∈ items, v.showable = true := by
  rw [showable]
  induction items with
  | nil => simp [showableItems]
  | cons v rest ih => rw [showableItems, Bool.and_eq_true, ih, List.forall_mem_cons]

/-- An object can be shown exactly if the values of its members can. -/
theorem showable_object_iff {members : Members} :
    (object members).showable = true ↔ ∀ m ∈ members, m.2.showable = true := by
  rw [showable]
  induction members with
  | nil => simp [showableMembers]
  | cons m rest ih => rw [showableMembers, Bool.and_eq_true, ih, List.forall_mem_cons]

/-- What is looked up in an object that can be shown can be shown. -/
theorem showable_of_lookup {members : Members} (h : (object members).showable = true) (key : String)
    {v : Value} (hv : members.lookup key = some v) : v.showable = true := by
  rw [List.lookup_eq_some_iff] at hv
  obtain ⟨before, after, rfl, -⟩ := hv
  exact showable_object_iff.1 h (key, v) (by simp)

end Value

/-- An object that can be shown still can after a member is set to a value that can. -/
theorem Members.showable_set {members : Members} {v : Value} (key : String)
    (h : (Value.object members).showable = true) (hv : v.showable = true) :
    (Value.object (members.set key v)).showable = true := by
  rw [Value.showable_object_iff] at h ⊢
  induction members with
  | nil => simpa [set] using hv
  | cons m rest ih =>
    rw [List.forall_mem_cons] at h
    rw [set]
    split
    · exact List.forall_mem_cons.2 ⟨hv, h.2⟩
    · exact List.forall_mem_cons.2 ⟨h.1, ih h.2⟩

end OData
