import OData.Value

/-!
# A check that values are the same

* **The check is right** (`eq_of_same`): `same` compares two values and can be computed. It never
  takes a double for the same as another value, not even as itself, so that it proves values equal
  and never unequal.
-/

namespace OData.Value

mutual

/-- Whether two values are seen to be the same. -/
def same : Value → Value → Bool
  | .null, .null => true
  | .bool a, .bool b => a == b
  | .int m, .int n => m == n
  | .text s, .text t => s == t
  | .list vs, .list ws => sameItems vs ws
  | .object ms, .object ns => sameMembers ms ns
  | _, _ => false

/-- Whether two lists are seen to have the same items. -/
def sameItems : List Value → List Value → Bool
  | [], [] => true
  | v :: vs, w :: ws => v.same w && sameItems vs ws
  | _, _ => false

/-- Whether two objects are seen to have the same members. -/
def sameMembers : List (String × Value) → List (String × Value) → Bool
  | [], [] => true
  | (k, v) :: ms, (l, w) :: ns => k == l && v.same w && sameMembers ms ns
  | _, _ => false

end

mutual

/-- Values that are seen to be the same are equal. -/
theorem eq_of_same : ∀ {v w : Value}, v.same w = true → v = w
  | .null, .null, _ => rfl
  | .bool _, .bool _, h => congrArg Value.bool (eq_of_beq h)
  | .int _, .int _, h => congrArg Value.int (eq_of_beq h)
  | .text _, .text _, h => congrArg Value.text (eq_of_beq h)
  | .list _, .list _, h => congrArg Value.list (eq_of_sameItems h)
  | .object _, .object _, h => congrArg Value.object (eq_of_sameMembers h)

/-- Lists that are seen to have the same items are equal. -/
theorem eq_of_sameItems : ∀ {vs ws : List Value}, sameItems vs ws = true → vs = ws
  | [], [], _ => rfl
  | _ :: _, _ :: _, h => by
    obtain ⟨hv, hvs⟩ := Bool.and_eq_true_iff.1 h
    rw [eq_of_same hv, eq_of_sameItems hvs]

/-- Objects that are seen to have the same members are equal. -/
theorem eq_of_sameMembers : ∀ {ms ns : List (String × Value)}, sameMembers ms ns = true → ms = ns
  | [], [], _ => rfl
  | (_, _) :: _, (_, _) :: _, h => by
    obtain ⟨hm, hms⟩ := Bool.and_eq_true_iff.1 h
    obtain ⟨hk, hv⟩ := Bool.and_eq_true_iff.1 hm
    rw [eq_of_beq hk, eq_of_same hv, eq_of_sameMembers hms]

end

end OData.Value
