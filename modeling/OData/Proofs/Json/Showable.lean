import OData.Json.Decoder
import OData.Proofs.Value.Showable

/-!
# Documents hold values that can be shown

The reader refuses an integer with too many digits, at any depth.

* **Readers** (`showsWithin`): whatever bounds their steps, the three readers give values that can
  be shown, by one induction.
* **Documents** (`showable_of_decodeText`, `showable_of_decodeBytes`): a value that a text or the
  bytes of a document spell can be shown.
-/

namespace OData.Json

/-- Whether what was read, if anything was, can be shown. -/
def Shows (r : Except Stop (Value × Cursor)) : Prop :=
  ∀ v next, r = .ok (v, next) → v.showable = true

namespace Shows

theorem error (cause : Stop) : Shows (.error cause) :=
  fun _ _ h => nomatch h

theorem ok {v : Value} (h : v.showable = true) (next : Cursor) : Shows (.ok (v, next)) := by
  rintro _ _ ⟨⟩
  exact h

/-- What is read after something else can be shown if it can whatever that was. -/
theorem bind {α : Type} {first : Except Stop (α × Cursor)}
    {others : α × Cursor → Except Stop (Value × Cursor)}
    (h : ∀ a next, first = .ok (a, next) → Shows (others (a, next))) :
    Shows (first >>= others) := by
  cases hfirst : first with
  | error cause => exact error cause
  | ok found => exact h found.1 found.2 hfirst

end Shows

/-! ## Numbers and words -/

theorem lt_of_mem_spanAscii {cs : List Char} : ∀ d ∈ (spanAscii cs).1, d < 10 := by
  induction cs with
  | nil => exact fun _ h => nomatch h
  | cons c rest ih =>
    rw [spanAscii]
    split
    · rename_i d hd
      exact List.forall_mem_cons.2 ⟨Text.lt_of_asciiDigitValue? hd, ih⟩
    · exact fun _ h => nomatch h

theorem lt_of_mem_wholeDigits {cs : List Char} : ∀ d ∈ (wholeDigits cs).1, d < 10 := by
  unfold wholeDigits
  split
  · simp
  · exact lt_of_mem_spanAscii

/-- A number can be shown, since an integer is read from few enough digits only. -/
theorem shows_readNumber (cur : Cursor) : Shows (readNumber cur) := by
  unfold readNumber
  have hdigits := @lt_of_mem_wholeDigits (minusSign cur.rest).2
  simp only
  split
  · exact Shows.error _
  · split
    · split
      · rename_i hlength
        refine Shows.ok ?_ _
        rw [Value.showable]
        split
        · rw [showableInteger_neg]
          exact showableInteger_ofDigits hdigits hlength
        · exact showableInteger_ofDigits hdigits hlength
      · exact Shows.error _
    · exact Shows.ok rfl _

/-- The values that are spelled as words can be shown. -/
theorem showable_of_mem_words {w : List Char × Value} (h : w ∈ words) : w.2.showable = true := by
  simp only [words, List.mem_cons, List.not_mem_nil, or_false] at h
  rcases h with rfl | rfl | rfl | rfl | rfl | rfl <;> rfl

theorem shows_readScalar (cur : Cursor) : Shows (readScalar cur) := by
  unfold readScalar
  split
  · rename_i w v hfound
    exact Shows.ok (showable_of_mem_words (List.mem_of_find?_eq_some hfound)) _
  · exact shows_readNumber cur

/-! ## Values -/

/-- Whether what is read within a bound on the steps can be shown, whatever room there is: values,
and objects and lists that begin with what can be shown. -/
structure ShowsWithin (fuel : Nat) : Prop where
  /-- Values. -/
  value : ∀ room cur, Shows (readValue fuel room cur)
  /-- Objects. -/
  members : ∀ room done cur, (Value.object done).showable = true →
    Shows (readMembers fuel room done cur)
  /-- Lists. -/
  items : ∀ room done cur, (∀ v ∈ done, v.showable = true) → Shows (readItems fuel room done cur)

variable {fuel : Nat}

theorem shows_readValue (h : ShowsWithin fuel) (room : Nat) (cur : Cursor) :
    Shows (readValue (fuel + 1) room cur) := by
  unfold readValue
  split
  · rintro v next hread
    obtain ⟨found, -, hfound⟩ := map_eq_ok_iff.1 hread
    cases hfound
    rfl
  · split
    · exact Shows.error _
    · simp only
      split
      · exact Shows.ok rfl _
      · exact h.members _ _ _ rfl
  · split
    · exact Shows.error _
    · simp only
      split
      · exact Shows.ok rfl _
      · exact h.items _ _ _ fun _ hv => nomatch hv
  · exact shows_readScalar cur

theorem shows_readMembers (h : ShowsWithin fuel) (room : Nat) {done : Members} (cur : Cursor)
    (hdone : (Value.object done).showable = true) :
    Shows (readMembers (fuel + 1) room done cur) := by
  unfold readMembers
  split
  · refine Shows.bind fun key afterKey _ => ?_
    simp only
    split
    · refine Shows.bind fun v afterValue hvalue => ?_
      have hset := Members.showable_set key hdone (h.value _ _ _ _ hvalue)
      simp only
      split
      · exact Shows.ok hset _
      · exact h.members _ _ _ hset
      · exact Shows.error _
    · exact Shows.error _
  · exact Shows.error _

theorem shows_readItems (h : ShowsWithin fuel) (room : Nat) {done : List Value} (cur : Cursor)
    (hdone : ∀ v ∈ done, v.showable = true) : Shows (readItems (fuel + 1) room done cur) := by
  unfold readItems
  refine Shows.bind fun v afterValue hvalue => ?_
  have hmore : ∀ w ∈ v :: done, w.showable = true :=
    List.forall_mem_cons.2 ⟨h.value _ _ _ _ hvalue, hdone⟩
  simp only
  split
  · refine Shows.ok (Value.showable_list_iff.2 fun w hw => ?_) _
    exact hmore w (List.mem_reverse.1 hw)
  · exact h.items _ _ _ hmore
  · exact Shows.error _

/-- Whatever bounds the steps, what is read can be shown. -/
theorem showsWithin (fuel : Nat) : ShowsWithin fuel := by
  induction fuel with
  | zero =>
    refine ⟨fun room cur => ?_, fun room done cur _ => ?_, fun room done cur _ => ?_⟩
    · exact Shows.error _
    · exact Shows.error _
    · exact Shows.error _
  | succ fuel ih =>
    exact ⟨shows_readValue ih, fun room done cur => shows_readMembers ih room cur,
      fun room done cur => shows_readItems ih room cur⟩

/-- **Documents hold values that can be shown.** -/
theorem showable_of_decodeChars {cs : List Char} {v : Value} (h : decodeChars cs = .ok v) :
    v.showable = true := by
  unfold decodeChars readDocument at h
  cases hread : readValue (2 * cs.length + 2) nestingLimit (Cursor.skipSpace ⟨cs, 0⟩) with
  | error cause =>
    rw [hread] at h
    cases cause <;> cases h
  | ok found =>
    rw [hread] at h
    simp only [bind, Except.bind] at h
    split at h
    · rename_i w hw
      split at hw
      · cases hw
        cases h
        exact (showsWithin _).value _ _ _ _ hread
      · cases hw
    · cases h
    · cases h
    · cases h

/-- What the text of a document spells can be shown. -/
theorem showable_of_decodeText {s : String} {v : Value} (h : decodeText s = .ok v) :
    v.showable = true := by
  unfold decodeText at h
  split at h
  · cases h
  · exact showable_of_decodeChars h

/-- What the bytes of a document spell can be shown. -/
theorem showable_of_decodeBytes {bytes : List UInt8} {v : Value} (h : decodeBytes bytes = .ok v) :
    v.showable = true := by
  unfold decodeBytes at h
  split at h
  · exact showable_of_decodeChars h
  · cases h

end OData.Json
