import OData.Response

/-!
# Texts that are nested too deep

There is room for so many lists and objects inside each other, and a text that needs more is given
up.

* **Brackets that open without room are not read** (`readValue_of_brackets`): with room for `room`
  lists and one more bracket in front, whatever follows, the reader gives up. So does the reading of
  a whole text (`decodeText_of_brackets`).
* **Bytes** (`Response.document_utf8_of_brackets`): a response in UTF-8 whose body begins with more
  opening brackets than may be nested has no document, whatever its other bytes are.
-/

namespace OData.Json

/-- What begins with no white space is left as it is. -/
theorem skipFrom_of_bracket (index : Nat) (rest : List Char) :
    skipFrom index ('[' :: rest) = ⟨'[' :: rest, index⟩ := by
  rw [skipFrom, if_neg (by decide)]

/-- One bracket more than there is room for: the reader gives up, whatever follows. -/
theorem readValue_of_brackets (room fuel index : Nat) (tail : List Char) :
    readValue (2 * room + 1 + fuel) room ⟨List.replicate (room + 1) '[' ++ tail, index⟩ =
      .error (.tooDeep false) := by
  induction room generalizing fuel index with
  | zero =>
    rw [show 2 * 0 + 1 + fuel = fuel + 1 by omega, readValue]
    simp
  | succ room ih =>
    -- a list and its first item take one step each
    rw [show 2 * (room + 1) + 1 + fuel = 2 * room + 1 + fuel + 1 + 1 by omega, readValue]
    simp only [List.replicate_succ, List.cons_append, Cursor.skipSpace, skipFrom_of_bracket]
    rw [readItems]
    have hitem := ih fuel (index + 1)
    simp only [List.replicate_succ, List.cons_append] at hitem
    rw [hitem]
    rfl

/-- A text is not read if it begins with more opening brackets than may be nested. -/
theorem decodeText_of_brackets {depth : Nat} (h : nestingLimit < depth) (tail : List Char) :
    decodeText (String.ofList (List.replicate depth '[' ++ tail)) = .error (.tooDeep false) := by
  obtain ⟨more, rfl⟩ : ∃ more, depth = nestingLimit + 1 + more := Nat.exists_eq_add_of_le h
  have hsplit : List.replicate (nestingLimit + 1 + more) '[' ++ tail =
      List.replicate (nestingLimit + 1) '[' ++ (List.replicate more '[' ++ tail) := by
    rw [← List.append_assoc, List.replicate_append_replicate]
  rw [hsplit]
  generalize List.replicate more '[' ++ tail = tail
  have hread : readDocument (List.replicate (nestingLimit + 1) '[' ++ tail) =
      .error (.tooDeep false) := by
    have hfuel : 2 * (List.replicate (nestingLimit + 1) '[' ++ tail).length + 2 =
        2 * nestingLimit + 1 + (2 * tail.length + 3) := by
      rw [List.length_append, List.length_replicate]
      omega
    unfold readDocument
    rw [hfuel, Cursor.skipSpace, List.replicate_succ, List.cons_append, skipFrom_of_bracket,
      ← List.cons_append, ← List.replicate_succ, readValue_of_brackets]
    rfl
  unfold decodeText
  rw [String.toList_ofList]
  -- the text begins with a bracket, so with no byte order mark
  split
  · rename_i rest hmark
    cases hmark
  · rw [decodeChars, hread]

end OData.Json

namespace OData.Response

/-- An opening bracket is a byte of its own. -/
theorem lossyFrom_of_brackets (depth : Nat) (bytes : List UInt8) :
    Encoding.Utf8.lossyFrom 0 (List.replicate depth 0x5B ++ bytes) =
      List.replicate depth '[' ++ Encoding.Utf8.lossyFrom 0 bytes := by
  induction depth with
  | zero => rfl
  | succ depth ih =>
    rw [List.replicate_succ, List.cons_append, List.replicate_succ, List.cons_append, ← ih]
    rfl

/-- **A response in UTF-8 that opens too many brackets has no document**, whatever its other bytes
are, and this is not taken for a flaw of its text. -/
theorem document_utf8_of_brackets {depth : Nat} (h : Json.nestingLimit < depth) (status : Int)
    (bytes : List UInt8) (headers : Headers) :
    (utf8 status (List.replicate depth 0x5B ++ bytes) headers).document = .error .tooDeep := by
  show Unreadable.ofText _ = _
  unfold Unreadable.ofText
  rw [Encoding.Utf8.lossy, lossyFrom_of_brackets, Json.decodeText_of_brackets h]

end OData.Response
