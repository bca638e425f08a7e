import OData.Proofs.Filter.Balance

/-!
# Objects in a filter

An object is written into a filter in its quoted form, in which the texts stand between quotes of
one kind or the other.

* **Texts** (`opens_quoted`): a text between single quotes is read as a literal, whatever it holds.
* **Values** (`selfContained_of_inSingleQuotes`): a value is self-contained if every text in it that
  holds a single quote holds a double one too, as all of its texts then stand between single quotes.
-/

namespace OData

namespace Text

/-! ## Quoted texts -/

/-- Digits in a base up to sixteen make a word. -/
theorem isWord_toDigits_of_le {b : Nat} (hb : 1 < b) (hle : b ≤ 16) (n : Nat) :
    IsWord (Nat.toDigits b n) := by
  have hdigit : ∀ d < 16, isWordChar (Nat.digitChar d) = true := by decide
  induction n using Nat.strongRecOn with
  | _ n ih =>
    by_cases hn : n < b
    · rw [Nat.toDigits_of_lt_base hn]
      exact IsWord.cons (hdigit n (by omega)) fun _ hc => nomatch hc
    · have hpos : 0 < n / b := Nat.div_pos (Nat.le_of_not_lt hn) (by omega)
      have hmod : n % b < b := Nat.mod_lt n (by omega)
      have hdiv : n / b < n := Nat.div_lt_self (by omega) hb
      rw [← Nat.div_add_mod n b, ← Nat.toDigits_append_toDigits hb hpos hmod,
        Nat.toDigits_of_lt_base hmod]
      exact (ih _ hdiv).append (IsWord.cons (hdigit _ (by omega)) fun _ hc => nomatch hc)

/-- Hexadecimal digits make a word. -/
theorem isWord_hex (width n : Nat) : IsWord (hex width n) :=
  (isWord_replicate_zero _).append (isWord_toDigits_of_le (by decide) (by decide) n)

/-- Whether a text stands between single quotes when it is quoted. -/
def inSingleQuotes (s : String) : Bool :=
  !s.toList.contains '\x27' || s.toList.contains '\x22'

theorem quoteOf_of_inSingleQuotes {s : String} (h : inSingleQuotes s = true) :
    quoteOf s.toList = '\x27' := by
  unfold quoteOf
  unfold inSingleQuotes at h
  cases hsingle : s.toList.contains '\x27' <;> cases hdouble : s.toList.contains '\x22' <;>
    simp_all

end Text

open OData.Filter

namespace Filter

/-- The characters of a word stay inside a literal. -/
theorem foldl_word (before : List Token) (read : List Char) {cs : List Char}
    (h : Text.IsWord cs) :
    cs.foldl Scanner.step ⟨before, .inside read⟩ = ⟨before, .inside (read ++ cs)⟩ := by
  induction cs generalizing read with
  | nil => simp
  | cons c cs ih =>
    have hc : Text.isWordChar c = true := h c List.mem_cons_self
    have hslash : c ≠ '\x5c' := fun heq => absurd (heq ▸ hc) (by decide)
    have hquote : c ≠ '\x27' := fun heq => absurd (heq ▸ hc) (by decide)
    have hstep : Scanner.step ⟨before, .inside read⟩ c = ⟨before, .inside (read ++ [c])⟩ := by
      simp [Scanner.step, hslash, hquote]
    rw [List.foldl_cons, hstep, ih _ fun d hd => h d (List.mem_cons_of_mem c hd),
      List.append_assoc]
    rfl

/-- A backslash and the character after it stay inside a literal. -/
theorem foldl_escape (before : List Token) (read : List Char) (c : Char) {cs : List Char}
    (h : Text.IsWord cs) :
    ('\x5c' :: c :: cs).foldl Scanner.step ⟨before, .inside read⟩ =
      ⟨before, .inside (read ++ '\x5c' :: c :: cs)⟩ := by
  have hstep : Scanner.step (Scanner.step ⟨before, .inside read⟩ '\x5c') c =
      ⟨before, .inside (read ++ ['\x5c', c])⟩ := rfl
  rw [List.foldl_cons, List.foldl_cons, hstep, foldl_word _ _ h, List.append_assoc]
  rfl

/-- One character between single quotes stays inside a literal. -/
theorem foldl_quotedChar (before : List Token) (read : List Char) (c : Char) :
    (Text.quotedChar '\x27' c).foldl Scanner.step ⟨before, .inside read⟩ =
      ⟨before, .inside (read ++ Text.quotedChar '\x27' c)⟩ := by
  have hnil : Text.IsWord [] := fun _ hc => nomatch hc
  unfold Text.quotedChar
  split
  · exact foldl_escape before read c hnil
  · rename_i hplain
    obtain ⟨hquote, hslash⟩ := not_or.1 hplain
    split
    · exact foldl_escape before read 'n' hnil
    · split
      · exact foldl_escape before read 'r' hnil
      · split
        · exact foldl_escape before read 't' hnil
        · split
          · simp [Scanner.step, hquote, hslash]
          · unfold Text.numbered
            dsimp only
            split
            · exact foldl_escape before read 'x' (Text.isWord_hex 2 _)
            · split
              · exact foldl_escape before read 'u' (Text.isWord_hex 4 _)
              · exact foldl_escape before read 'U' (Text.isWord_hex 8 _)

/-- The characters between single quotes stay inside a literal. -/
theorem foldl_flatMap_quotedChar (before : List Token) (read cs : List Char) :
    (cs.flatMap (Text.quotedChar '\x27')).foldl Scanner.step ⟨before, .inside read⟩ =
      ⟨before, .inside (read ++ cs.flatMap (Text.quotedChar '\x27'))⟩ := by
  induction cs generalizing read with
  | nil => simp
  | cons c cs ih =>
    rw [List.flatMap_cons, List.foldl_append, foldl_quotedChar, ih, List.append_assoc]

/-- **A text between single quotes is read as one literal.** -/
theorem opens_quoted {s : String} (h : Text.inSingleQuotes s = true) :
    Opens (Text.quoted s) 0 := by
  have hreads : Reads (Text.quoted s)
      [.literal (s.toList.flatMap (Text.quotedChar '\x27'))] := by
    intro before
    have hopen : Scanner.step ⟨before, .outside⟩ '\x27' = ⟨before, .inside []⟩ := rfl
    have htext : (Text.quoted s).toList =
        '\x27' :: (s.toList.flatMap (Text.quotedChar '\x27') ++ ['\x27']) := by
      simp [Text.quoted, Text.quoteOf_of_inSingleQuotes h]
    rw [htext, List.foldl_cons, hopen, List.foldl_append, foldl_flatMap_quotedChar]
    simp [Scanner.step]
  exact hreads.opens

/-- Texts that close what they open do so joined by commas. -/
theorem opens_intercalate {parts : List String} (h : ∀ s ∈ parts, Opens s 0) :
    Opens (String.intercalate ", " parts) 0 := by
  induction parts with
  | nil => exact opens_empty
  | cons s rest ih =>
    rw [List.forall_mem_cons] at h
    cases rest with
    | nil => simpa using h.1
    | cons t rest =>
      rw [String.intercalate_cons_cons]
      have hcomma : Opens ", " 0 := by decide
      exact (h.1.append hcomma).append (ih h.2)

end Filter

namespace Value

/-! ## Quoted values -/

mutual

/-- Whether all texts in a value stand between single quotes when it is quoted. -/
def inSingleQuotes : Value → Bool
  | .text s => Text.inSingleQuotes s
  | .list items => itemsInSingleQuotes items
  | .object members => membersInSingleQuotes members
  | _ => true

/-- Whether all texts in the items do. -/
def itemsInSingleQuotes : List Value → Bool
  | [] => true
  | v :: rest => v.inSingleQuotes && itemsInSingleQuotes rest

/-- Whether all keys and all texts in the members do. -/
def membersInSingleQuotes : List (String × Value) → Bool
  | [] => true
  | (key, v) :: rest =>
    Text.inSingleQuotes key && v.inSingleQuotes && membersInSingleQuotes rest

end

/-- A word opens nothing. -/
theorem opens_word {s : String} (h : Text.IsWord s.toList) : Opens s 0 := by
  have hopens := opens_bare fun hmem : '\x27' ∈ s.toList => absurd (h _ hmem) (by decide)
  rwa [Text.depth_of_isWord h] at hopens

mutual

/-- The quoted form of a value with its texts between single quotes closes what it opens. -/
theorem opens_quoted : ∀ {v : Value}, v.inSingleQuotes = true → Opens v.quoted 0
  | .null, _ => by decide
  | .bool b, _ => by cases b <;> decide
  | .int n, _ => opens_word (isWord_toString n)
  | .float x, _ => opens_word (Decimal.isWord_render x)
  | .text s, h => Filter.opens_quoted h
  | .list items, h => by
    have hopen : Opens "[" 0 := by decide
    have hclose : Opens "]" 0 := by decide
    exact (hopen.append (opens_intercalate (opens_quotedItems h))).append hclose
  | .object members, h => by
    have hopen : Opens "\x7b" 0 := by decide
    have hclose : Opens "\x7d" 0 := by decide
    exact (hopen.append (opens_intercalate (opens_quotedMembers h))).append hclose

/-- So do the quoted forms of items. -/
theorem opens_quotedItems : ∀ {items : List Value}, itemsInSingleQuotes items = true →
    ∀ s ∈ quotedItems items, Opens s 0
  | [], _ => fun _ hs => nomatch hs
  | v :: rest, h => by
    obtain ⟨hv, hrest⟩ := Bool.and_eq_true_iff.1 h
    exact List.forall_mem_cons.2 ⟨opens_quoted hv, opens_quotedItems hrest⟩

/-- So do the quoted forms of members. -/
theorem opens_quotedMembers : ∀ {members : List (String × Value)},
    membersInSingleQuotes members = true → ∀ s ∈ quotedMembers members, Opens s 0
  | [], _ => fun _ hs => nomatch hs
  | (key, v) :: rest, h => by
    obtain ⟨hfirst, hrest⟩ := Bool.and_eq_true_iff.1 h
    obtain ⟨hkey, hv⟩ := Bool.and_eq_true_iff.1 hfirst
    have hcolon : Opens ": " 0 := by decide
    have hmember := ((Filter.opens_quoted hkey).append hcolon).append (opens_quoted hv)
    exact List.forall_mem_cons.2 ⟨hmember, opens_quotedMembers hrest⟩

end

/-- **Values between single quotes are self-contained.** -/
theorem selfContained_of_inSingleQuotes {v : Value} (h : v.inSingleQuotes = true) :
    v.SelfContained := by
  cases v with
  | object members => exact opens_quoted h
  | _ => exact selfContained_of_isDatum rfl

end Value

end OData
