import OData.Proofs.Value.Word

/-!
# Reading literals back

A scanner walks over a filter once. Outside literals a single quote opens one; inside, a backslash
is read together with the character after it, and the first other single quote closes the literal.
What it leaves is a list of tokens: characters outside literals, and literals as they were written.

* **Literals** (`reads_literal`): the literal of any text is read as one token.
* **Their insides** (`decode_flatMap_slashed`): the inside of a literal decodes to the text.
* **Piece by piece** (`Reads.append`): what is read one after another is read together.
-/

namespace OData.Filter

/-- What a scanner reads. -/
inductive Token where
  /-- A character outside literals. -/
  | bare (c : Char)
  /-- A literal, as it was written between its quotes. -/
  | literal (inside : List Char)
deriving DecidableEq

/-- The character that a token is, outside literals. -/
def Token.char? : Token → Option Char
  | .bare c => some c
  | .literal _ => none

/-- The literal that a token is, as it was written. -/
def Token.literal? : Token → Option (List Char)
  | .bare _ => none
  | .literal inside => some inside

/-- Where a scanner stands. -/
inductive Mode where
  /-- Outside literals. -/
  | outside
  /-- In a literal of which some characters were read. -/
  | inside (read : List Char)
  /-- In a literal, behind a backslash. -/
  | escaped (read : List Char)
deriving DecidableEq

/-- A scanner: the tokens that it has read, and where it stands. -/
structure Scanner where
  /-- The tokens so far. -/
  tokens : List Token
  /-- Where it stands. -/
  mode : Mode
deriving DecidableEq

namespace Scanner

/-- Reads one character. -/
def step (sc : Scanner) (c : Char) : Scanner :=
  match sc.mode with
  | .outside =>
    if c = '\x27' then ⟨sc.tokens, .inside []⟩ else ⟨sc.tokens ++ [.bare c], .outside⟩
  | .inside read =>
    if c = '\x5c' then ⟨sc.tokens, .escaped read⟩
    else if c = '\x27' then ⟨sc.tokens ++ [.literal read], .outside⟩
    else ⟨sc.tokens, .inside (read ++ [c])⟩
  | .escaped read => ⟨sc.tokens, .inside (read ++ ['\x5c', c])⟩

/-- The literals that were read, as they were written. -/
def literals (sc : Scanner) : List (List Char) :=
  sc.tokens.filterMap Token.literal?

/-- The text outside literals, with a gap for each of them. -/
def outside (sc : Scanner) : List (Option Char) :=
  sc.tokens.map Token.char?

end Scanner

/-- Scans a text from outside literals. -/
def scan (s : String) : Scanner :=
  s.toList.foldl Scanner.step ⟨[], .outside⟩

/-- The text that the inside of a literal stands for. -/
def decode : List Char → List Char
  | '\x5c' :: '0' :: rest => '\x00' :: decode rest
  | '\x5c' :: c :: rest => c :: decode rest
  | c :: rest => c :: decode rest
  | [] => []

/-! ## Reading a text from outside to outside -/

/-- From outside literals, a text is read as the given tokens, and ends outside. -/
def Reads (s : String) (tokens : List Token) : Prop :=
  ∀ before, s.toList.foldl Scanner.step ⟨before, .outside⟩ = ⟨before ++ tokens, .outside⟩

theorem reads_empty : Reads "" [] := by
  intro before
  simp

/-- Texts that end outside are read one after the other. -/
theorem Reads.append {s t : String} {ss ts : List Token} (hs : Reads s ss) (ht : Reads t ts) :
    Reads (s ++ t) (ss ++ ts) := by
  intro before
  rw [String.toList_append, List.foldl_append, hs, ht, List.append_assoc]

/-- A text that is read from outside to outside is scanned so. -/
theorem Reads.scan_eq {s : String} {ts : List Token} (h : Reads s ts) :
    scan s = ⟨ts, .outside⟩ := by
  unfold scan
  rw [h, List.nil_append]

/-- A text without quotes is read character by character. -/
theorem reads_bare {s : String} (h : '\x27' ∉ s.toList) : Reads s (s.toList.map .bare) := by
  intro before
  generalize s.toList = cs at h ⊢
  induction cs generalizing before with
  | nil => simp
  | cons c cs ih =>
    have hc : c ≠ '\x27' := fun heq => h (heq ▸ List.mem_cons_self)
    have hcs : '\x27' ∉ cs := fun hmem => h (List.mem_cons_of_mem c hmem)
    have hstep : Scanner.step ⟨before, .outside⟩ c = ⟨before ++ [.bare c], .outside⟩ := by
      simp [Scanner.step, hc]
    rw [List.foldl_cons, hstep, ih _ hcs]
    simp

/-! ## Reading a literal -/

/-- One character inside a literal stays inside. -/
theorem foldl_slashed (before : List Token) (read : List Char) (c : Char) :
    (Text.slashed c).foldl Scanner.step ⟨before, .inside read⟩ =
      ⟨before, .inside (read ++ Text.slashed c)⟩ := by
  unfold Text.slashed
  split
  · simp [Scanner.step]
  · rename_i hplain
    obtain ⟨hslash, hquote, -⟩ : c ≠ '\x5c' ∧ c ≠ '\x27' ∧ c ≠ '\x22' := by
      simpa only [not_or] using hplain
    split
    · simp [Scanner.step]
    · simp [Scanner.step, hslash, hquote]

/-- The inside of a literal stays inside. -/
theorem foldl_flatMap_slashed (before : List Token) (read cs : List Char) :
    (cs.flatMap Text.slashed).foldl Scanner.step ⟨before, .inside read⟩ =
      ⟨before, .inside (read ++ cs.flatMap Text.slashed)⟩ := by
  induction cs generalizing read with
  | nil => simp
  | cons c cs ih =>
    rw [List.flatMap_cons, List.foldl_append, foldl_slashed, ih, List.append_assoc]

/-- **The literal of a text is read as one token**, whatever the text holds. -/
theorem reads_literal (s : String) :
    Reads (Text.literal s) [.literal (s.toList.flatMap Text.slashed)] := by
  intro before
  have hopen : Scanner.step ⟨before, .outside⟩ '\x27' = ⟨before, .inside []⟩ := rfl
  have htext : (Text.literal s).toList = '\x27' :: (s.toList.flatMap Text.slashed ++ ['\x27']) := by
    simp [Text.literal]
  rw [htext, List.foldl_cons, hopen, List.foldl_append, foldl_flatMap_slashed]
  simp [Scanner.step]

/-- One character inside a literal decodes to itself. -/
theorem decode_slashed_append (c : Char) (rest : List Char) :
    decode (Text.slashed c ++ rest) = c :: decode rest := by
  unfold Text.slashed
  split
  · rename_i hspecial
    rcases hspecial with rfl | rfl | rfl <;> simp [decode]
  · split
    · rename_i hnul
      subst hnul
      simp [decode]
    · rename_i hplain _
      have hslash : c ≠ '\x5c' := fun heq => hplain (Or.inl heq)
      rw [List.singleton_append, decode]
      · intro _ heq; exact absurd heq hslash
      · intro _ _ heq; exact absurd heq hslash

/-- **The inside of a literal decodes to the text** that was written. -/
theorem decode_flatMap_slashed (cs : List Char) : decode (cs.flatMap Text.slashed) = cs := by
  induction cs with
  | nil => rfl
  | cons c cs ih => rw [List.flatMap_cons, decode_slashed_append, ih]

end OData.Filter
