import OData.Decimal.Binary
import OData.Encoding.Detect
import OData.Json.Error
import OData.Text.Digit
import OData.Value.Text

/-!
# Reading JSON

The reader walks over the characters of a text and keeps the index of the next one. It takes the
standard's grammar with three additions: the words `NaN`, `Infinity` and `-Infinity` are numbers.
A number is an integer unless it has a fraction or an exponent; a key that occurs again replaces
the earlier value. Where the text departs from the grammar the reader stops at a fixed index.

Lists and objects may be nested up to a limit, beyond which the reader gives up whatever the text
is. A surrogate that is not one of a pair is read as U+FFFD, since no text here can hold it; a
reader whose texts can would keep it, and refuse to encode it later.
-/

namespace OData.Json

/-- Where a reader stands: the characters ahead and the index of the first of them. -/
structure Cursor where
  /-- The characters not yet read. -/
  rest : List Char
  /-- The index of the first of them. -/
  index : Nat

/-- Why a reader stopped. -/
inductive Stop where
  /-- Something was needed at an index. -/
  | unmet (need : Need) (index : Nat)
  /-- An integer has too many digits. -/
  | longInteger (digits : Nat)
  /-- A list or an object is nested too deep. -/
  | tooDeep (isObject : Bool)

/-- What a reader gives: a result and where it ended, or why it stopped. -/
abbrev Read (α : Type) := Except Stop (α × Cursor)

/-- Whether a character is white space between tokens. -/
def isSpace (c : Char) : Bool :=
  c == ' ' || c == '\t' || c == '\n' || c == '\r'

/-- The first place from an index on that holds no white space. -/
def skipFrom (index : Nat) : List Char → Cursor
  | [] => ⟨[], index⟩
  | c :: rest => if isSpace c then skipFrom (index + 1) rest else ⟨c :: rest, index⟩

/-- Moves over white space. -/
def Cursor.skipSpace (cur : Cursor) : Cursor :=
  skipFrom cur.index cur.rest

/-! ## Strings -/

/-- The number that four hexadecimal digits spell. -/
def unit? (a b c d : Char) : Option Nat :=
  match Text.hexDigitValue? a, Text.hexDigitValue? b, Text.hexDigitValue? c,
      Text.hexDigitValue? d with
  | some a, some b, some c, some d => some (((a * 16 + b) * 16 + c) * 16 + d)
  | _, _, _, _ => none

/-- The character that a letter after a backslash stands for. -/
def simpleEscape? (c : Char) : Option Char :=
  if c = '\x22' ∨ c = '\x5c' ∨ c = '/' then some c
  else if c = 'b' then some '\x08'
  else if c = 'f' then some '\x0c'
  else if c = 'n' then some '\n'
  else if c = 'r' then some '\r'
  else if c = 't' then some '\t'
  else none

/-- What an escape stands for, given the characters after its backslash: the character and how many
characters the escape has after the backslash. Otherwise what is needed and how far after the
backslash. An escape by number has to be followed by a character, if only by the closing quote; a
pair of surrogates is one character, and U+FFFD stands for a surrogate alone, which a text that can
hold one would keep. -/
def escapeOf : List Char → Except (Need × Nat) (Char × Nat)
  | 'u' :: h₁ :: h₂ :: h₃ :: h₄ :: next :: more =>
    match unit? h₁ h₂ h₃ h₄ with
    | none => .error (.unicodeEscape, 1)
    | some high =>
      match Encoding.isHighSurrogate high, next, more with
      | true, '\x5c', 'u' :: l₁ :: l₂ :: l₃ :: l₄ :: _ :: _ =>
        match unit? l₁ l₂ l₃ l₄ with
        | none => .error (.unicodeEscape, 7)
        | some low =>
          if Encoding.isLowSurrogate low then .ok (Encoding.joinSurrogates high low, 11)
          else .ok ('\uFFFD', 5)
      | _, _, _ => .ok (Encoding.charOfCode high, 5)
  | 'u' :: _ => .error (.unicodeEscape, 1)
  | c :: _ =>
    match simpleEscape? c with
    | some e => .ok (e, 1)
    | none => .error (.escape, 0)
  | [] => .error (.escape, 0)

/-- Reads a string after its opening quote, which is at index `start`. The characters read so far
are collected in reverse; `skip` counts the characters ahead that belong to an escape already
read. -/
def readString (start index : Nat) (done : List Char) (skip : Nat) : List Char → Read String
  | [] => .error (.unmet .closingQuote start)
  | c :: rest =>
    match skip with
    | left + 1 => readString start (index + 1) done left rest
    | 0 =>
      if c = '\x22' then .ok (String.ofList done.reverse, ⟨rest, index + 1⟩)
      else if c = '\x5c' then
        if rest.isEmpty then .error (.unmet .closingQuote start)
        else
          match escapeOf rest with
          | .ok (e, width) => readString start (index + 1) (e :: done) width rest
          | .error (need, offset) => .error (.unmet need (index + offset))
      else if c.toNat < 0x20 then .error (.unmet .plainCharacter index)
      else readString start (index + 1) (c :: done) 0 rest

/-! ## Numbers -/

/-- The values of the ASCII digits at the front, and what follows them. -/
def spanAscii : List Char → List Nat × List Char
  | [] => ([], [])
  | c :: rest =>
    match Text.asciiDigitValue? c with
    | some d =>
      let (ds, tail) := spanAscii rest
      (d :: ds, tail)
    | none => ([], c :: rest)

/-- The digits before the point: a zero alone, or digits that start with another. -/
def wholeDigits : List Char → List Nat × List Char
  | '0' :: rest => ([0], rest)
  | cs => spanAscii cs

/-- The digits after a point, if there are any; otherwise nothing is read. -/
def fractionDigits (cs : List Char) : List Nat × List Char :=
  match cs with
  | '.' :: rest =>
    match spanAscii rest with
    | ([], _) => ([], cs)
    | (ds, tail) => (ds, tail)
  | _ => ([], cs)

/-- A sign at the front, how many characters it has, and what follows it. -/
def exponentSign : List Char → Bool × Nat × List Char
  | '-' :: rest => (true, 1, rest)
  | '+' :: rest => (false, 1, rest)
  | cs => (false, 0, cs)

/-- An exponent as it was read. -/
structure Exponent where
  /-- The exponent. -/
  value : Int
  /-- How many characters it has, the letter in front included. -/
  width : Nat

/-- The exponent, if there is a complete one; otherwise nothing is read. -/
def exponentDigits (cs : List Char) : Option Exponent × List Char :=
  match cs with
  | [] => (none, cs)
  | e :: rest =>
    if e = 'e' ∨ e = 'E' then
      let (negative, signWidth, body) := exponentSign rest
      match spanAscii body with
      | ([], _) => (none, cs)
      | (ds, tail) =>
        let n : Int := Text.ofDigits ds
        (some ⟨if negative then -n else n, 1 + signWidth + ds.length⟩, tail)
    else (none, cs)

/-- A minus sign at the front, and what follows it. -/
def minusSign : List Char → Bool × List Char
  | '-' :: rest => (true, rest)
  | cs => (false, cs)

/-- Reads a number: the longest part at the front that is one. -/
def readNumber (cur : Cursor) : Read Value :=
  let (negative, body) := minusSign cur.rest
  let (whole, afterWhole) := wholeDigits body
  if whole.isEmpty then .error (.unmet .value cur.index)
  else
    let (fraction, afterFraction) := fractionDigits afterWhole
    let (exponent, rest) := exponentDigits afterFraction
    let afterDigits := cur.index + (if negative then 1 else 0) + whole.length
    if fraction.isEmpty && exponent.isNone then
      if whole.length ≤ digitLimit then
        let n : Int := Text.ofDigits whole
        .ok (.int (if negative then -n else n), ⟨rest, afterDigits⟩)
      else .error (.longInteger whole.length)
    else
      let fractionWidth := if fraction.isEmpty then 0 else fraction.length + 1
      let exponentWidth := (exponent.map Exponent.width).getD 0
      let x := Decimal.nearest (Text.ofDigits (whole ++ fraction))
        ((exponent.map Exponent.value).getD 0 - fraction.length)
      .ok (.float (if negative then -x else x),
        ⟨rest, afterDigits + fractionWidth + exponentWidth⟩)

/-! ## Values -/

/-- How deep lists and objects may be nested. Each takes one of the thousand calls that may be open
inside each other. The calls around the reader take some of them as well: ten are set aside here, as
many as a client needs that is used directly, and one that is used from further inside has less
room. -/
def nestingLimit : Nat := 1000 - 10

/-- The values that are spelled as words. -/
def words : List (List Char × Value) :=
  [("null".toList, .null), ("true".toList, .bool true), ("false".toList, .bool false),
   ("NaN".toList, .float (0.0 / 0.0)), ("Infinity".toList, .float (1.0 / 0.0)),
   ("-Infinity".toList, .float (-1.0 / 0.0))]

/-- Reads a word or a number. -/
def readScalar (cur : Cursor) : Read Value :=
  match words.find? fun w => w.1.isPrefixOf cur.rest with
  | some (w, v) => .ok (v, ⟨cur.rest.drop w.length, cur.index + w.length⟩)
  | none => readNumber cur

mutual

/-- Reads a value. The first argument bounds the steps and is never used up: see `readDocument`. The
second says how many lists and objects there is still room for inside each other. -/
def readValue : Nat → Nat → Cursor → Except Stop (Value × Cursor)
  | 0, _, cur => .error (.unmet .value cur.index)
  | fuel + 1, room, cur =>
    match cur.rest with
    | '\x22' :: rest =>
      (readString cur.index (cur.index + 1) [] 0 rest).map fun r => (.text r.1, r.2)
    | '\x7b' :: rest =>
      match room with
      | 0 => .error (.tooDeep true)
      | room + 1 =>
        let inside := Cursor.skipSpace ⟨rest, cur.index + 1⟩
        match inside.rest with
        | '\x7d' :: tail => .ok (.object [], ⟨tail, inside.index + 1⟩)
        | _ => readMembers fuel room [] inside
    | '[' :: rest =>
      match room with
      | 0 => .error (.tooDeep false)
      | room + 1 =>
        let inside := Cursor.skipSpace ⟨rest, cur.index + 1⟩
        match inside.rest with
        | ']' :: tail => .ok (.list [], ⟨tail, inside.index + 1⟩)
        | _ => readItems fuel room [] inside
    | _ => readScalar cur

/-- Reads the members of an object from a key on, up to and with the closing brace. -/
def readMembers : Nat → Nat → Members → Cursor → Except Stop (Value × Cursor)
  | 0, _, _, cur => .error (.unmet .key cur.index)
  | fuel + 1, room, done, cur =>
    match cur.rest with
    | '\x22' :: rest => do
      let (key, afterKey) ← readString cur.index (cur.index + 1) [] 0 rest
      let colon := afterKey.skipSpace
      match colon.rest with
      | ':' :: tail =>
        let (v, afterValue) ← readValue fuel room (Cursor.skipSpace ⟨tail, colon.index + 1⟩)
        let members := done.set key v
        let next := afterValue.skipSpace
        match next.rest with
        | '\x7d' :: tail => .ok (.object members, ⟨tail, next.index + 1⟩)
        | ',' :: tail => readMembers fuel room members (Cursor.skipSpace ⟨tail, next.index + 1⟩)
        | _ => .error (.unmet .comma next.index)
      | _ => .error (.unmet .colon colon.index)
    | _ => .error (.unmet .key cur.index)

/-- Reads the items of a list from the first on, up to and with the closing bracket. The items read
so far are collected in reverse. -/
def readItems : Nat → Nat → List Value → Cursor → Except Stop (Value × Cursor)
  | 0, _, _, cur => .error (.unmet .value cur.index)
  | fuel + 1, room, done, cur => do
    let (v, afterValue) ← readValue fuel room cur
    let next := afterValue.skipSpace
    match next.rest with
    | ']' :: tail => .ok (.list (v :: done).reverse, ⟨tail, next.index + 1⟩)
    | ',' :: tail => readItems fuel room (v :: done) (Cursor.skipSpace ⟨tail, next.index + 1⟩)
    | _ => .error (.unmet .comma next.index)

end

/-- Reads a whole document. Two nested reads consume at least one character, so twice the length of
the text bounds the steps. -/
def readDocument (cs : List Char) : Except Stop Value := do
  let (v, afterValue) ← readValue (2 * cs.length + 2) nestingLimit (Cursor.skipSpace ⟨cs, 0⟩)
  let last := afterValue.skipSpace
  if last.rest.isEmpty then .ok v else .error (.unmet .documentEnd last.index)

/-- The value that the characters of a document spell. -/
def decodeChars (cs : List Char) : Except Error Value :=
  match readDocument cs with
  | .ok v => .ok v
  | .error (.unmet need index) => .error (.unmet need cs index)
  | .error (.longInteger digits) => .error (.longInteger digits)
  | .error (.tooDeep isObject) => .error (.tooDeep isObject)

/-- The value that a text spells. A text does not begin with a byte order mark. -/
def decodeText (s : String) : Except Error Value :=
  match s.toList with
  | '\uFEFF' :: rest => .error (.unmet .noMark ('\uFEFF' :: rest) 0)
  | cs => decodeChars cs

/-- The value that the bytes of a document spell, in whichever form they encode it. -/
def decodeBytes (bytes : List UInt8) : Except Error Value :=
  match Encoding.decodeDocument bytes with
  | .ok cs => decodeChars cs
  | .error flaw => .error (.undecodable flaw)

end OData.Json
