import OData.Decimal.Binary
import OData.Text.Blank
import OData.Text.Digit
import OData.Value.Text

/-!
# Reading numbers from values

An integer is read from an integer, a truth value (0 or 1), a double (its part before the point)
or a text: blanks at the ends, one sign, decimal digits of any script with single underscores
between them. A double is read from the same kinds; its text may have a fraction and an exponent,
or be a name of infinity or of no number.
-/

namespace OData

/-- A sign at the front, and what follows it. -/
def signed : List Char → Bool × List Char
  | '-' :: rest => (true, rest)
  | '+' :: rest => (false, rest)
  | cs => (false, cs)

/-- An integer of at most `digitLimit` digits from digit values and a sign. -/
def integerOf (negative : Bool) (digits : List Nat) : Except Fault Int :=
  if digits.length ≤ digitLimit then
    let n : Int := Text.ofDigits digits
    .ok (if negative then -n else n)
  else .error .badContent

/-- The integer that a text spells. -/
def readInteger (s : String) : Except Fault Int :=
  let (negative, body) := signed (Text.unpadded s.toList)
  match Text.groupedDigits? Text.digitValue? body with
  | some digits => integerOf negative digits
  | none => .error .badContent

/-- The longest leading part of a text that holds digits and underscores, and the rest. -/
def spanDigits (cs : List Char) : List Char × List Char :=
  cs.span fun c => (Text.digitValue? c).isSome || c == '_'

/-- A run of digits as values; an empty run is allowed where the other side of the point has one. -/
def digitRun? : List Char → Option (List Nat)
  | [] => some []
  | cs => Text.groupedDigits? Text.digitValue? cs

/-- The exponent part of a decimal: nothing, or a letter, an optional sign and digits. -/
def exponentPart? : List Char → Option Int
  | [] => some 0
  | c :: rest =>
    if c = 'e' ∨ c = 'E' then
      let (negative, body) := signed rest
      (Text.groupedDigits? Text.digitValue? body).map fun ds =>
        let n : Int := Text.ofDigits ds
        if negative then -n else n
    else none

/-- A decimal without sign: digits before a point, digits after it, an exponent. One of the two runs
of digits may be empty. -/
def decimal? (cs : List Char) : Option Float :=
  let (whole, rest) := spanDigits cs
  let (fraction, rest) :=
    match rest with
    | '.' :: tail => spanDigits tail
    | _ => ([], rest)
  match digitRun? whole, digitRun? fraction, exponentPart? rest with
  | some ds, some fs, some e =>
    if ds.isEmpty && fs.isEmpty then none
    else some (Decimal.nearest (Text.ofDigits (ds ++ fs)) (e - fs.length))
  | _, _, _ => none

/-- The double that a text spells. -/
def readDouble (s : String) : Except Fault Float :=
  let (negative, body) := signed (Text.unpadded s.toList)
  let word := body.map Char.toLower
  let magnitude : Option Float :=
    if word = ['i', 'n', 'f'] ∨ word = ['i', 'n', 'f', 'i', 'n', 'i', 't', 'y'] then
      some (1.0 / 0.0)
    else if word = ['n', 'a', 'n'] then some (0.0 / 0.0)
    else decimal? body
  match magnitude with
  | some x => .ok (if negative then -x else x)
  | none => .error .badContent

namespace Value

/-- Reads an integer from a value. -/
def toInt : Value → Except Fault Int
  | .int n => .ok n
  | .bool b => .ok (if b then 1 else 0)
  | .float x =>
    match Decimal.Double.ofFloat x with
    | .nan => .error .badContent
    | .infinite _ => .error .outOfRange
    | .finite b => .ok b.truncate
  | .text s => readInteger s
  | _ => .error .wrongKind

/-- Reads a double from a value. -/
def toFloat : Value → Except Fault Float
  | .float x => .ok x
  | .int n =>
    match Decimal.ofInt? n with
    | some x => .ok x
    | none => .error .outOfRange
  | .bool b => .ok (if b then 1.0 else 0.0)
  | .text s => readDouble s
  | _ => .error .wrongKind

/-- The lesser of an integer and a number; at equality the integer. -/
def lesser (n : Int) (v : Value) : Except Fault Value :=
  match v with
  | .int m => .ok (if m < n then .int m else .int n)
  | .bool b => .ok (if (if b then 1 else 0) < n then .bool b else .int n)
  | .float x => .ok (if (Decimal.Double.ofFloat x).isBelow n then .float x else .int n)
  | _ => .error .wrongKind

end Value

end OData
