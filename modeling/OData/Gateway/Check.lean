import OData.Decimal.Binary
import OData.Gateway.Issue
import OData.Value.Number

/-!
# Checks of single parts

A check looks at a value and gives what it stands for or what is wrong with it, and quotes it. Texts
have to be texts. Integers may also be truth values, doubles without a fraction and numerals: blanks
around, one sign, ASCII digits with single underscores between them, and perhaps a point with zeros.
A numeral may have 4300 digits; zeros at its front and after its point do not count, and the sign
may stand behind the former if it is a minus.
-/

namespace OData.Gateway

/-- A check of a value. -/
abbrev Check (α : Type) := Value → Checked α

namespace Check

variable {α : Type}

/-- Every value passes. -/
def anything : Check Value := .ok

/-- Texts pass. -/
def text : Check String
  | .text s => .ok s
  | v => .fail .notText v

/-- Objects pass, whatever their keys are. -/
def dictionary : Check Members
  | .object members => .ok members
  | v => .fail .notDictionary v

/-- Objects pass if their members do. -/
def record (check : Members → Checked α) : Check α
  | .object members => check members
  | v => .fail .notRecord v

/-- The absent value passes too. -/
def optional (check : Check α) : Check (Option α)
  | .null => .ok none
  | v => some <$> check v

/-- Checks the items of a list, of which the first has the given index. -/
def itemsFrom (check : Check α) (index : Nat) : List Value → Checked (List α)
  | [] => .ok []
  | v :: rest =>
    List.cons <$> (check v).under (.index index) <*> itemsFrom check (index + 1) rest

/-- Lists pass if their items do. -/
def list (check : Check α) : Check (List α)
  | .list items => itemsFrom check 0 items
  | v => .fail .notList v

/-- The words of a table pass; each stands for its entry. -/
def word (table : List (String × α)) : Check α
  | .text s =>
    match table.lookup s with
    | some a => .ok a
    | none => .fail .notAllowed (.text s)
  | v => .fail .notAllowed v

/-! ## Integers -/

/-- What follows a zero without more zeros and the underscores among them. The last character that
was left out takes its place again before a point and at the end. -/
def afterZero (last : Char) : List Char → List Char
  | [] => [last]
  | c :: rest =>
    if c == '0' || c == '_' then afterZero c rest
    else if c == '.' then last :: c :: rest
    else c :: rest

/-- A text that begins with a digit, without the zeros at its front; one is kept if there are no
other digits. -/
def withoutLeadingZeros? : List Char → Option (List Char)
  | [] => none
  | c :: rest =>
    if c == '0' then some (afterZero c rest)
    else if c.isDigit then some (c :: rest)
    else none

/-- A text without its point if zeros, and at least one, are all that follows it. -/
def withoutZeroFraction (cs : List Char) : List Char :=
  match cs.dropWhile (· != '.') with
  | '.' :: '0' :: zeros => if zeros.all (· == '0') then cs.takeWhile (· != '.') else cs
  | _ => cs

/-- Whether every underscore has a character other than an underscore on both of its sides. -/
def isGrouped : List Char → Bool
  | [] => true
  | '_' :: _ => false
  | [_] => true
  | _ :: '_' :: rest => !rest.isEmpty && isGrouped rest
  | _ :: rest => isGrouped rest

/-- A text without its underscores, if they are where they may be. -/
def ungrouped (cs : List Char) : List Char :=
  if isGrouped cs then cs.filter (· != '_') else cs

/-- A text without its decoration: blanks at the ends, a plus, zeros at the front, a point with
zeros, underscores. Zeros may also stand before a minus. -/
def undecorated? (cs : List Char) : Option (List Char) :=
  let (negative, body) := signed (Text.unpadded cs)
  (withoutLeadingZeros? body).map fun kept =>
    let bare := ungrouped (withoutZeroFraction kept)
    if negative then '-' :: bare else bare

/-- The natural number that plain digits spell: a lone zero, or at most `digitLimit` digits of which
the first is not zero. -/
def plainNatural? (cs : List Char) : Option Nat :=
  if cs == ['0'] then some 0
  else if cs.isEmpty || cs.head? == some '0' || digitLimit < cs.length then none
  else (cs.mapM Text.asciiDigitValue?).map Text.ofDigits

/-- The integer that plain digits spell, perhaps behind a minus. -/
def plainInteger? : List Char → Option Int
  | '-' :: digits => (plainNatural? digits).map fun n => -(n : Int)
  | digits => (plainNatural? digits).map fun n => (n : Int)

/-- The digits that a text begins with, perhaps behind a minus: none if the first is a zero. -/
def leadingDigits (cs : List Char) : List Char :=
  let digits := (if cs.head? == some '-' then cs.tail else cs).takeWhile Char.isDigit
  if digits.head? == some '0' then [] else digits

/-- The integer that a numeral spells. That it has too many digits is noticed only if it begins with
them, and then before anything that is wrong behind them. -/
def numeral (cs : List Char) : Except Flaw Int :=
  if digitLimit < (leadingDigits cs).length then .error .tooLarge
  else
    match undecorated? cs >>= plainInteger? with
    | some n => .ok n
    | none => .error .notNumeral

/-- Whether an integer is of less than 64 bits with its sign. -/
def isWord (n : Int) : Bool :=
  n.natAbs < Decimal.twoPow 63

/-- A double as an integer. -/
def integerOfDouble (x : Float) : Except Flaw Int :=
  match Decimal.Double.ofFloat x with
  | .finite b =>
    if b.isIntegral then
      if isWord b.truncate then .ok b.truncate else .error .tooLarge
    else .error .fractional
  | _ => .error .notFinite

/-- The integer that a value stands for. -/
def integerOfValue : Value → Except Flaw Int
  | .int n => .ok n
  | .bool b => .ok (if b then 1 else 0)
  | .float x => integerOfDouble x
  | .text s => numeral s.toList
  | _ => .error .notInteger

/-- Values that stand for an integer pass. -/
def integer : Check Int := fun v =>
  match integerOfValue v with
  | .ok n => .ok n
  | .error flaw => .fail flaw v

/-- Values that stand for an integer pass if it is not below a least one. -/
def integerFrom (least : Nat) : Check Nat := fun v =>
  match integerOfValue v with
  | .ok n => if n < least then .fail .tooSmall v else .ok n.toNat
  | .error flaw => .fail flaw v

end Check

/-! ## Members -/

variable {α : Type}

/-- Checks a member that has to be present. -/
def required (members : Members) (name : String) (check : Check α) : Checked α :=
  (match members.lookup name with
  | some v => check v
  | none => .fail .missing (.object members)).under (.member name)

/-- Checks a member that stands for the given value if it is absent. -/
def defaulted (members : Members) (name : String) (fallback : α) (check : Check α) : Checked α :=
  match members.lookup name with
  | some v => (check v).under (.member name)
  | none => .ok fallback

end OData.Gateway
