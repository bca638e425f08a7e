import OData.Decimal.Binary

/-!
# The shortest decimal that reads back

A positive double is shown with the fewest digits whose decimal still rounds to it, and among those
with the nearest. The decimals that round to `m · 2 ^ q` form an interval around it, whose ends
belong to it when `m` is even. For each number of digits the two points of the decimal grid next to
the number are tried; where a grid has a point in the interval, one of these two is.
-/

namespace OData.Decimal

/-- How a number is laid out once its digits are known. -/
structure Layout where
  /-- The least exponent of the first digit that is written positionally. -/
  least : Int
  /-- The greatest exponent of the first digit that is written positionally. -/
  greatest : Int
  /-- The least number of digits of a written exponent. -/
  exponentDigits : Nat

/-- Numbers from 0.0001 up to below 10 ^ 16 are written positionally, with a point and at least one
decimal; an exponent has a sign and at least two digits. -/
def Layout.standard : Layout := ⟨-4, 15, 2⟩

namespace Binary

/-- The exponent of the first digit: the greatest `e` with `10 ^ e` at most the number. The estimate
from the binary logarithm is off by one at most. -/
def firstExponent (b : Binary) : Int :=
  let estimate := Int.fdiv ((b.significand.log2 + b.exponent) * 30103) 100000
  let reaches (e : Int) : Bool :=
    tenPow e.toNat * b.denominator ≤ b.numerator * tenPow (-e).toNat
  if reaches (estimate + 1) then estimate + 1
  else if reaches estimate then estimate
  else estimate - 1

/-- A decimal `digits · 10 ^ unit`. -/
structure Grid where
  /-- The digits as one number. -/
  digits : Nat
  /-- The exponent of the last digit. -/
  unit : Int

/-- Whether a decimal rounds to the number. Both are compared in quarters of the number's last
binary place; below a power of two the gap to the next double is half as wide. -/
def roundsFrom (b : Binary) (g : Grid) : Bool :=
  let m := b.significand
  let low := if m = twoPow 52 ∧ b.exponent > -1074 then 4 * m - 1 else 4 * m - 2
  let high := 4 * m + 2
  let quarter := b.exponent - 2
  let point := g.digits * tenPow g.unit.toNat * twoPow (-quarter).toNat
  let scale := tenPow (-g.unit).toNat * twoPow quarter.toNat
  if m % 2 = 0 then low * scale ≤ point && point ≤ high * scale
  else low * scale < point && point < high * scale

/-- The nearest of the two points of the grid with `count` digits around the number, if one of them
rounds to it. At equal distance the even one is taken. -/
def onGrid? (b : Binary) (count : Nat) : Option Grid :=
  let unit := b.firstExponent + 1 - count
  let num := b.numerator * tenPow (-unit).toNat
  let den := b.denominator * tenPow unit.toNat
  let floor := num / den
  let rest := num % den
  let below : Grid := ⟨floor, unit⟩
  let above : Grid := ⟨floor + 1, unit⟩
  match b.roundsFrom below, b.roundsFrom above with
  | true, false => some below
  | false, true => some above
  | false, false => none
  | true, true =>
    if 2 * rest < den ∨ (2 * rest = den ∧ floor % 2 = 0) then some below else some above

/-- The first grid that has a point, from `count` digits on. Seventeen digits always suffice. -/
def searchGrid (b : Binary) (count : Nat) : Nat → Grid
  | 0 => ⟨b.numerator / b.denominator, 0⟩
  | fuel + 1 => (b.onGrid? count).getD (b.searchGrid (count + 1) fuel)

/-- The shortest decimal that rounds to a positive number. -/
def shortest (b : Binary) : Grid :=
  b.searchGrid 1 17

end Binary

/-- The digits of a decimal without trailing zeros, and the exponent of the first. -/
def significantDigits (g : Binary.Grid) : List Char × Int :=
  let ds := Nat.toDigits 10 g.digits
  ((ds.reverse.dropWhile (· == '0')).reverse, ds.length + g.unit - 1)

/-- An exponent with its sign and at least `width` digits. -/
def exponentText (width : Nat) (e : Int) : List Char :=
  let ds := Nat.toDigits 10 e.natAbs
  (if e < 0 then '-' else '+') :: List.replicate (width - ds.length) '0' ++ ds

/-- Digits `ds`, the first of which has exponent `e`, laid out. -/
def Layout.place (l : Layout) (ds : List Char) (e : Int) : List Char :=
  if l.least ≤ e ∧ e ≤ l.greatest then
    if e < 0 then
      '0' :: '.' :: List.replicate ((-e).toNat - 1) '0' ++ ds
    else
      let whole := e.toNat + 1
      let fraction := ds.drop whole
      ds.take whole ++ List.replicate (whole - ds.length) '0' ++
        '.' :: (if fraction.isEmpty then ['0'] else fraction)
  else
    let tail := ds.drop 1
    ds.take 1 ++ (if tail.isEmpty then [] else '.' :: tail) ++
      'e' :: exponentText l.exponentDigits e

/-- A double as a text. -/
def Double.render (l : Layout) : Double → String
  | .nan => "nan"
  | .infinite negative => if negative then "-inf" else "inf"
  | .finite b =>
    let body :=
      if b.significand = 0 then l.place ['0'] 0
      else
        let (ds, e) := significantDigits b.shortest
        l.place ds e
    String.ofList (if b.negative then '-' :: body else body)

/-- The text of a double. -/
def render (x : Float) : String :=
  (Double.ofFloat x).render .standard

end OData.Decimal
