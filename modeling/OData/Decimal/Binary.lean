/-!
# Binary floating-point numbers, exactly

A finite double is a sign, a natural number `m` and an exponent `q`, and stands for `m · 2 ^ q`.
Everything that is shown or compared is computed from these three in exact arithmetic.
-/

namespace OData.Decimal

/-- A power of two. -/
def twoPow (n : Nat) : Nat := Nat.pow 2 n

/-- A power of ten. -/
def tenPow (n : Nat) : Nat := Nat.pow 10 n

/-- A finite double: `significand · 2 ^ exponent`, negated if `negative`. -/
structure Binary where
  /-- Whether the sign bit is set; it is kept also for zero. -/
  negative : Bool
  /-- The integral significand, below `2 ^ 53`. -/
  significand : Nat
  /-- The binary exponent of the significand's last bit, at least `-1074`. -/
  exponent : Int

/-- A double by its class. -/
inductive Double where
  /-- No number. -/
  | nan
  /-- An infinity with its sign. -/
  | infinite (negative : Bool)
  /-- A finite number. -/
  | finite (b : Binary)

/-- The class and the parts of a double, read off its bits. -/
def Double.ofFloat (x : Float) : Double :=
  let bits := x.toBits.toNat
  let negative := bits / twoPow 63 == 1
  let e : Nat := bits / twoPow 52 % 2048
  let f : Nat := bits % twoPow 52
  if e = 2047 then
    if f = 0 then .infinite negative else .nan
  else if e = 0 then .finite ⟨negative, f, -1074⟩
  else .finite ⟨negative, twoPow 52 + f, (e : Int) - 1075⟩

namespace Binary

/-- The magnitude as a fraction: numerator. -/
def numerator (b : Binary) : Nat :=
  b.significand * twoPow b.exponent.toNat

/-- The magnitude as a fraction: denominator. -/
def denominator (b : Binary) : Nat :=
  twoPow (-b.exponent).toNat

/-- The integer nearest to a number on the side of zero. -/
def truncate (b : Binary) : Int :=
  let n : Int := (b.numerator / b.denominator : Nat)
  if b.negative then -n else n

/-- Whether a number has no fractional part. -/
def isIntegral (b : Binary) : Bool :=
  b.numerator % b.denominator == 0

/-- Whether a number is below an integer. -/
def isBelow (b : Binary) (n : Int) : Bool :=
  let v : Int := b.numerator
  decide ((if b.negative then -v else v) < n * b.denominator)

end Binary

/-- Whether a double is below an integer; no number is below nothing. -/
def Double.isBelow : Double → Int → Bool
  | .nan, _ => false
  | .infinite negative, _ => negative
  | .finite b, n => b.isBelow n

/-- The double nearest to `digits · 10 ^ exponent`, ties to even. Where the exponent alone decides
that the result is zero or infinite, no power is computed. -/
def nearest (digits : Nat) (exponent : Int) : Float :=
  let magnitude := (Nat.toDigits 10 digits).length + exponent
  if digits = 0 ∨ magnitude < -400 then 0.0
  else if 400 < magnitude then Float.ofScientific 1 false 400
  else if exponent < 0 then Float.ofScientific digits true exponent.natAbs
  else Float.ofScientific digits false exponent.natAbs

/-- The double nearest to an integer, if it is finite. -/
def ofInt? (n : Int) : Option Float :=
  let x := nearest n.natAbs 0
  if x.isFinite then some (if n < 0 then -x else x) else none

end OData.Decimal
