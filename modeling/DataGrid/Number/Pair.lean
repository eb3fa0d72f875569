-- SUMMARY: Sums of two doubles left unevaluated, their products, and powers of ten as such sums.
import DataGrid.Number.Double

/-!
# Pairs of doubles

Twice the precision of a double is had by a sum of two doubles that is left
unevaluated. A product of such pairs is worked out from the exact products of
their halves, every step rounded to a double. Scaling a pair by a power of ten
multiplies it by hundreds, tens and ones of powers in turn.
-/

namespace DataGrid

namespace Double

/-- The double with the lower half of its significand, 26 bits, set to zero. -/
def head (d : Double) : Double :=
  { d with magnitude := ⟨d.magnitude / 67108864 * 67108864, Nat.lt_of_le_of_lt (Nat.div_mul_le_self ..) d.magnitude.isLt⟩ }

/-- What the head leaves. -/
def tail (d : Double) : Double :=
  d.sub d.head

end Double

/-- The sum `high + low`, where `low` is small beside `high`. -/
structure DoublePair where
  high : Double
  low : Double
  deriving DecidableEq

namespace DoublePair

/-- A double by itself. -/
def ofDouble (d : Double) : DoublePair :=
  ⟨d, .ofInt 0⟩

/-- The double nearest to `num / den` and the one nearest to what it leaves. -/
def ofRatio (num den : Nat) : DoublePair :=
  let high := Double.ofUnits (num * Double.unitsPerOne) den
  ⟨high, Double.ofUnits (num * Double.unitsPerOne - high.signedUnits * den) den⟩

/-- The power of ten with the given exponent. -/
def powerOfTen (exponent : Int) : DoublePair :=
  ofRatio (Nat.pow 10 exponent.toNat) (Nat.pow 10 (-exponent).toNat)

/-- The product, where heads and tails are multiplied one by one. -/
def mul (x y : DoublePair) : DoublePair :=
  let heads := x.high.head.mul y.high.head
  let crossed := (x.high.head.mul y.high.tail).add (x.high.tail.mul y.high.head)
  let product := heads.add crossed
  let left := ((heads.sub product).add crossed).add (x.high.tail.mul y.high.tail)
  let left := ((x.high.mul y.low).add (x.low.mul y.high)).add left
  let high := product.add left
  ⟨high, (product.sub high).add left⟩

/-- The double nearest to the sum. -/
def toDouble (x : DoublePair) : Double :=
  x.high.add x.low

/-- The whole parts of the two doubles, added. -/
def toInt (x : DoublePair) : Int :=
  x.high.toInt + x.low.toInt

/-- Multiply by a factor as often as given. -/
def mulTimes (factor : DoublePair) : Nat → DoublePair → DoublePair
  | 0, x => x
  | times + 1, x => mulTimes factor times (x.mul factor)

/-- Multiply by `10 ^ count`: by hundreds of powers, then by tens, then by ones. -/
def scaleUp (x : DoublePair) (count : Nat) : DoublePair :=
  mulTimes (powerOfTen 1) (count % 10)
    (mulTimes (powerOfTen 10) (count % 100 / 10) (mulTimes (powerOfTen 100) (count / 100) x))

/-- Multiply by `10 ^ -count`: by hundreds of powers, then by tens, then by ones. -/
def scaleDown (x : DoublePair) (count : Nat) : DoublePair :=
  mulTimes (powerOfTen (-1)) (count % 10)
    (mulTimes (powerOfTen (-10)) (count % 100 / 10) (mulTimes (powerOfTen (-100)) (count / 100) x))

/-- Multiply by a factor of so many powers of ten for as long as a test holds, at most as often as given, and count
the powers. -/
def mulWhile (test : Double → Bool) (factor : DoublePair) (powers : Int) : Nat → DoublePair × Int → DoublePair × Int
  | 0, scaled => scaled
  | times + 1, (x, count) =>
    if test x.high then mulWhile test factor powers times (x.mul factor, count + powers) else (x, count)

end DoublePair

end DataGrid
