-- SUMMARY: Finite binary64 numbers: exact values, order, and rounding to nearest.

/-!
# Doubles

A finite double is a sign and a magnitude. Magnitudes are numbered in ascending
order, so the number of a magnitude is its exponent field followed by its
fraction field. The value of a magnitude is a whole number of *units*, one unit
being 2^-1074, the least positive double; all arithmetic here is exact
arithmetic on units followed by one rounding.
-/

namespace DataGrid

/-- The quotient rounded to the nearest natural number, a half to the even neighbour. -/
def nearestQuotient (num den : Nat) : Nat :=
  let quotient := num / den
  let twice := 2 * (num % den)
  if twice < den then quotient
  else if den < twice then quotient + 1
  else quotient + quotient % 2

/-- The number of fractions that go with one exponent, 2^52. -/
abbrev Double.fractions : Nat := 4503599627370496

/-- The number of finite magnitudes: those of 2047 exponents. -/
abbrev Double.magnitudes : Nat := 2047 * Double.fractions

/-- A finite double. -/
structure Double where
  negative : Bool
  magnitude : Fin Double.magnitudes
  deriving DecidableEq

namespace Double

/-- The value of magnitude number `m` in units. -/
def unitsOf (m : Nat) : Nat :=
  if m < fractions then m else (fractions + m % fractions) * Nat.pow 2 (m / fractions - 1)

/-- The absolute value of `d` in units. -/
def units (d : Double) : Nat :=
  unitsOf d.magnitude

/-- The number of the magnitude nearest to `num / den` units, a half to the even one. -/
def placeOf (num den : Nat) : Nat :=
  let shift := (num / den).log2 - 52
  shift * fractions + nearestQuotient num (den * Nat.pow 2 shift)

/-- How many units make one. -/
def unitsPerOne : Nat := Nat.pow 2 1074

/-- The double nearest to `num / den`, or nothing where that is beyond the finite ones. -/
def ofRatio? (negative : Bool) (num den : Nat) : Option Double :=
  let place := placeOf (num * unitsPerOne) den
  if h : place < magnitudes then some ⟨negative, place, h⟩ else none

/-- The double nearest to `num / den` units; beyond the range it is the greatest of its sign. -/
def ofUnits (num : Int) (den : Nat) : Double where
  negative := num < 0
  magnitude := ⟨min (placeOf num.natAbs den) (magnitudes - 1),
    Nat.lt_of_le_of_lt (Nat.min_le_right _ _) (by decide)⟩

/-- The double nearest to an integer; beyond the range it is the greatest of its sign. -/
def ofInt (i : Int) : Double :=
  ofUnits (i * unitsPerOne) 1

def ofNat (n : Nat) : Double :=
  ofInt n

def neg (d : Double) : Double :=
  { d with negative := !d.negative }

/-- The value in units. -/
def signedUnits (d : Double) : Int :=
  if d.negative then -(d.units : Int) else d.units

/-- The sum rounded to nearest; beyond the range it is the greatest of its sign. -/
def add (a b : Double) : Double :=
  ofUnits (a.signedUnits + b.signedUnits) 1

/-- The difference rounded to nearest; beyond the range it is the greatest of its sign. -/
def sub (a b : Double) : Double :=
  ofUnits (a.signedUnits - b.signedUnits) 1

/-- The product rounded to nearest; beyond the range it is the greatest of its sign. -/
def mul (a b : Double) : Double :=
  ofUnits (a.signedUnits * b.signedUnits) unitsPerOne

/-- The product rounded to nearest, or nothing where it overflows. -/
def mul? (a b : Double) : Option Double :=
  ofRatio? (a.negative != b.negative) (a.units * b.units) (unitsPerOne * unitsPerOne)

/-- The quotient rounded to nearest, or nothing where it overflows. -/
def div? (a b : Double) : Option Double :=
  ofRatio? (a.negative != b.negative) a.units b.units


-- ---------------------------------------------------------------------------
-- Order
-- ---------------------------------------------------------------------------

/-- The signed magnitude. It orders doubles by value, and both zeros have the rank zero. -/
def rank (d : Double) : Int :=
  if d.negative then -(d.magnitude.val : Int) else d.magnitude.val

/-- Order by value. -/
def order (a b : Double) : Ordering :=
  compare a.rank b.rank

/-- Equality of values: the two zeros are equal. -/
def sameValue (a b : Double) : Bool :=
  a.rank == b.rank

/-- The exact order of a double and an integer. -/
def orderInt (d : Double) (i : Int) : Ordering :=
  compare d.signedUnits (i * unitsPerOne)

/-- The whole part of the value, cut towards zero. -/
def toInt (d : Double) : Int :=
  d.signedUnits.tdiv unitsPerOne

/-- Whether the value is a whole number. -/
def isWhole (d : Double) : Bool :=
  d.units % unitsPerOne == 0

end Double

end DataGrid
