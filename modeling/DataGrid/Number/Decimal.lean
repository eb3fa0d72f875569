-- SUMMARY: Decimal numerals: the fewest digits that name a double, and layout.
import DataGrid.Number.Double

/-!
# Decimals

A decimal is a row of digits with the power of ten of its first digit. A double
has a shortest decimal, the fewest digits that read back as it. A layout says how
a decimal is written.
-/

namespace DataGrid

/-- The digits `d₀ d₁ d₂ …` stand for `d₀.d₁d₂… × 10 ^ lead`. -/
structure Decimal where
  digits : List Char
  lead : Int
  deriving DecidableEq

namespace Decimal

/-- The decimal `coefficient × 10 ^ exponent`, without zeros at its end. -/
def ofScaled (coefficient : Nat) (exponent : Int) : Decimal :=
  let digits := Nat.toDigits 10 coefficient
  let kept := (digits.reverse.dropWhile (· == '0')).reverse
  if kept.isEmpty then ⟨['0'], 0⟩ else ⟨kept, digits.length - 1 + exponent⟩


-- ---------------------------------------------------------------------------
-- Grids: the multiples of a power of ten
-- ---------------------------------------------------------------------------

/-- The power of ten of the first digit of the positive quotient `num / den`. -/
def leadOf (num den : Nat) : Int :=
  if den ≤ num then (Nat.toDigits 10 (num / den)).length - 1
  else
    let ceiling := (den + num - 1) / num
    if ceiling ≤ 1 then 0 else -((Nat.toDigits 10 (ceiling - 1)).length : Int)

/-- `num / den` counted in steps of `10 ^ exponent`, as a quotient of natural numbers. -/
def inSteps (num den : Nat) (exponent : Int) : Nat × Nat :=
  (num * Nat.pow 10 (-exponent).toNat, den * Nat.pow 10 exponent.toNat)

/-- Whether `count × 10 ^ exponent` lies between the midpoints around magnitude `m`, which is where
numerals are read back as `m`. The midpoints themselves are read as the even magnitude. -/
def readsBack (m count : Nat) (exponent : Int) : Bool :=
  let value := count * Nat.pow 10 exponent.toNat * (2 * Double.unitsPerOne)
  let scale := Nat.pow 10 (-exponent).toNat
  let lower := (Double.unitsOf (m - 1) + Double.unitsOf m) * scale
  let upper := (Double.unitsOf m + Double.unitsOf (m + 1)) * scale
  if m % 2 = 0 then lower ≤ value && value ≤ upper else lower < value && value < upper

/-- The nearest point to magnitude `m` on a grid, or else its other neighbour there, if it reads back as `m`. -/
def pointOn? (m : Nat) (exponent : Int) : Option Decimal :=
  let (num, den) := inSteps (Double.unitsOf m) Double.unitsPerOne exponent
  let near := nearestQuotient num den
  let far := if near = num / den then near + 1 else near - 1
  if readsBack m near exponent then some (ofScaled near exponent)
  else if readsBack m far exponent then some (ofScaled far exponent)
  else none

/-- The number of digits that always suffices for a double. -/
def enoughDigits : Nat := 17

/-- The fewest digits that read back as the magnitude `m`, and of those the nearest to it. -/
def shortestOf (m : Nat) : Decimal :=
  if m = 0 then ⟨['0'], 0⟩
  else
    let lead := leadOf (Double.unitsOf m) Double.unitsPerOne
    ((List.range enoughDigits).findSome? fun (count : Nat) => pointOn? m (lead - count)).getD ⟨['0'], 0⟩


-- ---------------------------------------------------------------------------
-- Layout
-- ---------------------------------------------------------------------------

/-- Written in place, without an exponent: a whole number has no point. -/
def inPlace (d : Decimal) : String :=
  if d.lead < 0 then
    String.ofList ('0' :: '.' :: List.replicate (-d.lead - 1).toNat '0' ++ d.digits)
  else
    let width := d.lead.toNat + 1
    let whole := d.digits.take width ++ List.replicate (width - d.digits.length) '0'
    match d.digits.drop width with
    | [] => String.ofList whole
    | fraction => String.ofList (whole ++ '.' :: fraction)

/-- Which decimals are written in place, whether a mantissa of one digit shows a point, and how many digits an
exponent has at least. -/
structure Layout where
  leastLead : Int
  greatestLead : Int
  pointedMantissa : Bool
  exponentWidth : Nat

/-- Written in place with at least one decimal, or else with a signed exponent. -/
def write (layout : Layout) (d : Decimal) : String :=
  if layout.leastLead ≤ d.lead ∧ d.lead ≤ layout.greatestLead then
    if d.digits.length ≤ d.lead + 1 then d.inPlace ++ ".0" else d.inPlace
  else
    let mantissa :=
      match d.digits with
      | [digit] => if layout.pointedMantissa then [digit, '.', '0'] else [digit]
      | first :: others => first :: '.' :: others
      | [] => []
    let exponent := Nat.toDigits 10 d.lead.natAbs
    let padding := List.replicate (layout.exponentWidth - exponent.length) '0'
    String.ofList (mantissa ++ 'e' :: (if d.lead < 0 then '-' else '+') :: padding ++ exponent)

/-- Numbers in documents: in place from 0.00001 up to sixteen digits before the point. -/
def documentLayout : Layout where
  leastLead := -5
  greatestLead := 15
  pointedMantissa := false
  exponentWidth := 1

end Decimal

namespace Double

/-- The text of a double in a document. -/
def text (d : Double) : String :=
  (if d.negative then "-" else "") ++ (Decimal.shortestOf d.magnitude).write Decimal.documentLayout

/-- The shortest digits without an exponent and, for whole numbers, without a point. -/
def plainText (d : Double) : String :=
  (if d.negative then "-" else "") ++ (Decimal.shortestOf d.magnitude).inPlace

end Double

end DataGrid
