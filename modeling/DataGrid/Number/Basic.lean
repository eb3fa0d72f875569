-- SUMMARY: Document numbers: exact integers and doubles, compared as doubles, and their texts.
import DataGrid.Number.Decimal

/-!
# Numbers

A number in a document is an exact integer or a double. `1` and `1.0` are
different numbers that are written differently, but they compare as equal.
-/

namespace DataGrid

/-- A number in a document. Integers reach from `-2 ^ 63` to `2 ^ 64 - 1`. -/
inductive Number where
  | int (value : Int)
  | double (value : Double)
  deriving DecidableEq

namespace Number

/-- The least integer that is kept exact, the least signed one of 64 bits. -/
def leastInt : Int := -9223372036854775808

/-- The greatest integer that is kept exact, and the greatest count: the greatest unsigned one of 64 bits. -/
def greatestInt : Nat := 18446744073709551615

/-- The greatest signed integer of 64 bits. -/
def greatestSigned : Int := 9223372036854775807

/-- The nearest double. -/
def toDouble : Number → Double
  | .int i => .ofInt i
  | .double d => d

/-- Order by value, as doubles. -/
def order (a b : Number) : Ordering :=
  a.toDouble.order b.toDouble

/-- Equality by value, as doubles. -/
def sameValue (a b : Number) : Bool :=
  a.toDouble.sameValue b.toDouble

/-- Equality of the written number: an integer is no double, but the zeros agree. -/
def sameNumber : Number → Number → Bool
  | .int a, .int b => a == b
  | .double a, .double b => a.sameValue b
  | _, _ => false

/-- The text of a number in a document. -/
def text : Number → String
  | .int i => toString i
  | .double d => d.text

/-- Whole doubles below this are written as integers in join keys. -/
def keyBound : Int := 9000000000000000

/-- The text of a number as a join key: `7.0` is written `7`. -/
def keyText : Number → String
  | .int i => toString i
  | .double d =>
    if d.isWhole && ({ d with negative := false } : Double).orderInt keyBound == .lt then d.plainText else d.text

/-- The number as a positive count or zero, if it is an integer in that range. -/
def toCount? : Number → Option Nat
  | .int i => if 0 ≤ i ∧ i ≤ greatestInt then some i.toNat else none
  | .double _ => none

end Number

end DataGrid
