-- SUMMARY: The reals of the query language: how it reads them from documents, and its casts of them to text.
import DataGrid.Number.Decimal
import DataGrid.Number.Numeral
import DataGrid.Number.Pair

/-!
# SQL reals

The query language reads the numerals of documents and casts reals to text in
arithmetic of its own, on pairs of doubles. Its results are nearly always, but
not for every numeral, the nearest ones.
-/

namespace DataGrid.Sql.Real


-- ---------------------------------------------------------------------------
-- Reading
-- ---------------------------------------------------------------------------

/-- A significand below this takes one more digit. -/
def digitBound : Nat := 1844674407370955160

/-- A significand below this takes one more zero. -/
def zeroBound : Nat := 1844674407370954956

/-- The greatest double below 2 ^ 64. -/
def greatestBelow : Nat := 18446744073709549568

/-- Extend a significand by digits for as long as there is room, and return the digits left over. -/
def extend : Nat → List Char → Nat × List Char
  | significand, [] => (significand, [])
  | significand, c :: rest =>
    if significand < digitBound then extend (10 * significand + (c.toNat - '0'.toNat)) rest
    else (significand, c :: rest)

/-- Move powers of ten into the significand for as long as there is room. -/
def takeIn : Nat → Nat → Nat × Nat
  | significand, 0 => (significand, 0)
  | significand, powers + 1 =>
    if significand < zeroBound then takeIn (10 * significand) powers else (significand, powers + 1)

/-- Cancel powers of ten against zeros at the end of the significand. -/
def cancel : Nat → Nat → Nat × Nat
  | significand, 0 => (significand, 0)
  | significand, powers + 1 =>
    if significand % 10 = 0 then cancel (significand / 10) powers else (significand, powers + 1)

/-- A significand as a pair. -/
def ofSignificand (significand : Nat) : DoublePair :=
  let high := Double.ofNat significand
  ⟨high, .ofInt (if high.orderInt greatestBelow == .gt then 0 else significand - high.toInt)⟩

/-- The absolute value of `significand × 10 ^ exponent`. -/
def scaled (significand : Nat) (exponent : Int) : Double :=
  if 0 ≤ exponent then
    let (significand, powers) := takeIn significand exponent.toNat
    ((ofSignificand significand).scaleUp powers).toDouble
  else
    let (significand, powers) := cancel significand (-exponent).toNat
    ((ofSignificand significand).scaleDown powers).toDouble

/-- The real that a numeral in a document stands for. -/
def ofNumeral (n : Numeral) : Double :=
  let (significand, dropped) := extend 0 n.whole
  let (significand, ignored) := extend significand n.fraction
  let exponent := (dropped.length : Int) - (n.fraction.length - ignored.length) + n.exponent.getD 0
  let absolute := if significand = 0 then .ofInt 0 else scaled significand exponent
  if n.negative then absolute.neg else absolute

/-- The real that a number in a document stands for. -/
def ofNumber (n : Number) : Double :=
  ((Numeral.ofChars? n.text.toList).map ofNumeral).getD n.toDouble


-- ---------------------------------------------------------------------------
-- Casts to text
-- ---------------------------------------------------------------------------

/-- Before its digits are taken, a real is brought below this and above a tenth of it. -/
def digitsBelow : Nat := 9223372036854774784

/-- The double nearest to `digitsBelow × 10 ^ exponent`. -/
def bound (exponent : Int) : Double :=
  (DoublePair.ofRatio (digitsBelow * Nat.pow 10 exponent.toNat) (Nat.pow 10 (-exponent).toNat)).high

def isAbove (bound d : Double) : Bool :=
  d.order bound == .gt

def isBelow (bound d : Double) : Bool :=
  d.order bound == .lt

/-- A positive real that is too great, brought down by hundreds, tens and ones of powers of ten. -/
def bringDown (d : Double) : DoublePair × Int :=
  DoublePair.mulWhile (isAbove (bound 0)) (.powerOfTen (-1)) (-1) 12
    (DoublePair.mulWhile (isAbove (bound 10)) (.powerOfTen (-10)) (-10) 12
      (DoublePair.mulWhile (isAbove (bound 100)) (.powerOfTen (-100)) (-100) 4 (.ofDouble d, 0)))

/-- A positive real brought up, if it is too small, by hundreds, tens and ones of powers of ten. -/
def bringUp (d : Double) : DoublePair × Int :=
  DoublePair.mulWhile (isBelow (bound (-1))) (.powerOfTen 1) 1 12
    (DoublePair.mulWhile (isBelow (bound (-11))) (.powerOfTen 10) 10 12
      (DoublePair.mulWhile (isBelow (bound (-101))) (.powerOfTen 100) 100 5 (.ofDouble d, 0)))

/-- A positive real with eighteen or nineteen digits before the point, and the powers of ten that this took. -/
def normal (d : Double) : DoublePair × Int :=
  if isAbove (bound 0) d then bringDown d else bringUp d

/-- How many digits a cast to text keeps. -/
def castDigits : Nat := 15

/-- The digits of a positive real in a cast to text, the last one rounded, a half upwards. -/
def castDecimal (d : Double) : Decimal :=
  let (scaled, powers) := normal d
  let value := scaled.toInt.toNat
  let surplus := (Nat.toDigits 10 value).length - castDigits
  let step := Nat.pow 10 surplus
  .ofScaled ((2 * value + step) / (2 * step)) (surplus - powers)

/-- Casts to text are in place from 0.0001 up to fifteen digits before the point. -/
def castLayout : Decimal.Layout where
  leastLead := -4
  greatestLead := 14
  pointedMantissa := true
  exponentWidth := 2

/-- The text of a real. Zero has no sign. -/
def castText (d : Double) : String :=
  if d.magnitude.val = 0 then "0.0"
  else (if d.negative then "-" else "") ++ (castDecimal { d with negative := false }).write castLayout

end DataGrid.Sql.Real
