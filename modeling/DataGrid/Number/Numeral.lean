-- SUMMARY: Reading numerals: exact integers where they fit, otherwise doubles.
import DataGrid.Number.Basic

/-!
# Numerals

A numeral without point and exponent is an exact integer where it fits into 64
bits. Any other numeral is a double: the significand, of which only the leading
digits that fit into 64 bits are kept, and the power of ten are rounded to
doubles first and then multiplied or divided. Short numerals are thereby read
exactly; for long ones the last bit may be off by one.
-/

namespace DataGrid

/-- A numeral cut into its parts. An absent fraction is empty. -/
structure Numeral where
  negative : Bool
  whole : List Char
  fraction : List Char
  exponent : Option Int

namespace Numeral

/-- The value of some decimal digits. -/
def digitsValue (digits : List Char) : Nat :=
  digits.foldl (fun n c => 10 * n + (c.toNat - '0'.toNat)) 0

/-- The exponent part: a letter, an optional sign and digits. -/
def exponentOf? : List Char → Option (Option Int)
  | [] => some none
  | c :: rest =>
    if c = 'e' ∨ c = 'E' then
      let (negative, digits) :=
        match rest with
        | '-' :: digits => (true, digits)
        | '+' :: digits => (false, digits)
        | digits => (false, digits)
      if digits.isEmpty || !digits.all Char.isDigit then none
      else some (some (if negative then -(digitsValue digits : Int) else digitsValue digits))
    else none

/-- Cut a numeral into its parts; no leading zeros, and digits on both sides of a point. -/
def ofChars? (cs : List Char) : Option Numeral :=
  let (negative, unsigned) :=
    match cs with
    | '-' :: rest => (true, rest)
    | _ => (false, cs)
  let whole := unsigned.takeWhile Char.isDigit
  let rest := unsigned.dropWhile Char.isDigit
  if whole.isEmpty || (whole.head? == some '0' && whole.length != 1) then none
  else
    match rest with
    | '.' :: decimals =>
      let fraction := decimals.takeWhile Char.isDigit
      if fraction.isEmpty then none
      else (exponentOf? (decimals.dropWhile Char.isDigit)).map fun exponent => { negative, whole, fraction, exponent }
    | _ => (exponentOf? rest).map fun exponent => { negative, whole, fraction := [], exponent }

/-- The sign and the digits that some characters begin with. -/
def signedDigits (isSign : Char → Bool) (cs : List Char) : List Char :=
  match cs with
  | c :: rest => if isSign c then c :: rest.takeWhile Char.isDigit else cs.takeWhile Char.isDigit
  | [] => []

/-- The characters of the numeral that some characters begin with. A point or an exponent letter that is there
belongs to it even if no digits follow. -/
def leading (cs : List Char) : List Char :=
  let whole := signedDigits (· == '-') cs
  let rest := cs.drop whole.length
  let fraction :=
    match rest with
    | '.' :: decimals => '.' :: decimals.takeWhile Char.isDigit
    | _ => []
  let exponent :=
    match rest.drop fraction.length with
    | c :: digits => if c == 'e' || c == 'E' then c :: signedDigits (fun s => s == '-' || s == '+') digits else []
    | [] => []
  whole ++ fraction ++ exponent

/-- Extend a significand by digits for as long as it fits into 64 bits, and return the digits left over. -/
def extend : Nat → List Char → Nat × List Char
  | significand, [] => (significand, [])
  | significand, c :: rest =>
    let longer := 10 * significand + (c.toNat - '0'.toNat)
    if longer ≤ Number.greatestInt then extend longer rest else (significand, c :: rest)

/-- The greatest power of ten that is a double. -/
def greatestPower : Nat := 308

/-- The double nearest to a power of ten up to the greatest. -/
def powerOfTen (exponent : Nat) : Double :=
  .ofNat (Nat.pow 10 exponent)

/-- Divide by the greatest power of ten a number of times, until the quotient has come down to zero. -/
def scaleDownGreatly : Nat → Double → Option Double
  | 0, d => some d
  | times + 1, d =>
    if d.magnitude.val = 0 then some d
    else (d.div? (powerOfTen greatestPower)).bind (scaleDownGreatly times)

/-- Divide by a power of ten: by the greatest as often as it goes before the last step, then by the rest. -/
def scaleDown (d : Double) (exponent : Nat) : Option Double :=
  let times := (exponent - 1) / greatestPower
  (scaleDownGreatly times d).bind fun scaled => scaled.div? (powerOfTen (exponent - greatestPower * times))

/-- Multiply by a power of ten; beyond the greatest only zero can be. -/
def scaleUp (d : Double) (exponent : Nat) : Option Double :=
  if exponent ≤ greatestPower then d.mul? (powerOfTen exponent)
  else if d.magnitude.val = 0 then some d
  else none

/-- The double `significand × 10 ^ exponent`, nothing beyond the finite ones. -/
def scaled? (significand : Nat) (exponent : Int) : Option Double :=
  if 0 ≤ exponent then scaleUp (.ofNat significand) exponent.toNat
  else scaleDown (.ofNat significand) (-exponent).toNat

/-- The double that a numeral stands for. -/
def double? (n : Numeral) : Option Double :=
  let (significand, dropped) := extend 0 n.whole
  let (significand, ignored) := extend significand n.fraction
  let exponent := (dropped.length : Int) - (n.fraction.length - ignored.length) + n.exponent.getD 0
  (scaled? significand exponent).map fun d => if n.negative then d.neg else d

/-- The number that a numeral stands for. Minus zero is a double. -/
def number? (n : Numeral) : Option Number :=
  let value := digitsValue n.whole
  if n.fraction.isEmpty && n.exponent.isNone then
    if !n.negative && value ≤ Number.greatestInt then some (.int value)
    else if n.negative && value != 0 && Number.leastInt ≤ -(value : Int) then some (.int (-(value : Int)))
    else n.double?.map .double
  else n.double?.map .double

end Numeral

/-- Read a numeral. -/
def Number.ofNumeral? (cs : List Char) : Option Number :=
  (Numeral.ofChars? cs).bind Numeral.number?

end DataGrid
