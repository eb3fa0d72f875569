-- SUMMARY: The double of an integer has the value of the integer rounded to 53 bits, and doubles are ordered by value.
import Mathlib.Order.Monotone.Basic
import Mathlib.Tactic.Ring
import DataGrid.Number.Basic

/-!
# Integers as doubles

Magnitudes are numbered in ascending order, so doubles compare like their values. The
double nearest to an integer has the value of the integer rounded to 53 bits. Rounding
keeps the order of the integers but for those that it makes equal, which none of at
most 53 bits are.
-/

namespace DataGrid

/-! ## Rounding quotients -/

theorem nearestQuotient_of_dvd {num den : Nat} (positive : 0 < den) (h : den ∣ num) :
    nearestQuotient num den = num / den := by
  have rest : num % den = 0 := Nat.mod_eq_zero_of_dvd h
  simp only [nearestQuotient, rest]
  exact if_pos positive

theorem nearestQuotient_mul_right (num den : Nat) {scale : Nat} (positive : 0 < scale) :
    nearestQuotient (num * scale) (den * scale) = nearestQuotient num den := by
  have below (a b : Nat) : 2 * (a * scale) < b * scale ↔ 2 * a < b := by
    rw [← Nat.mul_assoc, Nat.mul_lt_mul_right positive]
  have above (a b : Nat) : b * scale < 2 * (a * scale) ↔ b < 2 * a := by
    rw [← Nat.mul_assoc, Nat.mul_lt_mul_right positive]
  simp only [nearestQuotient, Nat.mul_div_mul_right _ _ positive, Nat.mul_mod_mul_right, below, above]

/-- A quotient rounds to itself or to its successor. -/
theorem nearestQuotient_bounds (num den : Nat) :
    num / den ≤ nearestQuotient num den ∧ nearestQuotient num den ≤ num / den + 1 := by
  unfold nearestQuotient
  dsimp only
  split_ifs <;> omega

theorem nearestQuotient_mono {a b : Nat} (den : Nat) (h : a ≤ b) : nearestQuotient a den ≤ nearestQuotient b den := by
  rcases Nat.lt_or_eq_of_le (Nat.div_le_div_right (c := den) h) with less | same
  · exact (nearestQuotient_bounds a den).2.trans (Nat.succ_le_of_lt less |>.trans (nearestQuotient_bounds b den).1)
  · -- for one quotient, the greater remainder rounds up if the lesser one does
    have rest : a % den ≤ b % den := by
      have ha := Nat.div_add_mod a den
      have hb := Nat.div_add_mod b den
      rw [same] at ha
      omega
    unfold nearestQuotient
    dsimp only
    rw [same]
    split_ifs <;> omega

namespace Double

/-! ## Values of magnitudes -/

theorem unitsOf_of_lt {m : Nat} (h : m < fractions) : unitsOf m = m :=
  if_pos h

/-- The value of a magnitude by its exponent and its fraction, for all exponents but the least. -/
theorem unitsOf_mul_add (exponent : Nat) {fraction : Nat} (h : fraction < fractions) :
    unitsOf ((exponent + 1) * fractions + fraction) = (fractions + fraction) * 2 ^ exponent := by
  have large : ¬ (exponent + 1) * fractions + fraction < fractions := by
    rw [Nat.add_one_mul]
    omega
  have rest : ((exponent + 1) * fractions + fraction) % fractions = fraction := by
    rw [Nat.mul_add_mod_self_right, Nat.mod_eq_of_lt h]
  have quotient : ((exponent + 1) * fractions + fraction) / fractions = exponent + 1 := by
    rw [Nat.mul_comm, Nat.mul_add_div (Nat.two_pow_pos 52), Nat.div_eq_of_lt h, Nat.add_zero]
  rw [unitsOf, if_neg large, rest, quotient, Nat.add_sub_cancel]
  rfl

/-- The fractions of an exponent end where those of the next one begin. -/
theorem unitsOf_add (exponent : Nat) {fraction : Nat} (h : fraction ≤ fractions) :
    unitsOf ((exponent + 1) * fractions + fraction) = (fractions + fraction) * 2 ^ exponent := by
  rcases Nat.lt_or_eq_of_le h with less | rfl
  · exact unitsOf_mul_add exponent less
  · rw [← Nat.add_one_mul, ← Nat.add_zero ((exponent + 1 + 1) * fractions), unitsOf_mul_add _ (Nat.two_pow_pos 52),
      Nat.pow_succ]
    ring

theorem unitsOf_strictMono : StrictMono unitsOf := by
  refine strictMono_nat_of_lt_succ fun m => ?_
  rcases Nat.lt_or_ge m fractions with small | large
  · rcases Nat.lt_or_eq_of_le (Nat.succ_le_of_lt small) with less | same
    · rw [unitsOf_of_lt small, unitsOf_of_lt less]
      exact Nat.lt_succ_self m
    · have next : m + 1 = (0 + 1) * fractions + 0 := by omega
      rw [unitsOf_of_lt small, next, unitsOf_add 0 (Nat.zero_le _)]
      omega
  · obtain ⟨exponent, hexponent⟩ : ∃ exponent, m / fractions = exponent + 1 :=
      Nat.exists_eq_add_one.mpr (Nat.div_pos large (Nat.two_pow_pos 52))
    have parts : m = (exponent + 1) * fractions + m % fractions := by
      rw [← hexponent, Nat.div_add_mod']
    have fraction : m % fractions < fractions := Nat.mod_lt _ (Nat.two_pow_pos 52)
    rw [parts, Nat.add_assoc, unitsOf_add _ fraction.le, unitsOf_add _ fraction]
    exact Nat.mul_lt_mul_of_pos_right (Nat.lt_succ_self _) (Nat.two_pow_pos _)


/-! ## Integers rounded to 53 bits -/

/-- The step between the multiples among which an integer is rounded. -/
def stepOf (n : Nat) : Nat :=
  2 ^ (n.log2 - 52)

/-- The nearest integer with at most 53 significant bits, of two nearest ones the one with an even quotient. -/
def rounded (n : Nat) : Nat :=
  nearestQuotient n (stepOf n) * stepOf n

theorem log2_sub_eq_zero {n : Nat} (h : n < 2 ^ 53) : n.log2 - 52 = 0 := by
  by_cases zero : n = 0
  · rw [zero, Nat.log2_zero]
  · exact Nat.sub_eq_zero_of_le (Nat.le_of_lt_succ ((Nat.log2_lt zero).mpr h))

theorem stepOf_pos (n : Nat) : 0 < stepOf n :=
  Nat.two_pow_pos _

/-- The step divides the power of two of the leading bit, and greater ones. -/
theorem stepOf_dvd {n bits : Nat} (h : n.log2 ≤ bits) : stepOf n ∣ 2 ^ bits :=
  Nat.pow_dvd_pow 2 (by omega)

theorem rounded_of_dvd {n : Nat} (h : stepOf n ∣ n) : rounded n = n := by
  rw [rounded, nearestQuotient_of_dvd (stepOf_pos n) h, Nat.div_mul_cancel h]

/-- The powers of two around an integer are around its rounded quotient too. -/
theorem nearestQuotient_stepOf_bounds {n : Nat} (positive : n ≠ 0) :
    2 ^ n.log2 / stepOf n ≤ nearestQuotient n (stepOf n) ∧
      nearestQuotient n (stepOf n) ≤ 2 ^ (n.log2 + 1) / stepOf n := by
  rw [← nearestQuotient_of_dvd (stepOf_pos n) (stepOf_dvd (Nat.le_refl n.log2)),
    ← nearestQuotient_of_dvd (stepOf_pos n) (stepOf_dvd (Nat.le_succ n.log2))]
  exact ⟨nearestQuotient_mono _ (Nat.log2_self_le positive), nearestQuotient_mono _ Nat.lt_log2_self.le⟩

theorem rounded_bounds {n : Nat} (positive : n ≠ 0) : 2 ^ n.log2 ≤ rounded n ∧ rounded n ≤ 2 ^ (n.log2 + 1) := by
  obtain ⟨least, greatest⟩ := nearestQuotient_stepOf_bounds positive
  constructor
  · exact (Nat.div_mul_cancel (stepOf_dvd (Nat.le_refl _))).symm.le.trans (Nat.mul_le_mul_right _ least)
  · exact (Nat.mul_le_mul_right _ greatest).trans (Nat.div_mul_cancel (stepOf_dvd (Nat.le_succ _))).le

/-- The magnitude nearest to a number of units has that number as its value, rounded. -/
theorem unitsOf_placeOf (n : Nat) : unitsOf (placeOf n 1) = rounded n := by
  have place : placeOf n 1 = (n.log2 - 52) * fractions + nearestQuotient n (stepOf n) := by
    rw [placeOf, Nat.div_one, Nat.one_mul]
    rfl
  by_cases small : n < fractions
  · have short : n.log2 - 52 = 0 := log2_sub_eq_zero (Nat.lt_of_lt_of_le small (by decide))
    have unit : stepOf n = 1 := by rw [stepOf, short, Nat.pow_zero]
    have whole : nearestQuotient n 1 = n := by rw [nearestQuotient_of_dvd Nat.one_pos (Nat.one_dvd n), Nat.div_one]
    rw [place, rounded, unit, short, whole, Nat.zero_mul, Nat.zero_add, Nat.mul_one, unitsOf_of_lt small]
  · have positive : n ≠ 0 := (Nat.lt_of_lt_of_le (Nat.two_pow_pos 52) (Nat.le_of_not_lt small)).ne'
    have long : 52 ≤ n.log2 := (Nat.le_log2 positive).mpr (Nat.le_of_not_lt small)
    obtain ⟨least, greatest⟩ := nearestQuotient_stepOf_bounds positive
    have first : 2 ^ n.log2 / stepOf n = fractions := by
      rw [stepOf, Nat.pow_div (Nat.sub_le _ _) Nat.two_pos, Nat.sub_sub_self long]
    have last : 2 ^ (n.log2 + 1) / stepOf n = 2 * fractions := by
      rw [Nat.pow_succ, Nat.mul_comm, Nat.mul_div_assoc _ (stepOf_dvd (Nat.le_refl _)), first]
    rw [first] at least
    rw [last] at greatest
    have parts : (n.log2 - 52) * fractions + nearestQuotient n (stepOf n) =
        (n.log2 - 52 + 1) * fractions + (nearestQuotient n (stepOf n) - fractions) := by
      rw [Nat.add_one_mul]
      omega
    rw [place, parts, unitsOf_add _ (by omega), Nat.add_sub_cancel' least]
    rfl

/-- Integers of at most 53 bits are kept. -/
theorem rounded_of_le {n : Nat} (h : n ≤ 2 ^ 53) : rounded n = n := by
  refine rounded_of_dvd ?_
  rcases Nat.lt_or_eq_of_le h with less | rfl
  · rw [stepOf, log2_sub_eq_zero less]
    exact Nat.one_dvd n
  · exact stepOf_dvd (Nat.log2_two_pow).le

/-- Rounding a multiple by a power of two is rounding the integer. -/
theorem rounded_mul_two_pow (n k : Nat) : rounded (n * 2 ^ k) = rounded n * 2 ^ k := by
  by_cases zero : n = 0
  · rw [zero, Nat.zero_mul, rounded_of_le (Nat.zero_le _), Nat.zero_mul]
  have log : (n * 2 ^ k).log2 = n.log2 + k := by
    have least := Nat.log2_self_le zero
    have greatest : n < 2 ^ (n.log2 + 1) := Nat.lt_log2_self
    rw [Nat.log2_eq_iff (Nat.mul_ne_zero zero (Nat.two_pow_pos k).ne'), Nat.pow_add, Nat.add_right_comm, Nat.pow_add _ (_ + 1)]
    exact ⟨Nat.mul_le_mul_right _ least, Nat.mul_lt_mul_of_pos_right greatest (Nat.two_pow_pos k)⟩
  rcases Nat.lt_or_ge n.log2 52 with short | long
  · have step : stepOf n ∣ n := by
      rw [stepOf, Nat.sub_eq_zero_of_le short.le]
      exact Nat.one_dvd n
    have step' : stepOf (n * 2 ^ k) ∣ n * 2 ^ k := by
      rw [stepOf, log]
      exact Nat.dvd_mul_left_of_dvd (Nat.pow_dvd_pow 2 (by omega)) n
    rw [rounded_of_dvd step, rounded_of_dvd step']
  · have step : stepOf (n * 2 ^ k) = stepOf n * 2 ^ k := by
      rw [stepOf, stepOf, log, ← Nat.pow_add, Nat.sub_add_comm long]
    rw [rounded, rounded, step, nearestQuotient_mul_right _ _ (Nat.two_pow_pos k), Nat.mul_assoc]

theorem rounded_mono {a b : Nat} (h : a ≤ b) : rounded a ≤ rounded b := by
  by_cases zero : a = 0
  · rw [zero, rounded_of_le (Nat.zero_le _)]
    exact Nat.zero_le _
  have positive : b ≠ 0 := by omega
  have bits : a.log2 ≤ b.log2 := by
    rw [Nat.le_log2 positive]
    exact (Nat.log2_self_le zero).trans h
  rcases Nat.lt_or_eq_of_le bits with less | same
  · calc rounded a ≤ 2 ^ (a.log2 + 1) := (rounded_bounds zero).2
      _ ≤ 2 ^ b.log2 := Nat.pow_le_pow_right Nat.two_pos less
      _ ≤ rounded b := (rounded_bounds positive).1
  · have step : stepOf a = stepOf b := by rw [stepOf, stepOf, same]
    rw [rounded, rounded, step]
    exact Nat.mul_le_mul_right _ (nearestQuotient_mono _ h)


/-! ## Order of values -/

/-- A function of natural numbers, of integers so that it keeps their sign. -/
def signedly (f : Nat → Nat) (i : Int) : Int :=
  if i < 0 then -(f i.natAbs : Int) else f i.natAbs

theorem signedly_mono {f : Nat → Nat} (mono : Monotone f) {i j : Int} (h : i ≤ j) : signedly f i ≤ signedly f j := by
  unfold signedly
  split_ifs with hi hj hj
  · exact Int.neg_le_neg (Int.ofNat_le.mpr (mono (by omega)))
  · omega
  · omega
  · exact Int.ofNat_le.mpr (mono (by omega))

theorem signedly_strictMono {f : Nat → Nat} (mono : StrictMono f) (zero : f 0 = 0) {i j : Int} (h : i < j) :
    signedly f i < signedly f j := by
  have positive {n : Nat} (hn : 0 < n) : 0 < f n := zero ▸ mono hn
  unfold signedly
  split_ifs with hi hj hj
  · exact Int.neg_lt_neg (Int.ofNat_lt.mpr (mono (by omega)))
  · have := positive (show 0 < i.natAbs by omega)
    omega
  · omega
  · exact Int.ofNat_lt.mpr (mono (by omega))

/-- Doubles are ordered by value. -/
theorem order_eq (a b : Double) : a.order b = compare a.signedUnits b.signedUnits := by
  have value (d : Double) : d.signedUnits = signedly unitsOf d.rank := by
    obtain ⟨negative, magnitude⟩ := d
    cases negative with
    | false => simp [signedUnits, rank, signedly, units]
    | true =>
      by_cases zero : magnitude.val = 0
      · simp [signedUnits, rank, signedly, units, zero, unitsOf_of_lt]
      · simp [signedUnits, rank, signedly, units, Nat.pos_of_ne_zero zero]
  have ascending : StrictMono (signedly unitsOf) := fun _ _ =>
    signedly_strictMono unitsOf_strictMono (unitsOf_of_lt (Nat.two_pow_pos 52))
  rw [order, value, value, ← cmp_eq_compare, ← cmp_eq_compare]
  exact (ascending.cmp_map_eq _ _).symm

theorem exists_unitsPerOne_eq : ∃ k, k ≤ 1074 ∧ unitsPerOne = 2 ^ k := by
  -- the power itself is kept from being evaluated
  unfold unitsPerOne
  generalize 1074 = k
  exact ⟨k, Nat.le_refl k, Nat.pow_eq⟩

theorem unitsPerOne_pos : (0 : Int) < unitsPerOne := by
  obtain ⟨k, -, one⟩ := exists_unitsPerOne_eq
  rw [one, Int.natCast_pos]
  exact Nat.two_pow_pos k

/-- The integers of 64 bits are among the finite doubles. -/
theorem placeOf_lt_magnitudes {n : Nat} (h : n ≤ 2 ^ 64) : placeOf (n * unitsPerOne) 1 < magnitudes := by
  obtain ⟨k, hk, one⟩ := exists_unitsPerOne_eq
  obtain ⟨last, hlast, all⟩ : ∃ last, 1074 + 12 < last ∧ magnitudes = (last + 1) * fractions + 0 :=
    ⟨2046, by decide, rfl⟩
  have greatest : rounded (2 ^ 64) = 2 ^ 64 := rounded_of_dvd (stepOf_dvd Nat.log2_two_pow.le)
  rw [← unitsOf_strictMono.lt_iff_lt, unitsOf_placeOf, one, rounded_mul_two_pow, all, unitsOf_add _ (Nat.zero_le _)]
  calc rounded n * 2 ^ k ≤ 2 ^ 64 * 2 ^ k := Nat.mul_le_mul_right _ ((rounded_mono h).trans greatest.le)
    _ = 2 ^ 52 * 2 ^ (12 + k) := by rw [← Nat.pow_add, ← Nat.pow_add, ← Nat.add_assoc]
    _ < 2 ^ 52 * 2 ^ last :=
      Nat.mul_lt_mul_of_pos_left (Nat.pow_lt_pow_right (by decide) (by omega)) (Nat.two_pow_pos 52)

/-- An integer rounded to 53 bits. -/
def nearestInt (i : Int) : Int :=
  signedly rounded i

theorem nearestInt_mono {i j : Int} (h : i ≤ j) : nearestInt i ≤ nearestInt j :=
  signedly_mono (fun _ _ => rounded_mono) h

/-- An integer of 64 bits has as a double the value of the integer rounded. -/
theorem signedUnits_ofInt {i : Int} (h : i.natAbs ≤ 2 ^ 64) :
    (ofInt i).signedUnits = nearestInt i * unitsPerOne := by
  have negative : (ofInt i).negative = decide (i < 0) := by
    refine decide_eq_decide.mpr ⟨fun below => ?_, fun below => Int.mul_neg_of_neg_of_pos below unitsPerOne_pos⟩
    by_contra nonnegative
    exact absurd below (Int.not_lt.mpr (Int.mul_nonneg (Int.not_lt.mp nonnegative) unitsPerOne_pos.le))
  have place : (ofInt i).magnitude.val = placeOf (i.natAbs * unitsPerOne) 1 := by
    have same : placeOf (i * unitsPerOne).natAbs 1 = placeOf (i.natAbs * unitsPerOne) 1 := by
      rw [Int.natAbs_mul, Int.natAbs_natCast]
    exact (congrArg (min · (magnitudes - 1)) same).trans (Nat.min_eq_left (Nat.le_pred_of_lt (placeOf_lt_magnitudes h)))
  have value : (ofInt i).units = rounded i.natAbs * unitsPerOne := by
    obtain ⟨k, -, one⟩ := exists_unitsPerOne_eq
    rw [units, place, unitsOf_placeOf, one, rounded_mul_two_pow]
  rw [signedUnits, negative, value, nearestInt, signedly]
  simp only [decide_eq_true_eq, Int.natCast_mul]
  split_ifs
  · rw [Int.neg_mul]
  · rfl

/-- Integers of 64 bits compare as doubles like the rounded integers. -/
theorem order_ofInt_eq {i j : Int} (hi : i.natAbs ≤ 2 ^ 64) (hj : j.natAbs ≤ 2 ^ 64) :
    (ofInt i).order (ofInt j) = compare (nearestInt i) (nearestInt j) := by
  have scaled : StrictMono fun value : Int => value * unitsPerOne :=
    fun a b h => Int.mul_lt_mul_of_pos_right h unitsPerOne_pos
  rw [order_eq, signedUnits_ofInt hi, signedUnits_ofInt hj, ← cmp_eq_compare, ← cmp_eq_compare]
  exact scaled.cmp_map_eq _ _

/-- Integers of at most 53 bits are kept, and compare as doubles like themselves. -/
theorem nearestInt_of_le {i : Int} (h : i.natAbs ≤ 2 ^ 53) : nearestInt i = i := by
  rw [nearestInt, signedly, rounded_of_le h]
  omega

theorem order_ofInt {i j : Int} (hi : i.natAbs ≤ 2 ^ 53) (hj : j.natAbs ≤ 2 ^ 53) :
    (ofInt i).order (ofInt j) = compare i j := by
  have wider : 2 ^ 53 ≤ 2 ^ 64 := by decide
  rw [order_ofInt_eq (hi.trans wider) (hj.trans wider), nearestInt_of_le hi, nearestInt_of_le hj]

end Double

end DataGrid
