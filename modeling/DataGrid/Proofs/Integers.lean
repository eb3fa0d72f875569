-- SUMMARY: Which integers are told apart by equality, by order and by key texts, and where the three agree.
import DataGrid.Proofs.Double
import DataGrid.Proofs.RemoteFields

/-!
# Integers in documents

Key texts tell all integers apart. Equality and order compare the nearest doubles, so
they see the integers rounded to 53 bits: no two are put in the wrong order, but some
are equal that are not the same. Tests, ranges and the records that are looked up
agree on which ids are the same exactly where rounding makes no two of them equal.
-/

namespace DataGrid

namespace Number

/-- The integers that documents hold exactly. -/
def Fits (i : Int) : Prop :=
  leastInt ≤ i ∧ i ≤ greatestInt

theorem Fits.natAbs_le {i : Int} (fits : Fits i) : i.natAbs ≤ 2 ^ 64 := by
  obtain ⟨least, greatest⟩ := fits
  unfold leastInt at least
  unfold greatestInt at greatest
  omega

/-! ## Texts of integers -/

theorem toList_toString (i : Int) :
    (toString i).toList = if 0 ≤ i then Nat.toDigits 10 i.toNat else '-' :: Nat.toDigits 10 (-i).toNat := by
  rw [Int.toString_eq_repr, Int.repr_eq_if]
  split <;> simp [Nat.repr_eq_ofList_toDigits]

theorem toDigits_inj {m n : Nat} (h : Nat.toDigits 10 m = Nat.toDigits 10 n) : m = n := by
  have read (k : Nat) : Nat.ofDigitChars 10 (Nat.toDigits 10 k) 0 = k :=
    Nat.ofDigitChars_toDigits (by decide) (Nat.le_refl 10)
  rw [← read m, h, read n]

/-- Different integers have different texts: a sign is no digit, and digits are read back. -/
theorem toString_inj {i j : Int} (h : toString i = toString j) : i = j := by
  have unsigned (n : Nat) (digits : List Char) : Nat.toDigits 10 n ≠ '-' :: digits := fun same => by
    have digit := Nat.isDigit_of_mem_toDigits (by decide) (by decide) (same ▸ List.mem_cons_self : '-' ∈ Nat.toDigits 10 n)
    exact absurd digit (by decide)
  have texts := congrArg String.toList h
  rw [toList_toString, toList_toString] at texts
  split_ifs at texts with hi hj hj
  · have same := toDigits_inj texts
    omega
  · exact absurd texts (unsigned _ _)
  · exact absurd texts.symm (unsigned _ _)
  · have same := toDigits_inj (List.cons.inj texts).2
    omega

end Number

namespace Json

open Double (nearestInt)
open Number (Fits)

/-! ## Two integers -/

theorem keyText_ofInt_inj {a b : Int} : (ofInt a).keyText = (ofInt b).keyText ↔ a = b :=
  ⟨Number.toString_inj, congrArg fun i => (ofInt i).keyText⟩

theorem order?_ofInt {a b : Int} (ha : Fits a) (hb : Fits b) :
    (ofInt a).order? (ofInt b) = some (compare (nearestInt a) (nearestInt b)) :=
  congrArg some (Double.order_ofInt_eq ha.natAbs_le hb.natAbs_le)

theorem looselyEqual_ofInt {a b : Int} (ha : Fits a) (hb : Fits b) :
    (ofInt a).looselyEqual (ofInt b) = true ↔ nearestInt a = nearestInt b := by
  have order : compare (Double.ofInt a).rank (Double.ofInt b).rank = compare (nearestInt a) (nearestInt b) :=
    Double.order_ofInt_eq ha.natAbs_le hb.natAbs_le
  change ((Double.ofInt a).rank == (Double.ofInt b).rank) = true ↔ _
  rw [beq_iff_eq, ← Std.compare_eq_iff_eq (a := nearestInt a), ← order, Std.compare_eq_iff_eq]


/-! ## Sets of ids -/

/-- All that looks at integers among some ids sees which ones are the same, and which one is less. -/
structure ToldExactly (ids : Int → Prop) : Prop where
  equal : ∀ a b, ids a → ids b → ((ofInt a).looselyEqual (ofInt b) = true ↔ a = b)
  order : ∀ a b, ids a → ids b → (ofInt a).order? (ofInt b) = some (compare a b)
  holds_equal : ∀ (column : String) (row : Row) (id other : Int), row.lookup column = some (ofInt id) →
    ids id → ids other → ((Predicate.equal column (ofInt other)).holds row = true ↔ id = other)
  holds_oneOf : ∀ (column : String) (row : Row) (id : Int) (others : List Int), row.lookup column = some (ofInt id) →
    ids id → (∀ other ∈ others, ids other) →
    ((Predicate.oneOf column (others.map ofInt)).holds row = true ↔ id ∈ others)
  holds_between : ∀ (column : String) (row : Row) (id least greatest : Int), row.lookup column = some (ofInt id) →
    ids id → ids least → ids greatest →
    ((Predicate.between column (ofInt least) (ofInt greatest)).holds row = true ↔ least ≤ id ∧ id ≤ greatest)
  checkBounds : ∀ (value : Json) (least greatest : Int), value.member? "min" = some (ofInt least) →
    value.member? "max" = some (ofInt greatest) → ids least → ids greatest →
    Clause.checkBounds value = if least < greatest then .ok ⟨ofInt least, ofInt greatest⟩ else .error .emptyRange
  joined : ∀ (records : List Row) (column : String) (id : Int),
    (∀ record ∈ records, ∃ key, ids key ∧ record.lookup column = some (ofInt key)) → ids id →
    Keyed.get? (Join.index records column) (ofInt id).keyText =
      (records.filter (Predicate.equal column (ofInt id)).holds).getLast?
  merged : ∀ (remote : RemoteGrid) (wanted : List String) (records : List Row) (id : Int),
    (∀ record ∈ records, ∃ key, ids key ∧ record.lookup remote.definition.foreignKey = some (ofInt key)) → ids id →
    (ofInt id).keyText ∈ wanted →
    (remote.mergeDataOf wanted records).find? (ofInt id) =
      ((records.filter (Predicate.equal remote.definition.foreignKey (ofInt id)).holds).getLast?).map remote.rename

/-- The record that joins by the key text of an id is the one that equals it. -/
theorem filter_isUnder_of_equal {ids : Int → Prop}
    (equal : ∀ a b, ids a → ids b → ((ofInt a).looselyEqual (ofInt b) = true ↔ a = b)) {records : List Row} {column : String}
    {id : Int} (keyed : ∀ record ∈ records, ∃ key, ids key ∧ record.lookup column = some (ofInt key)) (hid : ids id) :
    records.filter (Join.isUnder column (ofInt id).keyText) =
      records.filter (Predicate.equal column (ofInt id)).holds := by
  refine List.filter_congr fun record hrecord => ?_
  obtain ⟨key, hkey, held⟩ := keyed record hrecord
  rw [Join.isUnder, Predicate.holds, held, Bool.eq_iff_iff]
  exact beq_iff_eq.trans (keyText_ofInt_inj.trans (equal key id hkey hid).symm)

theorem recordOf?_eq (remote : RemoteGrid) (records : List Row) (key : Json) :
    remote.recordOf? records key =
      (records.filter (Join.isUnder remote.definition.foreignKey key.keyText)).getLast? := by
  rw [← List.head?_reverse, ← List.filter_reverse, List.head?_filter]
  rfl

/-- Ids are told exactly where equality and order tell them exactly. -/
theorem toldExactly_of_equal_order {ids : Int → Prop}
    (equal : ∀ a b, ids a → ids b → ((ofInt a).looselyEqual (ofInt b) = true ↔ a = b))
    (order : ∀ a b, ids a → ids b → (ofInt a).order? (ofInt b) = some (compare a b)) : ToldExactly ids where
  equal := equal
  order := order
  holds_equal column row id other held hid hother := by
    rw [Predicate.holds, held]
    exact equal id other hid hother
  holds_oneOf column row id others held hid hothers := by
    rw [Predicate.holds, held]
    change (others.map ofInt).any (ofInt id).looselyEqual = true ↔ _
    simp only [List.any_map, List.any_eq_true, Function.comp_apply]
    constructor
    · rintro ⟨other, hother, same⟩
      exact (equal id other hid (hothers other hother)).mp same ▸ hother
    · exact fun member => ⟨id, member, (equal id id hid hid).mpr rfl⟩
  holds_between column row id least greatest held hid hleast hgreatest := by
    rw [Predicate.holds, held]
    change Predicate.isBetween _ _ _ = true ↔ _
    rw [Predicate.isBetween, order id least hid hleast, order id greatest hid hgreatest, Bool.and_eq_true]
    exact and_congr Int.isGE_compare Int.isLE_compare
  checkBounds value least greatest hmin hmax hleast hgreatest := by
    simp only [Clause.checkBounds, hmin, hmax, order least greatest hleast hgreatest]
    by_cases less : least < greatest
    · rw [Int.compare_eq_lt.mpr less, if_pos less]
    · rw [if_neg less]
      split
      · next same => exact absurd (Int.compare_eq_lt.mp (Option.some.inj same)) less
      · rfl
      · next none => cases none
  joined records column id keyed hid := by
    rw [Join.get?_index, filter_isUnder_of_equal equal keyed hid]
  merged remote wanted records id keyed hid hwanted := by
    rw [RemoteGrid.find?_mergeDataOf hwanted, recordOf?_eq, filter_isUnder_of_equal equal keyed hid]

/-- Ids are told exactly where rounding tells them apart. -/
theorem toldExactly_iff {ids : Int → Prop} (fits : ∀ i, ids i → Fits i) :
    ToldExactly ids ↔ ∀ a b, ids a → ids b → nearestInt a = nearestInt b → a = b := by
  constructor
  · intro told a b ha hb same
    exact (told.equal a b ha hb).mp ((looselyEqual_ofInt (fits a ha) (fits b hb)).mpr same)
  · intro apart
    have ascends {a b : Int} (ha : ids a) (hb : ids b) (less : a < b) : nearestInt a < nearestInt b :=
      lt_of_le_of_ne (Double.nearestInt_mono less.le) fun same => less.ne (apart a b ha hb same)
    refine toldExactly_of_equal_order (fun a b ha hb => ?_) fun a b ha hb => ?_
    · rw [looselyEqual_ofInt (fits a ha) (fits b hb)]
      exact ⟨apart a b ha hb, congrArg nearestInt⟩
    · rw [order?_ofInt (fits a ha) (fits b hb)]
      rcases Int.lt_trichotomy a b with less | rfl | greater
      · rw [Int.compare_eq_lt.mpr less, Int.compare_eq_lt.mpr (ascends ha hb less)]
      · rw [Std.compare_self, Std.compare_self]
      · rw [Int.compare_eq_gt.mpr greater, Int.compare_eq_gt.mpr (ascends hb ha greater)]

/-- Two integers next to each other that round to one. -/
theorem nearestInt_collision : nearestInt (2 ^ 53 + 1) = nearestInt (2 ^ 53) := by
  decide +kernel

/-- Key texts tell all integers apart. Equality and order see integers rounded to 53 bits, so none are put in the wrong
order. Some ids are told exactly by all that looks at them where no two of them are rounded to one, which all integers up
to a bound are not exactly up to `2 ^ 53`. -/
theorem ids_told_exactly (ids : Int → Prop) (bound : Nat) :
    (∀ a b : Int, (ofInt a).keyText = (ofInt b).keyText ↔ a = b) ∧
    (∀ a b : Int, Fits a → Fits b →
      (ofInt a).order? (ofInt b) = some (compare (nearestInt a) (nearestInt b)) ∧
      ((ofInt a).looselyEqual (ofInt b) = true ↔ nearestInt a = nearestInt b)) ∧
    (∀ a b, a ≤ b → nearestInt a ≤ nearestInt b) ∧
    ((∀ i, ids i → Fits i) →
      (ToldExactly ids ↔ ∀ a b, ids a → ids b → nearestInt a = nearestInt b → a = b)) ∧
    (ToldExactly (fun i => Fits i ∧ i.natAbs ≤ bound) ↔ bound ≤ 2 ^ 53) := by
  refine ⟨fun a b => keyText_ofInt_inj, fun a b ha hb => ⟨order?_ofInt ha hb, looselyEqual_ofInt ha hb⟩,
    fun _ _ => Double.nearestInt_mono, toldExactly_iff, ?_⟩
  rw [toldExactly_iff fun _ h => h.1]
  constructor
  · intro apart
    by_contra above
    have first : Fits (2 ^ 53) := ⟨by decide, by decide⟩
    have second : Fits (2 ^ 53 + 1) := ⟨by decide, by decide⟩
    have same := apart (2 ^ 53 + 1) (2 ^ 53) ⟨second, by omega⟩ ⟨first, by omega⟩ nearestInt_collision
    omega
  · rintro small a b ⟨-, ha⟩ ⟨-, hb⟩ same
    rwa [Double.nearestInt_of_le (ha.trans small), Double.nearestInt_of_le (hb.trans small)] at same

/-- Two ids next to each other are equal and in no order: a test for the one lets the other through, and they are no bounds
of a range. Their key texts are different. -/
theorem neighbours_not_told :
    (ofInt 9007199254740992).looselyEqual (ofInt 9007199254740993) = true ∧
    (ofInt 9007199254740992).order? (ofInt 9007199254740993) = some .eq ∧
    (Predicate.equal "id" (ofInt 9007199254740993)).holds [("id", ofInt 9007199254740992)] = true ∧
    (Clause.checkBounds
      (.obj [("max", ofInt 9007199254740993), ("min", ofInt 9007199254740992)])).toOption.isNone = true ∧
    (ofInt 9007199254740992).keyText ≠ (ofInt 9007199254740993).keyText := by
  decide +kernel

end Json

end DataGrid
