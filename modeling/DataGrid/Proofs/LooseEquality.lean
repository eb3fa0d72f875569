-- SUMMARY: Loose equality is an equivalence, and what it means for one list of values to stand for another in a test.
import DataGrid.Proofs.Path
import DataGrid.Proofs.Sql.Tests

/-!
# Loose equality

Documents are equal where their reduced forms are, in which zero has no sign.
Loosely equal values are also those numbers that round to one double. Both are
equivalences, so a list of values lets every row through that another one does
where it has an equal of each value of the other.
-/

namespace DataGrid

/-! ## Reduced forms -/

namespace Double

/-- The double, without a sign if it is zero. -/
def reduced (d : Double) : Double :=
  { d with negative := d.negative && d.magnitude.val ≠ 0 }

/-- Doubles have the same value where they are the same but for the sign of zero. -/
theorem sameValue_iff {a b : Double} : a.sameValue b = true ↔ a.reduced = b.reduced := by
  obtain ⟨sign, place, small⟩ := a
  obtain ⟨sign', place', small'⟩ := b
  simp only [sameValue, rank, reduced, beq_iff_eq, mk.injEq, Fin.mk.injEq]
  cases sign <;> cases sign' <;> simp <;> omega

end Double

/-- Numbers are equal in documents where they are written alike, but for the sign of zero. -/
def Number.reduced : Number → Number
  | .int i => .int i
  | .double d => .double d.reduced

theorem Number.sameNumber_iff {a b : Number} : a.sameNumber b = true ↔ a.reduced = b.reduced := by
  cases a <;> cases b <;> simp [sameNumber, reduced, Double.sameValue_iff]

namespace Json

mutual

/-- The value with every zero in it without a sign. -/
def reduced : Json → Json
  | .num n => .num n.reduced
  | .arr items => .arr (reducedItems items)
  | .obj members => .obj (reducedMembers members)
  | .null => .null
  | .bool b => .bool b
  | .str s => .str s

def reducedItems : List Json → List Json
  | [] => []
  | x :: rest => reduced x :: reducedItems rest

def reducedMembers : List (String × Json) → List (String × Json)
  | [] => []
  | (k, x) :: rest => (k, reduced x) :: reducedMembers rest

end

mutual

/-- Documents are equal where their reduced forms are. -/
theorem same_iff (a b : Json) : a.same b = true ↔ a.reduced = b.reduced := by
  match a with
  | .null => cases b <;> simp [same, reduced]
  | .bool _ => cases b <;> simp [same, reduced]
  | .str _ => cases b <;> simp [same, reduced]
  | .num n =>
    cases b with
    | num => simp [same, reduced, Number.sameNumber_iff]
    | _ => simp [same, reduced]
  | .arr items =>
    cases b with
    | arr others => simp [same, reduced, sameItems_iff items others]
    | _ => simp [same, reduced]
  | .obj members =>
    cases b with
    | obj others => simp [same, reduced, sameMembers_iff members others]
    | _ => simp [same, reduced]

private theorem sameItems_iff (a b : List Json) : sameItems a b = true ↔ reducedItems a = reducedItems b := by
  match a with
  | [] => cases b <;> simp [sameItems, reducedItems]
  | x :: rest =>
    cases b with
    | nil => simp [sameItems, reducedItems]
    | cons y others => simp [sameItems, reducedItems, same_iff x y, sameItems_iff rest others]

private theorem sameMembers_iff (a b : List (String × Json)) :
    sameMembers a b = true ↔ reducedMembers a = reducedMembers b := by
  match a with
  | [] => cases b <;> simp [sameMembers, reducedMembers]
  | (k, x) :: rest =>
    cases b with
    | nil => simp [sameMembers, reducedMembers]
    | cons e others =>
      obtain ⟨l, y⟩ := e
      simp [sameMembers, reducedMembers, same_iff x y, sameMembers_iff rest others, and_assoc]

end


/-! ## Loose equality -/

/-- The reduced form of a value, a number as its nearest double. -/
def loose : Json → Json
  | .num n => .num (.double n.toDouble.reduced)
  | value => value.reduced

/-- Values are loosely equal where their loose forms are the same. -/
theorem looselyEqual_iff {a b : Json} : a.looselyEqual b = true ↔ a.loose = b.loose := by
  cases a with
  | num n =>
    cases b with
    | num => simp [looselyEqual, loose, Number.sameValue, Double.sameValue_iff]
    | _ => simp [looselyEqual, loose, same, reduced]
  | _ => cases b <;> simp [looselyEqual, loose, same_iff, reduced]

theorem looselyEqual_refl (a : Json) : a.looselyEqual a = true :=
  looselyEqual_iff.mpr rfl

theorem looselyEqual_symm {a b : Json} (h : a.looselyEqual b = true) : b.looselyEqual a = true :=
  looselyEqual_iff.mpr (looselyEqual_iff.mp h).symm

theorem looselyEqual_trans {a b c : Json} (h : a.looselyEqual b = true) (h' : b.looselyEqual c = true) :
    a.looselyEqual c = true :=
  looselyEqual_iff.mpr ((looselyEqual_iff.mp h).trans (looselyEqual_iff.mp h'))

/-- Nothing is loosely equal to null but null. -/
theorem looselyEqual_null {value : Json} : value.looselyEqual .null = true ↔ value = .null := by
  cases value <;> simp [looselyEqual, same]

/-- Each of some values is loosely equal to one of those that stand for them. -/
def StandFor (deputies values : List Json) : Prop :=
  ∀ value ∈ values, ∃ deputy ∈ deputies, value.looselyEqual deputy = true

instance (deputies values : List Json) : Decidable (StandFor deputies values) :=
  inferInstanceAs (Decidable (∀ value ∈ values, _))

end Json


/-! ## Tests for one of some values -/

namespace Predicate

open Json (StandFor)

theorem holds_oneOf {column : String} {values : List Json} {row : Row} :
    (oneOf column values).holds row = true ↔
      ∃ element ∈ Test.items (row.lookup column), ∃ value ∈ values, element.looselyEqual value = true := by
  rw [holds, Test.someValue_eq]
  simp only [List.any_eq_true]

/-- Some row holds just one element at a column. -/
theorem exists_row_of_element (column : String) (element : Json) :
    ∃ row : Row, Test.items (row.lookup column) = [element] := by
  refine ⟨Row.insert [] column (.arr [element]), ?_⟩
  rw [Row.lookup_insert_self]
  rfl

/-- Some values let every row through that others do exactly if they stand for the others. -/
theorem holds_oneOf_mono_iff (column : String) {deputies values : List Json} :
    (∀ row, (oneOf column values).holds row = true → (oneOf column deputies).holds row = true) ↔
      StandFor deputies values := by
  constructor
  · intro through value hvalue
    obtain ⟨row, hrow⟩ := exists_row_of_element column value
    have found := through row (holds_oneOf.mpr ⟨value, by simp [hrow], value, hvalue, value.looselyEqual_refl⟩)
    obtain ⟨element, helement, deputy, hdeputy, equal⟩ := holds_oneOf.mp found
    rw [hrow, List.mem_singleton] at helement
    exact ⟨deputy, hdeputy, helement ▸ equal⟩
  · intro stand row found
    obtain ⟨element, helement, value, hvalue, equal⟩ := holds_oneOf.mp found
    obtain ⟨deputy, hdeputy, equal'⟩ := stand value hvalue
    exact holds_oneOf.mpr ⟨element, helement, deputy, hdeputy, Json.looselyEqual_trans equal equal'⟩

/-- Two lists of values let the same rows through exactly if they stand for each other. -/
theorem holds_oneOf_eq_iff {column : String} {values others : List Json} :
    (∀ row, (oneOf column values).holds row = (oneOf column others).holds row) ↔
      StandFor values others ∧ StandFor others values := by
  rw [← holds_oneOf_mono_iff column, ← holds_oneOf_mono_iff column, ← forall_and]
  refine forall_congr' fun row => ?_
  rw [Bool.eq_iff_iff]
  exact iff_iff_implies_and_implies.trans and_comm

end Predicate

end DataGrid
