-- SUMMARY: The values of elements and parameters by kind, and equality between them.
import Mathlib.Order.Compare
import DataGrid.Store.Sql.Condition

/-!
# Values of elements and parameters

An element of a document and a bound parameter become the same value, numbers
apart: those of a document are read from its text. Equality never holds with null
or across the border between numbers and texts.
-/

namespace DataGrid.Sql

namespace Value

@[simp] theorem ofParameter_null : ofParameter .null = .null := rfl

@[simp] theorem ofParameter_bool (b : Bool) : ofParameter (.bool b) = .int (if b then 1 else 0) := rfl

@[simp] theorem ofParameter_str (s : String) : ofParameter (.str s) = .text s := rfl

@[simp] theorem ofParameter_arr (items : List Json) : ofParameter (.arr items) = .text (Json.arr items).text := rfl

@[simp] theorem ofParameter_obj (members : List (String × Json)) :
    ofParameter (.obj members) = .text (Json.obj members).text := rfl

@[simp] theorem ofElement_null : ofElement .null = .null := rfl

@[simp] theorem ofElement_bool (b : Bool) : ofElement (.bool b) = .int (if b then 1 else 0) := rfl

@[simp] theorem ofElement_str (s : String) : ofElement (.str s) = .text s := rfl

@[simp] theorem ofElement_arr (items : List Json) : ofElement (.arr items) = .text (Json.arr items).text := rfl

@[simp] theorem ofElement_obj (members : List (String × Json)) :
    ofElement (.obj members) = .text (Json.obj members).text := rfl

/-- A number is an integer or a real, never null and never a text. -/
def IsNumber (value : Value) : Prop :=
  (∃ i, value = .int i) ∨ ∃ d, value = .real d

theorem isNumber_ofParameter (n : Number) : (ofParameter (.num n)).IsNumber := by
  cases n with
  | double d => exact .inr ⟨_, rfl⟩
  | int i =>
    by_cases fits : i ≤ Number.greatestSigned
    · exact .inl ⟨i, if_pos fits⟩
    · exact .inr ⟨_, if_neg fits⟩

theorem isNumber_ofElement (n : Number) : (ofElement (.num n)).IsNumber := by
  cases n with
  | double d => exact .inr ⟨_, rfl⟩
  | int i =>
    by_cases fits : i ≤ Number.greatestSigned
    · exact .inl ⟨i, if_pos fits⟩
    · exact .inr ⟨_, if_neg fits⟩

/-- Only null has no text. -/
theorem castText?_ofElement_eq_none {element : Json} : (ofElement element).castText? = none ↔ element = .null := by
  cases element with
  | num n => obtain ⟨i, h⟩ | ⟨d, h⟩ := isNumber_ofElement n <;> simp [h, castText?]
  | _ => simp [castText?]

end Value


/-! ## Equality -/

@[simp] theorem isEqual_null_left (v : Value) : isEqual .null v = false := by
  cases v <;> rfl

@[simp] theorem isEqual_null_right (v : Value) : isEqual v .null = false := by
  cases v <;> rfl

@[simp] theorem isEqual_text (s t : String) : isEqual (.text s) (.text t) = (s == t) := by
  rw [Bool.eq_iff_iff, isEqual, beq_iff_eq, beq_iff_eq, Value.order?, Option.some.injEq]
  exact Std.compare_eq_iff_eq

@[simp] theorem isEqual_int (i j : Int) : isEqual (.int i) (.int j) = (i == j) := by
  rw [Bool.eq_iff_iff, isEqual, beq_iff_eq, beq_iff_eq, Value.order?, Option.some.injEq]
  exact Std.compare_eq_iff_eq

theorem isEqual_of_isNumber_text {v : Value} (h : v.IsNumber) (s : String) : isEqual v (.text s) = false := by
  obtain ⟨i, rfl⟩ | ⟨d, rfl⟩ := h <;> rfl

theorem isEqual_of_text_isNumber {v : Value} (h : v.IsNumber) (s : String) : isEqual (.text s) v = false := by
  obtain ⟨i, rfl⟩ | ⟨d, rfl⟩ := h <;> rfl

@[simp] theorem isEqual_num_text (n : Number) (s : String) : isEqual (.ofElement (.num n)) (.text s) = false :=
  isEqual_of_isNumber_text (Value.isNumber_ofElement n) s

@[simp] theorem isEqual_text_num (s : String) (n : Number) : isEqual (.text s) (.ofParameter (.num n)) = false :=
  isEqual_of_text_isNumber (Value.isNumber_ofParameter n) s

@[simp] theorem isEqual_int_text (i : Int) (s : String) : isEqual (.int i) (.text s) = false := rfl

@[simp] theorem isEqual_text_int (s : String) (i : Int) : isEqual (.text s) (.int i) = false := rfl

end DataGrid.Sql
