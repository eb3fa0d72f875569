-- SUMMARY: Predicates as trees of tests, and the elements on which a test comes out alike in both stores.
import DataGrid.Proofs.Predicate
import DataGrid.Proofs.Sql.Like
import DataGrid.Proofs.Sql.Value

/-!
# Tests on elements

Both stores evaluate a predicate as a tree of tests on the elements of columns.
They differ in what the elements of an object are and in how an element compares
with a parameter. An element passes a test alike where their kinds, or else their
values, leave no room for that.
-/

namespace DataGrid

/-- A test of the elements of a column. -/
inductive Test where
  | equal (value : Json)
  | oneOf (values : List Json)
  | contains (text : String)
  | between (least greatest : Json)

namespace Test

/-- The predicate that tests a column. -/
def on (column : String) : Test → Predicate
  | .equal value => .equal column value
  | .oneOf values => .oneOf column values
  | .contains text => .contains column text
  | .between least greatest => .between column least greatest

/-- Whether an element passes the test in memory. -/
def passes : Test → Json → Bool
  | .equal value => (·.looselyEqual value)
  | .oneOf values => fun v => values.any v.looselyEqual
  | .contains text => Predicate.containsText text
  | .between least greatest => Predicate.isBetween least greatest

/-- Whether an element passes the test under SQL. -/
def passesSql (test : Test) (element : Json) : Bool :=
  match test with
  | .equal value => Sql.isEqual (.ofElement element) (.ofParameter value)
  | .oneOf values => values.any fun value => Sql.isEqual (.ofElement element) (.ofParameter value)
  | .contains text => Sql.containsText text (.ofElement element)
  | .between least greatest => Sql.isBetween (.ofParameter least) (.ofParameter greatest) (.ofElement element)

/-- The elements of a column in memory: those of a list, or else the value itself. -/
def items : Option Json → List Json
  | none => []
  | some (.arr items) => items
  | some value => [value]

/-- The elements of a column under SQL: those of a list, the values of an object, or else the value itself. -/
def itemsSql : Option Json → List Json
  | none => []
  | some (.arr items) => items
  | some (.obj members) => Keyed.values members
  | some value => [value]

theorem someValue_eq (test : Json → Bool) (found : Option Json) :
    Predicate.someValue test found = (items found).any test := by
  cases found with
  | none => rfl
  | some value => cases value <;> simp [Predicate.someValue, items]

theorem elements_eq (found : Option Json) : Sql.elements found = (itemsSql found).map .ofElement := by
  cases found with
  | none => rfl
  | some value => cases value <;> rfl

theorem holds_on (test : Test) (column : String) (row : Row) :
    (test.on column).holds row = (items (row.lookup column)).any test.passes := by
  cases test <;> simp only [on, Predicate.holds, someValue_eq] <;> rfl

theorem sqlHolds_on (test : Test) (column : String) (row : Row) :
    Sql.holds (test.on column) row = (itemsSql (row.lookup column)).any test.passesSql := by
  cases test <;> simp only [on, Sql.holds, elements_eq, List.any_map] <;> rfl


/-! ## Agreement on an element -/

/-- An element equals a parameter alike in both stores. Null equals null in memory only. Numbers must be equal as doubles
exactly where they are equal as SQL reads them, and lists or objects where their texts are. Values of two other kinds are
never equal in memory; under SQL `1` is `true`, and a text may be the text of a list or an object. -/
def agreesEqual (value element : Json) : Bool :=
  match element, value with
  | .null, .null => false
  | .num n, .num m => n.sameValue m == Sql.isEqual (.ofElement (.num n)) (.ofParameter (.num m))
  | .bool _, .num _ | .num _, .bool _ => !Sql.isEqual (.ofElement element) (.ofParameter value)
  | .arr _, .arr _ | .arr _, .obj _ | .obj _, .arr _ | .obj _, .obj _ =>
    element.same value == (element.text == value.text)
  | .str s, .arr _ | .str s, .obj _ => s != value.text
  | .arr _, .str s | .obj _, .str s => element.text != s
  | _, _ => true

/-- An element lies in a range alike in both stores. Texts compare in one way, and truth values too. Numbers must lie in
the range as doubles exactly where they do as SQL reads them. An element of another kind than the bounds is in no range
in memory, and must be in none under SQL. -/
def agreesBetween (least greatest element : Json) : Bool :=
  match element, least, greatest with
  | .str _, .str _, .str _ | .bool _, .bool _, .bool _ => true
  | .num n, .num l, .num g =>
    ((n.order l).isGE && (n.order g).isLE) ==
      Sql.isBetween (.ofParameter (.num l)) (.ofParameter (.num g)) (.ofElement (.num n))
  | _, _, _ => !Sql.isBetween (.ofParameter least) (.ofParameter greatest) (.ofElement element)

/-- An element contains a text alike in both stores. The text in lower case must occur in what memory searches, in full
lower case, exactly where it is found in what SQL searches, in ASCII lower case. A list or an object inside a list has a
text under SQL only. -/
def agreesContains (needle : String) (element : Json) : Bool :=
  let sought := Text.lowerChars needle.toList
  match Predicate.searchText? element, (Sql.Value.ofElement element).castText? with
  | some searched, some cast =>
    Text.occurs sought (Text.lowerChars searched.toList) == Sql.Like.finds sought (Text.asciiLower cast).toList
  | none, some cast => !Sql.Like.finds sought (Text.asciiLower cast).toList
  | _, none => true

/-- An element passes a test alike in both stores, and where it is compared with several values, each of them. -/
def agreesOn : Test → Json → Bool
  | .equal value, element => agreesEqual value element
  | .oneOf values, element => values.all (agreesEqual · element)
  | .contains text, element => agreesContains text element
  | .between least greatest, element => agreesBetween least greatest element

/-- A test that compares an element with at most one value. -/
def isSingle : Test → Bool
  | .oneOf values => values.length ≤ 1
  | .equal _ | .contains _ | .between .. => true

private theorem any_congr {α : Type} {list : List α} {p q : α → Bool} (h : ∀ a ∈ list, p a = q a) :
    list.any p = list.any q := by
  rw [Bool.eq_iff_iff, List.any_eq_true, List.any_eq_true]
  refine exists_congr fun a => and_congr_right fun ha => ?_
  rw [h a ha]

section

variable {value element : Json}

theorem agreesEqual_iff :
    agreesEqual value element = true ↔
      element.looselyEqual value = Sql.isEqual (.ofElement element) (.ofParameter value) := by
  cases element with
  | null => cases value <;> simp [agreesEqual, Json.looselyEqual, Json.same]
  | bool a =>
    cases value with
    | bool b => cases a <;> cases b <;> decide
    | _ => simp [agreesEqual, Json.looselyEqual, Json.same]
  | num n => cases value <;> simp [agreesEqual, Json.looselyEqual, Json.same]
  | str s => cases value <;> simp [agreesEqual, Json.looselyEqual, Json.same]
  | arr items => cases value <;> simp [agreesEqual, Json.looselyEqual, Json.same]
  | obj members => cases value <;> simp [agreesEqual, Json.looselyEqual, Json.same]

theorem agreesBetween_iff {least greatest : Json} :
    agreesBetween least greatest element = true ↔
      Predicate.isBetween least greatest element =
        Sql.isBetween (.ofParameter least) (.ofParameter greatest) (.ofElement element) := by
  unfold agreesBetween
  split
  · simp [Predicate.isBetween, Json.order?, Sql.isBetween, Sql.Value.order?]
  · next b l g => cases b <;> cases l <;> cases g <;> decide
  · simp [Predicate.isBetween, Json.order?]
  · next texts truths numbers =>
    have outside : Predicate.isBetween least greatest element = false := by
      cases element <;> cases least <;> cases greatest <;> simp_all [Predicate.isBetween, Json.order?]
    rw [outside, Bool.not_eq_true', eq_comm]

theorem agreesContains_iff {needle : String} :
    agreesContains needle element = true ↔
      Predicate.containsText needle element = Sql.containsText needle (.ofElement element) := by
  unfold agreesContains Predicate.containsText Sql.containsText
  cases hsearched : Predicate.searchText? element with
  | none => cases (Sql.Value.ofElement element).castText? <;> simp [Sql.Like.isMatch_containing, @eq_comm _ false]
  | some searched =>
    cases hcast : (Sql.Value.ofElement element).castText? with
    | some cast => simp [Sql.Like.isMatch_containing]
    | none =>
      -- Only null has no text, and nothing is searched in it.
      rw [Sql.Value.castText?_ofElement_eq_none] at hcast
      subst hcast
      cases hsearched

/-- Where an element agrees, it passes the test alike. -/
theorem passes_eq {test : Test} (h : test.agreesOn element = true) : test.passes element = test.passesSql element := by
  cases test with
  | equal value => exact agreesEqual_iff.mp h
  | contains text => exact agreesContains_iff.mp h
  | between least greatest => exact agreesBetween_iff.mp h
  | oneOf values =>
    rw [agreesOn, List.all_eq_true] at h
    exact any_congr fun value hvalue => agreesEqual_iff.mp (h value hvalue)

/-- Where a test that compares with at most one value passes an element alike, the element agrees. -/
theorem agreesOn_of_passes_eq {test : Test} (single : test.isSingle = true)
    (h : test.passes element = test.passesSql element) : test.agreesOn element = true := by
  cases test with
  | equal value => exact agreesEqual_iff.mpr h
  | contains text => exact agreesContains_iff.mpr h
  | between least greatest => exact agreesBetween_iff.mpr h
  | oneOf values =>
    match values with
    | [] => rfl
    | [value] =>
      simp only [agreesOn, List.all_cons, List.all_nil, Bool.and_true, agreesEqual_iff]
      simpa [passes, passesSql] using h
    | _ :: _ :: _ => simp [isSingle] at single

end


/-! ## Agreement on a column -/

/-- The elements of a column pass a test alike. In memory an object counts as itself, under SQL as its values. -/
def agrees (test : Test) : Option Json → Bool
  | none => true
  | some (.arr items) => items.all test.agreesOn
  | some (.obj members) => test.passes (.obj members) == (Keyed.values members).any test.passesSql
  | some element => test.agreesOn element

/-- A column that does not hold several elements. -/
def isLone : Option Json → Bool
  | some (.arr items) => items.length ≤ 1
  | _ => true

/-- Where a column agrees, its rows pass the test alike. -/
theorem holds_eq {test : Test} {column : String} {row : Row} (h : test.agrees (row.lookup column) = true) :
    (test.on column).holds row = Sql.holds (test.on column) row := by
  rw [holds_on, sqlHolds_on]
  cases hfound : row.lookup column with
  | none => rfl
  | some found =>
    rw [hfound] at h
    cases found with
    | arr list =>
      rw [agrees, List.all_eq_true] at h
      exact any_congr fun element helement => passes_eq (h element helement)
    | obj members => simpa [agrees, items, itemsSql] using h
    | _ => simpa [items, itemsSql] using passes_eq h

/-- Where a row passes a test alike that compares with at most one value, a column without several elements agrees. -/
theorem agrees_of_holds_eq {test : Test} {column : String} {row : Row} (single : test.isSingle = true)
    (lone : isLone (row.lookup column) = true)
    (h : (test.on column).holds row = Sql.holds (test.on column) row) : test.agrees (row.lookup column) = true := by
  rw [holds_on, sqlHolds_on] at h
  cases hfound : row.lookup column with
  | none => rfl
  | some found =>
    rw [hfound] at h lone
    cases found with
    | arr list =>
      match list with
      | [] => rfl
      | [element] => simpa [agrees] using agreesOn_of_passes_eq single (by simpa [items, itemsSql] using h)
      | _ :: _ :: _ => simp [isLone] at lone
    | obj members => simpa [agrees, items, itemsSql] using h
    | _ => exact agreesOn_of_passes_eq single (by simpa [items, itemsSql] using h)

end Test


/-! ## The tests of a predicate -/

namespace Predicate

mutual

/-- The tests of a predicate with their columns. -/
def tests : Predicate → List (String × Test)
  | .all | .nothing => []
  | .and parts | .or parts => testsOf parts
  | .equal column value => [(column, .equal value)]
  | .oneOf column values => [(column, .oneOf values)]
  | .contains column text => [(column, .contains text)]
  | .between column least greatest => [(column, .between least greatest)]

def testsOf : List Predicate → List (String × Test)
  | [] => []
  | p :: rest => tests p ++ testsOf rest

end

theorem mem_testsOf {t : String × Test} {parts : List Predicate} : t ∈ testsOf parts ↔ ∃ p ∈ parts, t ∈ p.tests := by
  induction parts with
  | nil => simp [testsOf]
  | cons p rest ih => simp [testsOf, ih]

mutual

/-- A row satisfies a predicate alike where it passes each test of it alike. -/
theorem holds_congr {row : Row} : (p : Predicate) →
    (∀ t ∈ p.tests, (t.2.on t.1).holds row = Sql.holds (t.2.on t.1) row) → p.holds row = Sql.holds p row
  | .all, _ => by rw [holds, Sql.holds]
  | .nothing, _ => by rw [holds, Sql.holds]
  | .equal column value, h => h (column, .equal value) (by simp [tests])
  | .oneOf column values, h => h (column, .oneOf values) (by simp [tests])
  | .contains column text, h => h (column, .contains text) (by simp [tests])
  | .between column least greatest, h => h (column, .between least greatest) (by simp [tests])
  | .and parts, h => by
    rw [holds, Sql.holds]
    exact holdsAll_congr parts (by simpa only [tests] using h)
  | .or parts, h => by
    rw [holds, Sql.holds]
    exact holdsAny_congr parts (by simpa only [tests] using h)

private theorem holdsAll_congr {row : Row} : (parts : List Predicate) →
    (∀ t ∈ testsOf parts, (t.2.on t.1).holds row = Sql.holds (t.2.on t.1) row) →
      holdsAll parts row = Sql.holdsAll parts row
  | [], _ => rfl
  | p :: rest, h => by
    rw [testsOf] at h
    have first := holds_congr p fun t ht => h t (List.mem_append_left _ ht)
    have others := holdsAll_congr rest fun t ht => h t (List.mem_append_right _ ht)
    rw [holdsAll, Sql.holdsAll, first, others]

private theorem holdsAny_congr {row : Row} : (parts : List Predicate) →
    (∀ t ∈ testsOf parts, (t.2.on t.1).holds row = Sql.holds (t.2.on t.1) row) →
      holdsAny parts row = Sql.holdsAny parts row
  | [], _ => rfl
  | p :: rest, h => by
    rw [testsOf] at h
    have first := holds_congr p fun t ht => h t (List.mem_append_left _ ht)
    have others := holdsAny_congr rest fun t ht => h t (List.mem_append_right _ ht)
    rw [holdsAny, Sql.holdsAny, first, others]

end

end Predicate

end DataGrid
