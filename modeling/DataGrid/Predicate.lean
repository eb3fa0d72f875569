-- SUMMARY: Predicates on rows, their meaning, and the conjunctions and disjunctions that simplify.
import DataGrid.Json.Order
import DataGrid.Row.Path
import DataGrid.Text.Infix
import DataGrid.Text.Lowercase

/-!
# Predicates

A predicate tests the values at some columns of a row. A column that holds a
list passes a test when some element does, and a missing column passes none.
-/

namespace DataGrid

inductive Predicate where
  /-- Every row. -/
  | all
  /-- No row. -/
  | nothing
  | and (parts : List Predicate)
  | or (parts : List Predicate)
  | equal (column : String) (value : Json)
  | oneOf (column : String) (values : List Json)
  /-- The text of the column contains a text, whatever the case. -/
  | contains (column text : String)
  /-- Both ends belong to the range. -/
  | between (column : String) (least greatest : Json)

namespace Predicate

instance : Inhabited Predicate := ⟨.all⟩

/-- Some value at the column passes the test. -/
def someValue (test : Json → Bool) : Option Json → Bool
  | none => false
  | some (.arr items) => items.any test
  | some value => test value

/-- The text that a text search looks at. -/
def searchText? : Json → Option String
  | .str s => some s
  | .num n => some n.text
  | .bool true => some "true"
  | .bool false => some "false"
  | _ => none

/-- The text of a value contains a text, both in lower case. -/
def containsText (needle : String) (value : Json) : Bool :=
  match searchText? value with
  | some text => Text.occurs (Text.lowerChars needle.toList) (Text.lowerChars text.toList)
  | none => false

/-- The value lies between two bounds of its kind. -/
def isBetween (least greatest value : Json) : Bool :=
  (value.order? least).any (·.isGE) && (value.order? greatest).any (·.isLE)

mutual

/-- Whether a row satisfies the predicate. -/
def holds : Predicate → Row → Bool
  | .all, _ => true
  | .nothing, _ => false
  | .and parts, row => holdsAll parts row
  | .or parts, row => holdsAny parts row
  | .equal column value, row => someValue (·.looselyEqual value) (row.lookup column)
  | .oneOf column values, row => someValue (fun v => values.any v.looselyEqual) (row.lookup column)
  | .contains column text, row => someValue (containsText text) (row.lookup column)
  | .between column least greatest, row => someValue (isBetween least greatest) (row.lookup column)

def holdsAll : List Predicate → Row → Bool
  | [], _ => true
  | p :: rest, row => holds p row && holdsAll rest row

def holdsAny : List Predicate → Row → Bool
  | [], _ => false
  | p :: rest, row => holds p row || holdsAny rest row

end

@[simp] theorem holdsAll_eq (parts : List Predicate) (row : Row) : holdsAll parts row = parts.all (holds · row) := by
  induction parts with
  | nil => simp [holdsAll]
  | cons p rest ih => simp [holdsAll, ih]

@[simp] theorem holdsAny_eq (parts : List Predicate) (row : Row) : holdsAny parts row = parts.any (holds · row) := by
  induction parts with
  | nil => simp [holdsAny]
  | cons p rest ih => simp [holdsAny, ih]

def isAll : Predicate → Bool
  | .all => true
  | _ => false

def isNothing : Predicate → Bool
  | .nothing => true
  | _ => false

/-- The conjunction of some predicates, without superfluous parts. -/
def conjunction (parts : List Predicate) : Predicate :=
  let parts := parts.filter (!·.isAll)
  if parts.any isNothing then .nothing
  else
    match parts with
    | [] => .all
    | [part] => part
    | parts => .and parts

/-- The disjunction of some predicates, without superfluous parts. -/
def disjunction (parts : List Predicate) : Predicate :=
  let parts := parts.filter (!·.isNothing)
  if parts.any isAll then .all
  else
    match parts with
    | [] => .nothing
    | [part] => part
    | parts => .or parts

end Predicate

end DataGrid
