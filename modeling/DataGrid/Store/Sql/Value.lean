-- SUMMARY: The values of the query language, their storage classes, order, and casts to text.
import DataGrid.Json.Printer
import DataGrid.Store.Sql.Real

/-!
# SQL values

A value is null, an integer, a real or a text. Truth values are the integers 1
and 0, lists and objects are their compact text. Nothing compares with null;
numbers compare exactly and precede every text.
-/

namespace DataGrid.Sql

inductive Value where
  | null
  | int (value : Int)
  | real (value : Double)
  | text (value : String)
  deriving DecidableEq

namespace Value

/-- The value of a bound parameter. An integer beyond 64 signed bits is a real. -/
def ofParameter : Json → Value
  | .null => .null
  | .bool b => .int (if b then 1 else 0)
  | .num (.int i) => if i ≤ Number.greatestSigned then .int i else .real (.ofInt i)
  | .num (.double d) => .real d
  | .str s => .text s
  | other => .text other.text

/-- The value of an element of a document, where reals are read from the text of the document. -/
def ofElement : Json → Value
  | .num (.int i) => if i ≤ Number.greatestSigned then .int i else .real (Real.ofNumber (.int i))
  | .num (.double d) => .real (Real.ofNumber (.double d))
  | other => ofParameter other

/-- The order of two values that are not null. -/
def order? : Value → Value → Option Ordering
  | .null, _ | _, .null => none
  | .int a, .int b => some (compare a b)
  | .int a, .real b => some (b.orderInt a).swap
  | .real a, .int b => some (a.orderInt b)
  | .real a, .real b => some (a.order b)
  | .text a, .text b => some (compare a b)
  | .text _, _ => some .gt
  | _, .text _ => some .lt

/-- The order of sorting, in which null comes first. -/
def sortOrder : Value → Value → Ordering
  | .null, .null => .eq
  | .null, _ => .lt
  | _, .null => .gt
  | a, b => (a.order? b).getD .eq

/-- The cast to text; null stays null. -/
def castText? : Value → Option String
  | .null => none
  | .int i => some (toString i)
  | .real d => some (Real.castText d)
  | .text s => some s

end Value

end DataGrid.Sql
