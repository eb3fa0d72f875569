-- SUMMARY: Sort keys and the order of rows under them.
import DataGrid.Json.Order
import DataGrid.Row.Path

/-!
# Order of rows

Rows are ordered by their sort keys, the first key that tells them apart deciding.
-/

namespace DataGrid

inductive Direction where
  | ascending
  | descending
  deriving DecidableEq

namespace Direction

def text : Direction → String
  | .ascending => "ascending"
  | .descending => "descending"

def ofText? (s : String) : Option Direction :=
  if s = "ascending" then some .ascending
  else if s = "descending" then some .descending
  else none

/-- The order seen in this direction. -/
def apply : Direction → Ordering → Ordering
  | .ascending, o => o
  | .descending, o => o.swap

@[simp] theorem ofText?_text (d : Direction) : ofText? d.text = some d := by
  cases d <;> decide

end Direction

structure SortKey where
  column : String
  direction : Direction
  deriving DecidableEq

/-- The order of two rows by one key. -/
def SortKey.order (key : SortKey) (a b : Row) : Ordering :=
  key.direction.apply (Json.sortOrder (a.lookup key.column) (b.lookup key.column))

/-- The order of two rows by some keys. -/
def Row.order (keys : List SortKey) (a b : Row) : Ordering :=
  match keys with
  | [] => .eq
  | key :: rest => (key.order a b).then (Row.order rest a b)

end DataGrid
