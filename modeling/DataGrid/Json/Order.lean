-- SUMMARY: Comparing JSON values: loose equality, order within a kind, sorting order, join keys.
import DataGrid.Json.Printer

/-!
# Order of values

Values compare within their kind: numbers by value, texts by code points, truth
values with false first. Sorting ranks the kinds, and values of one kind that do
not compare count as equal there.
-/

namespace DataGrid.Json

/-- Equality for which `30` and `30.0` are one number. -/
def looselyEqual : Json → Json → Bool
  | .num a, .num b => a.sameValue b
  | a, b => a.same b

/-- Order of two numbers, two texts or two truth values. -/
def order? : Json → Json → Option Ordering
  | .num a, .num b => some (a.order b)
  | .str a, .str b => some (compare a b)
  | .bool a, .bool b => some (compare a b)
  | _, _ => none

/-- The place of a kind in sorting: missing and null, truth values, numbers, texts, lists, objects. -/
def kindRank : Option Json → Nat
  | none | some .null => 0
  | some (.bool _) => 1
  | some (.num _) => 2
  | some (.str _) => 3
  | some (.arr _) => 4
  | some (.obj _) => 5

/-- The order of sorting. -/
def sortOrder (a b : Option Json) : Ordering :=
  match a, b with
  | some x, some y => (order? x y).getD (compare (kindRank a) (kindRank b))
  | _, _ => compare (kindRank a) (kindRank b)

/-- The text under which a value joins: `7`, `7.0` and `"7"` all join as `7`. -/
def keyText : Json → String
  | .str s => s
  | .num n => n.keyText
  | other => other.text

end DataGrid.Json
