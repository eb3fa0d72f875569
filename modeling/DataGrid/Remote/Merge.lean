-- SUMMARY: Merging the records of a remote into the rows of a page.
import DataGrid.Grid.Join

/-!
# Merging

Each row is merged with the record that its join value points to. A row with a
list of join values receives, for every member of the records found, the list of
that member's values.
-/

namespace DataGrid

/-- Renamed records by the key text they join on. -/
abbrev MergeData := Keyed Row

namespace MergeData

/-- Append a value to the list under a name. -/
def push (gathered : Row) (name : String) (value : Json) : Row :=
  match Keyed.get? gathered name with
  | some (.arr values) => Keyed.insert gathered name (.arr (values ++ [value]))
  | _ => Keyed.insert gathered name (.arr [value])

/-- For every member of some records, the list of its values. -/
def gather (records : List Row) : Row :=
  records.foldl (fun gathered record => record.foldl (fun gathered (name, value) => push gathered name value) gathered) []

/-- The record that a join value points to. -/
def find? (data : MergeData) (value : Json) : Option Row :=
  Keyed.get? data value.keyText

/-- Merge what a row's join value points to. -/
def mergeRow (data : MergeData) (column : String) (row : Row) : Row :=
  match row.lookup column with
  | some (.arr items) => row.merge (gather (items.filterMap data.find?))
  | some .null | none => row
  | some value =>
    match data.find? value with
    | some record => row.merge record
    | none => row

/-- Merge every row. -/
def mergeRows (data : MergeData) (column : String) (rows : List Row) : List Row :=
  rows.map (mergeRow data column)

end MergeData

end DataGrid
