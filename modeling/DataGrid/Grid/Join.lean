-- SUMMARY: Join values, records looked up by them, and the expansion of ids into records.
import DataGrid.Field.Basic
import DataGrid.Store.Basic

/-!
# Joins

A column joins by its value, a list by each of its elements. Values are looked
up by their key texts. Expanding a field replaces the ids it holds by the records
of another collection.
-/

namespace DataGrid

namespace Join

/-- The values by which a column joins. -/
def values : Option Json → List Json
  | some (.arr items) => items
  | some .null | none => []
  | some value => [value]

/-- The values whose key texts are not among those seen, the first of each key text. -/
def distinctFrom (seen : List String) : List Json → List Json
  | [] => []
  | value :: rest =>
    if value.keyText ∈ seen then distinctFrom seen rest
    else value :: distinctFrom (value.keyText :: seen) rest

/-- The values with pairwise distinct key texts, the first of each. -/
def distinct (values : List Json) : List Json :=
  distinctFrom [] values

/-- The distinct values by which a column of some rows joins. -/
def keys (rows : List Row) (column : String) : List Json :=
  distinct (rows.flatMap fun row => values (row.lookup column))

/-- Records by the key text of a column; of records with one key text the last stays. -/
def index (records : List Row) (column : String) : Keyed Row :=
  records.foldl (fun byKey record =>
    match record.lookup column with
    | some value => Keyed.insert byKey value.keyText record
    | none => byKey) []

/-- The record that a value joins. -/
def resolve (byKey : Keyed Row) (value : Json) : Option Json :=
  (Keyed.get? byKey value.keyText).map .obj

/-- What the ids at a column expand to: a list keeps the records that exist, a single id without one becomes null. -/
def expansion? (byKey : Keyed Row) : Option Json → Option Json
  | some (.arr items) => some (.arr (items.filterMap (resolve byKey)))
  | some .null | none => none
  | some value => some ((resolve byKey value).getD .null)

/-- Expand a field of a row. -/
def expandRow (field : Field) (byKey : Keyed Row) (row : Row) : Row :=
  match expansion? byKey (row.lookup field.column) with
  | some expanded => row.insert field.source expanded
  | none => row

/-- The columns of the other collection that an expansion needs; all of them if the join lists none. -/
def columns? (join : JoinDescriptor) : Option (List String) :=
  if join.fields.isEmpty then none else some (join.fields ++ join.exclude ++ [join.keyColumn]).eraseDups

/-- The records of the other collection that the ids name. -/
def selection (join : JoinDescriptor) (keys : List Json) : Selection :=
  { Selection.whole (.oneOf join.keyColumn keys) with projection := columns? join }

variable {m : Type → Type} [Monad m]

/-- Expand a field of all rows. -/
def expand (store : Store m) (field : Field) (join : JoinDescriptor) (rows : List Row) : ExceptT GridError m (List Row) :=
  match keys rows field.column with
  | [] => pure rows
  | keys => do
    let records ← store.find join.model (selection join keys)
    return rows.map (expandRow field (index records join.keyColumn))

/-- Expand some fields of all rows, one after the other. -/
def expandAll (store : Store m) : List Field → List Row → ExceptT GridError m (List Row)
  | [], rows => pure rows
  | field :: rest, rows =>
    match field.join with
    | some join => do
      let rows ← expand store field join rows
      expandAll store rest rows
    | none => expandAll store rest rows

end Join

end DataGrid
