-- SUMMARY: Reading, writing, projecting, merging and erasing along dotted columns.
import DataGrid.Json.Basic
import DataGrid.Text.Name

/-!
# Paths into rows

A column is a path of keys through nested objects. Writing at a path makes the
objects on the way, and whatever else stands there gives way to them.
-/

namespace DataGrid.Row

/-- The value at a path of keys. -/
def at? (row : Row) : List String → Option Json
  | [] => none
  | [key] => Keyed.get? row key
  | key :: rest =>
    match Keyed.get? row key with
    | some (.obj child) => at? child rest
    | _ => none

/-- The value at a dotted column. -/
def lookup (row : Row) (column : String) : Option Json :=
  at? row (Text.segments column)

/-- The members of an object, none for anything else. -/
def membersOf : Option Json → Row
  | some (.obj child) => child
  | _ => []

/-- Write at a path of keys. -/
def insertAt (row : Row) : List String → Json → Row
  | [], _ => row
  | [key], value => Keyed.insert row key value
  | key :: rest, value => Keyed.insert row key (.obj (insertAt (membersOf (Keyed.get? row key)) rest value))

/-- Write at a dotted column. -/
def insert (row : Row) (column : String) (value : Json) : Row :=
  insertAt row (Text.segments column) value

/-- Keep the listed columns only. -/
def project (row : Row) (columns : List String) : Row :=
  columns.foldl (fun kept column =>
    match lookup row column with
    | some value => insert kept column value
    | none => kept) []

/-- Take out what stands at a path of keys. -/
def eraseAt (row : Row) : List String → Row
  | [] => row
  | [key] => Keyed.erase row key
  | key :: rest =>
    match Keyed.get? row key with
    | some (.obj child) => Keyed.insert row key (.obj (eraseAt child rest))
    | _ => row

/-- Take out what stands at a dotted column. -/
def erase (row : Row) (column : String) : Row :=
  eraseAt row (Text.segments column)

mutual

/-- Write every member of `source` into `target`, merging objects that stand on both sides. -/
def mergeInto (source target : Row) : Row :=
  match source with
  | [] => target
  | (key, value) :: rest => mergeInto rest (Keyed.insert target key (mergeValue value (Keyed.get? target key)))

/-- The value that an incoming one leaves behind in place of the one held so far. -/
def mergeValue (incoming : Json) (held : Option Json) : Json :=
  match incoming with
  | .obj source =>
    match held with
    | some (.obj target) => .obj (mergeInto source target)
    | _ => .obj source
  | value => value

end

/-- The row with every member of `source` written into it, objects on both sides merged. -/
def merge (target source : Row) : Row :=
  mergeInto source target

end DataGrid.Row
