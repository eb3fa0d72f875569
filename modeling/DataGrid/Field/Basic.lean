-- SUMMARY: Fields as authored and as checked, and the joins that expand them.
import DataGrid.Error
import DataGrid.Text.Blank
import DataGrid.Text.Name

/-!
# Fields

A field is authored as a loose descriptor and checked once. Checking fills the
defaults: a field is shown and grants nothing else, and its column and display
name are its own name.
-/

namespace DataGrid

/-- Expansion of a field that holds ids of another collection's records. -/
structure JoinDescriptor where
  model : String
  /-- The column under which the records go; the field's own column if absent. -/
  destination : Option String
  /-- The columns kept of a record, all if empty. -/
  fields : List String
  /-- The columns left out of the output. -/
  exclude : List String
  /-- The column that holds the ids in the other collection. -/
  key : Option String
  deriving DecidableEq

/-- The column that holds the ids in the other collection. -/
def JoinDescriptor.keyColumn (join : JoinDescriptor) : String :=
  join.key.getD "id"

/-- A field as authored; everything may be left out. -/
structure FieldDescriptor where
  databaseName : Option String
  displayName : Option String
  shown : Option Bool
  searchable : Option Bool
  filterable : Option Bool
  rangeable : Option Bool
  sortable : Option Bool
  join : Option JoinDescriptor
  deriving DecidableEq

namespace FieldDescriptor

/-- Nothing given. -/
def empty : FieldDescriptor where
  databaseName := none
  displayName := none
  shown := none
  searchable := none
  filterable := none
  rangeable := none
  sortable := none
  join := none

end FieldDescriptor

/-- What callers are told about a field. -/
structure PublicField where
  displayName : String
  shown : Bool
  searchable : Bool
  filterable : Bool
  rangeable : Bool
  sortable : Bool
  deriving DecidableEq

def PublicField.toJson (field : PublicField) : Json :=
  .obj [
    ("displayName", .str field.displayName),
    ("filter", .bool field.filterable),
    ("range", .bool field.rangeable),
    ("search", .bool field.searchable),
    ("show", .bool field.shown),
    ("sort", .bool field.sortable)]

/-- A checked field. -/
structure Field where
  name : String
  column : String
  displayName : String
  shown : Bool
  searchable : Bool
  filterable : Bool
  rangeable : Bool
  sortable : Bool
  join : Option JoinDescriptor
  deriving DecidableEq

namespace Field

/-- The faults of a join: its model first, then its destination and key, then its columns in order. -/
def checkJoin (name : String) (join : JoinDescriptor) : Except ConfigFault Unit :=
  if !Text.isIdentifier join.model then .error (.joinModel name join.model)
  else if !(join.destination.all Text.isColumnPath && Text.isColumnPath join.keyColumn) then .error (.malformedJoin name)
  else
    match (join.fields ++ join.exclude).find? (!Text.isColumnPath ·) with
    | some column => .error (.joinColumn name column)
    | none => .ok ()

/-- Check a descriptor and fill its defaults. -/
def ofDescriptor (name : String) (descriptor : FieldDescriptor) : Except ConfigFault Field := do
  let column := descriptor.databaseName.getD name
  if Text.isBlank name then throw .blankFieldName
  if !Text.isColumnPath column then throw (.notAColumn name column)
  match descriptor.join with
  | some join => checkJoin name join
  | none => pure ()
  return {
    name, column
    displayName := descriptor.displayName.getD name
    shown := descriptor.shown.getD true
    searchable := descriptor.searchable.getD false
    filterable := descriptor.filterable.getD false
    rangeable := descriptor.rangeable.getD false
    sortable := descriptor.sortable.getD false
    join := descriptor.join }

/-- Whether the field grants a capability. -/
def grants (field : Field) : Capability → Bool
  | .search => field.searchable
  | .filter => field.filterable
  | .range => field.rangeable
  | .sort => field.sortable
  | .display => field.shown

/-- Where a fetched row holds the field: at the destination of its join, or else at its column. -/
def source (field : Field) : String :=
  (field.join.bind (·.destination)).getD field.column

def toPublic (field : Field) : PublicField where
  displayName := field.displayName
  shown := field.shown
  searchable := field.searchable
  filterable := field.filterable
  rangeable := field.rangeable
  sortable := field.sortable

end Field

end DataGrid
