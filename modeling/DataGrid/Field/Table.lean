-- SUMMARY: The checked field table of one collection.
import DataGrid.Field.Basic
import DataGrid.Field.Projection

/-!
# Field tables

A field table holds the checked fields of a collection by name. Its columns are
pairwise distinct, and it is never empty.
-/

namespace DataGrid

structure FieldTable where
  fields : Keyed Field

namespace FieldTable

/-- Check descriptors in order, given the columns that are taken already. -/
def checkFields (taken : List String) : List (String × FieldDescriptor) → Except ConfigFault (Keyed Field)
  | [] => .ok []
  | (name, descriptor) :: rest => do
    let field ← Field.ofDescriptor name descriptor
    if field.column ∈ taken then throw (.columnTwice name field.column)
    let fields ← checkFields (field.column :: taken) rest
    return (name, field) :: fields

/-- Check the descriptors of a collection. -/
def ofDescriptors (descriptors : Keyed FieldDescriptor) : Except ConfigFault FieldTable := do
  let fields ← checkFields [] descriptors
  if fields.isEmpty then throw .noFields
  return ⟨fields⟩

def get? (table : FieldTable) (name : String) : Option Field :=
  Keyed.get? table.fields name

def contains (table : FieldTable) (name : String) : Bool :=
  Keyed.contains table.fields name

/-- The fields in the order of their names. -/
def toList (table : FieldTable) : List Field :=
  Keyed.values table.fields

/-- The shown fields in the order of their names. -/
def shown (table : FieldTable) : List Field :=
  table.toList.filter (·.shown)

/-- Each shown field with its column. -/
def projection (table : FieldTable) : Projection :=
  .ofPairs (table.shown.map fun field => (field.name, field.column))

/-- What callers are told about the fields. -/
def toPublic (table : FieldTable) : Keyed PublicField :=
  Keyed.mapValues Field.toPublic table.fields

end FieldTable

/-- The introspection answer for some fields. -/
def PublicField.tableToJson (fields : Keyed PublicField) : Json :=
  .obj (Keyed.mapValues PublicField.toJson fields)

end DataGrid
