-- SUMMARY: The one-to-one mapping between public fields and columns.
import DataGrid.Keyed

/-!
# Projections

A projection pairs public fields with columns. No field and no column occurs
twice, so it can be read in both directions.
-/

namespace DataGrid

/-- Pairs of a field and its column, ascending by field. -/
structure Projection where
  pairs : Keyed String

namespace Projection

def empty : Projection := ⟨[]⟩

/-- The column of a field. -/
def column? (p : Projection) (field : String) : Option String :=
  Keyed.get? p.pairs field

/-- The field of a column. -/
def field? (p : Projection) (column : String) : Option String :=
  (p.pairs.find? (·.2 = column)).map (·.1)

/-- Whether neither the field nor the column is taken. -/
def isFree (p : Projection) (field column : String) : Bool :=
  (p.column? field).isNone && (p.field? column).isNone

/-- Add a pair unless one of its sides is taken. -/
def insert (p : Projection) (field column : String) : Projection :=
  if p.isFree field column then ⟨Keyed.insert p.pairs field column⟩ else p

/-- Add a pair unless one of its sides is taken, and tell whether it was added. -/
def offer (p : Projection) (field column : String) : Bool × Projection :=
  (p.isFree field column, p.insert field column)

def ofPairs (pairs : List (String × String)) : Projection :=
  pairs.foldl (fun p (field, column) => p.insert field column) empty

/-- Add the pairs of another projection in the order of its fields, as far as they are free. -/
def extend (p other : Projection) : Projection :=
  other.pairs.foldl (fun p (field, column) => p.insert field column) p

/-- The columns, in the order of their fields. -/
def columns (p : Projection) : List String :=
  Keyed.values p.pairs

def size (p : Projection) : Nat :=
  p.pairs.length

end Projection

end DataGrid
