-- SUMMARY: Selections of rows, and what a store can be asked.
import DataGrid.Error
import DataGrid.Predicate
import DataGrid.Row.Order

/-!
# Stores

A store holds rows in named collections. It counts the rows that satisfy a
predicate, and it finds a window of them in some order.
-/

namespace DataGrid

/-- Everything a store needs to know to find rows. -/
structure Selection where
  predicate : Predicate
  /-- The columns to return; whole rows if there are none given. -/
  projection : Option (List String)
  sort : List SortKey
  skip : Nat
  limit : Option Nat

namespace Selection

/-- All rows that satisfy a predicate, whole. -/
def whole (predicate : Predicate) : Selection where
  predicate
  projection := none
  sort := []
  skip := 0
  limit := none

/-- The window of some rows. -/
def window {α : Type} (skip : Nat) (limit : Option Nat) (rows : List α) : List α :=
  match limit with
  | some limit => (rows.drop skip).take limit
  | none => rows.drop skip

/-- The columns of a row that are returned. -/
def shape (selection : Selection) (row : Row) : Row :=
  match selection.projection with
  | some columns => row.project columns
  | none => row

end Selection

/-- A store as grids see it, answering in some monad. -/
structure Store (m : Type → Type) where
  count : String → Predicate → ExceptT GridError m Nat
  find : String → Selection → ExceptT GridError m (List Row)

/-- Only objects can be stored as rows. -/
def Row.ofJson : Json → Except InputFault Row
  | .obj members => .ok members
  | other => .error (.rowShape other)

end DataGrid
