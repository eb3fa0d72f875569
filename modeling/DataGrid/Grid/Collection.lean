-- SUMMARY: One paginated query against a collection, run once.
import DataGrid.Grid.Join
import DataGrid.Request.Plan

/-!
# Collection grids

A collection grid answers one request from a store. The request is checked when
the grid is made; a bad one is refused when the page is fetched. A page is
counted first and then found, both with one predicate, and its joins are expanded.
-/

namespace DataGrid

/-- The rows of one page, and the window they were cut with. -/
structure Page where
  rows : List Row
  pagination : Pagination

structure CollectionGrid where
  collection : String
  request : Request
  plan : QueryPlan
  /-- Columns that are fetched besides those of shown fields. -/
  extraColumns : List String
  fetched : Bool

namespace CollectionGrid

def ofRequest (collection : String) (table : FieldTable) (request : Request) : CollectionGrid where
  collection
  request
  plan := .ofRequest table request
  extraColumns := []
  fetched := false

/-- Check the shape of a request and make a grid for it. -/
def ofJson (collection : String) (table : FieldTable) (body : Json) : Result CollectionGrid :=
  match Request.ofJson body with
  | .ok request => .ok (ofRequest collection table request)
  | .error fault => .error (.input fault)

def complaints (grid : CollectionGrid) : Complaints :=
  grid.plan.complaints

/-- Add constraints found elsewhere. -/
def constrain (grid : CollectionGrid) (filter query : Option Constraint) : CollectionGrid :=
  { grid with plan := grid.plan.constrain filter query }

/-- Fetch a column even if no shown field needs it. -/
def requireColumn (grid : CollectionGrid) (column : String) : CollectionGrid :=
  if column ∈ grid.extraColumns then grid else { grid with extraColumns := grid.extraColumns ++ [column] }

/-- The columns of the shown fields, and then the extra ones. -/
def columns (grid : CollectionGrid) : List String :=
  let shown := grid.plan.projection.columns
  shown ++ grid.extraColumns.filter (· ∉ shown)

/-- What the store is asked for. -/
def selection (grid : CollectionGrid) : Selection where
  predicate := grid.plan.predicate
  projection := some grid.columns
  sort := grid.plan.sortKeys
  skip := grid.plan.pagination.skip
  limit := some grid.plan.pagination.limit

variable {m : Type → Type} [Monad m]

/-- Count, find and expand one page. -/
def page (store : Store m) (grid : CollectionGrid) : ExceptT GridError m Page := do
  let total ← store.count grid.collection grid.plan.predicate
  let found ← store.find grid.collection grid.selection
  let rows := found.take grid.plan.pagination.limit
  let expanded ← Join.expandAll store grid.plan.table.shown rows
  return { rows := expanded, pagination := { grid.plan.pagination with total := max total rows.length } }

/-- Fetch the page. A grid fetches once, and not at all if its request has complaints. -/
def fetch (store : Store m) (grid : CollectionGrid) : ExceptT GridError m Page :=
  if grid.fetched then throw (.phase (.alreadyFetched grid.collection))
  else
    match grid.plan.rejection? with
    | some error => throw error
    | none => page store grid

/-- The grid after a fetch, whatever its outcome. -/
def spent (grid : CollectionGrid) : CollectionGrid :=
  { grid with fetched := true }

end CollectionGrid

end DataGrid
