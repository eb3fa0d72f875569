-- SUMMARY: From a request to a predicate, sort keys and a page.
import DataGrid.Predicate
import DataGrid.Request.Clause
import DataGrid.Request.Pagination

/-!
# Query plans

A plan checks every clause of a request and gathers the fragments as criteria
and the complaints by field; any complaint refuses the request. Constraints that
are found elsewhere can be added before the predicate is rendered.
-/

namespace DataGrid

/-- Fragments keyed by column, in parallel lists. -/
structure Criteria where
  /-- Named search terms, all of which must hold. -/
  search : List (String × Json)
  /-- Whether the request has a free text at all. -/
  freeText : Bool
  /-- Where the free text is looked for; one hit suffices. -/
  query : List (String × String)
  /-- Keys that remotes found for the free text, further alternatives to `query`. -/
  queryKeys : List (String × List Json)
  filters : List (String × List Json)
  range : List (String × Bounds)
  sort : List (String × Direction)
  deriving DecidableEq

namespace Criteria

def empty : Criteria where
  search := []
  freeText := false
  query := []
  queryKeys := []
  filters := []
  range := []
  sort := []

/-- Whether nothing restricts the rows. Sorting does not. -/
def isEmpty (c : Criteria) : Bool :=
  c.search.isEmpty && !c.freeText && c.query.isEmpty && c.queryKeys.isEmpty && c.filters.isEmpty && c.range.isEmpty

/-- Take in the fragments of a clause. -/
def absorb (c : Criteria) : Clause → Criteria
  | .search terms query freeText =>
    { c with search := c.search ++ terms, query := c.query ++ query, freeText := c.freeText || freeText }
  | .filter fragments => { c with filters := c.filters ++ fragments }
  | .range fragments => { c with range := c.range ++ fragments }
  | .sort fragments => { c with sort := c.sort ++ fragments }

/-- The places where the free text may be found. -/
def alternatives (c : Criteria) : List Predicate :=
  c.query.map (fun (column, text) => .contains column text)
    ++ c.queryKeys.map fun (column, keys) => .oneOf column keys

/-- A named search term: a text is contained, anything else is equal. -/
def termPredicate (column : String) : Json → Predicate
  | .str text => .contains column text
  | value => .equal column value

/-- The predicates that must all hold. -/
def parts (c : Criteria) : List Predicate :=
  (if c.freeText || !c.queryKeys.isEmpty then [.disjunction c.alternatives] else [])
    ++ c.search.map (fun (column, value) => termPredicate column value)
    ++ c.filters.map (fun (column, values) => .oneOf column values)
    ++ c.range.map fun (column, bounds) => .between column bounds.least bounds.greatest

def predicate (c : Criteria) : Predicate :=
  .conjunction c.parts

def sortKeys (c : Criteria) : List SortKey :=
  c.sort.map fun (column, direction) => ⟨column, direction⟩

end Criteria

/-- A constraint found elsewhere: the column holds one of the keys. -/
structure Constraint where
  column : String
  keys : List Json

structure QueryPlan where
  table : FieldTable
  criteria : Criteria
  complaints : Complaints
  pagination : Pagination

namespace QueryPlan

/-- Check one clause. -/
def takeClause (plan : QueryPlan) (kind : Capability) (entries : Row) : QueryPlan :=
  match Clause.check plan.table kind entries with
  | .ok clause => { plan with criteria := plan.criteria.absorb clause }
  | .error complaints => { plan with complaints := plan.complaints.merge complaints }

/-- Check a request. The page is resolved whether or not there are complaints. -/
def ofRequest (table : FieldTable) (request : Request) : QueryPlan :=
  let choice := (PageChoice.initial.takeLimit request.limit).takePage request.page
  request.clauses.foldl (fun plan (kind, entries) => plan.takeClause kind entries)
    { table, criteria := .empty, complaints := [], pagination := .window choice.limit choice.page }

def isValid (plan : QueryPlan) : Bool :=
  plan.complaints.isEmpty

/-- The rejection of the request, if there are complaints. -/
def rejection? (plan : QueryPlan) : Option GridError :=
  if plan.isValid then none else some (.rejected plan.complaints)

/-- Add constraints found elsewhere: `filter` must hold, `query` is one more place for the free text. -/
def constrain (plan : QueryPlan) (filter query : Option Constraint) : QueryPlan :=
  let keyed (c : Option Constraint) : List (String × List Json) := (c.map fun c => (c.column, c.keys)).toList
  { plan with criteria := { plan.criteria with
      filters := plan.criteria.filters ++ keyed filter
      queryKeys := plan.criteria.queryKeys ++ keyed query } }

def predicate (plan : QueryPlan) : Predicate :=
  plan.criteria.predicate

def sortKeys (plan : QueryPlan) : List SortKey :=
  plan.criteria.sortKeys

/-- Each shown field with its column. -/
def projection (plan : QueryPlan) : Projection :=
  plan.table.projection

end QueryPlan

end DataGrid
