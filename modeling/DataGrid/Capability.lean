-- SUMMARY: What a field may be used for in a request.

/-!
# Capabilities

The closed set of capabilities that a field may grant. All but `show` are also
the kinds of clauses that a request may hold.
-/

namespace DataGrid

inductive Capability where
  | search
  | filter
  | range
  | sort
  | display
  deriving DecidableEq

namespace Capability

/-- The key of a request under which clauses of this kind stand. -/
def key : Capability → String
  | .search => "searchKeyword"
  | .filter => "filter"
  | .range => "range"
  | .sort => "sort"
  | .display => "show"

/-- The kinds of clauses, in the order in which they are checked. -/
def clauseKinds : List Capability := [.search, .filter, .range, .sort]

/-- Every capability, in the order of the clause kinds. -/
def every : List Capability := clauseKinds ++ [.display]

end Capability

end DataGrid
