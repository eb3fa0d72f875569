-- SUMMARY: The shape of a request: clauses by kind, page and limit.
import DataGrid.Error

/-!
# Requests

A request is an object of clauses, `{searchKeyword?, filter?, range?, sort?, page?, limit?}`.
Each clause is an object keyed by public field names. Only the shape is checked
here; null stands for a clause that is left out.
-/

namespace DataGrid

structure Request where
  search : Option Row
  filter : Option Row
  range : Option Row
  sort : Option Row
  page : Option Json
  limit : Option Json
  deriving DecidableEq

namespace Request

/-- Nothing asked for. -/
def empty : Request where
  search := none
  filter := none
  range := none
  sort := none
  page := none
  limit := none

/-- The entry of the search clause that is looked for in every searchable field. -/
def freeTextKey : String := "query"

def clauseOf (key : String) : Json → Except InputFault (Option Row)
  | .null => .ok none
  | .obj members => .ok (some members)
  | _ => .error (.clauseShape key)

def pageValueOf (key : String) : Json → Except InputFault (Option Json)
  | .null => .ok none
  | .num n => .ok (some (.num n))
  | .str s => .ok (some (.str s))
  | _ => .error (.pageShape key)

def read (request : Request) (key : String) (value : Json) : Except InputFault Request :=
  match key with
  | "searchKeyword" => (clauseOf key value).map fun search => { request with search }
  | "filter" => (clauseOf key value).map fun filter => { request with filter }
  | "range" => (clauseOf key value).map fun range => { request with range }
  | "sort" => (clauseOf key value).map fun sort => { request with sort }
  | "page" => (pageValueOf key value).map fun page => { request with page }
  | "limit" => (pageValueOf key value).map fun limit => { request with limit }
  | _ => .error (.unknownClause key)

def readAll (request : Request) : List (String × Json) → Except InputFault Request
  | [] => .ok request
  | (key, value) :: rest => (read request key value).bind (readAll · rest)

/-- Check the shape of a request. The first bad member in the order of the keys is refused. -/
def ofJson : Json → Except InputFault Request
  | .null => .ok empty
  | .obj members => readAll empty members
  | _ => .error .notAnObject

/-- The request as JSON, without what is left out. -/
def toJson (request : Request) : Json :=
  .obj (Json.given "filter" (request.filter.map .obj)
    ++ Json.given "limit" request.limit
    ++ Json.given "page" request.page
    ++ Json.given "range" (request.range.map .obj)
    ++ Json.given "searchKeyword" (request.search.map .obj)
    ++ Json.given "sort" (request.sort.map .obj))

/-- The clause of a kind. -/
def clause? (request : Request) : Capability → Option Row
  | .search => request.search
  | .filter => request.filter
  | .range => request.range
  | .sort => request.sort
  | .display => none

/-- The clauses that are present, in the order in which they are checked. -/
def clauses (request : Request) : List (Capability × Row) :=
  Capability.clauseKinds.filterMap fun kind => (request.clause? kind).map (kind, ·)

/-- The free text, if any is given. -/
def freeText? (request : Request) : Option Json :=
  request.search.bind (Keyed.get? · freeTextKey)

/-- The entries of a clause that are not under one of the names. -/
def strip (names : List String) (clause : Row) : Row :=
  clause.filter fun (key, _) => !names.contains key

/-- The request without the entries under some field names. -/
def without (request : Request) (names : List String) : Request :=
  { request with
    search := request.search.map (strip names)
    filter := request.filter.map (strip names)
    range := request.range.map (strip names)
    sort := request.sort.map (strip names) }

end Request

end DataGrid
