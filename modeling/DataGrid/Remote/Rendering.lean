-- SUMMARY: The requests that a remote is sent for its share of a request.
import DataGrid.Remote.Definition
import DataGrid.Request.Clause

/-!
# Rendering

A remote is sent the entries of the clauses that it answers for, under its own
names. Free text goes into a body of its own, because a remote demands everything
in one body at once, while locally the text is only one alternative. Entries that
do not stand up to the remote's fields are complained about instead.
-/

namespace DataGrid

/-- What a call is made for, which decides how its records are used. -/
inductive CallShape where
  /-- Named entries, all of which must hold. -/
  | exact
  /-- The free text alone. -/
  | freeText
  deriving DecidableEq

/-- The bodies that a remote is sent, or the complaints that keep it from being asked. -/
structure Rendered where
  exact : Option Request
  freeText : Option Request
  complaints : Complaints

namespace Rendered

/-- Whether there is nothing to ask. -/
def isEmpty (r : Rendered) : Bool :=
  r.exact.isNone && r.freeText.isNone

/-- The bodies in the order in which they are sent. -/
def calls (r : Rendered) : List (CallShape × Request) :=
  (r.exact.map (CallShape.exact, ·)).toList ++ (r.freeText.map (CallShape.freeText, ·)).toList

end Rendered

namespace Rendering

/-- Whether some field can be searched. -/
def isSearchable (table : FieldTable) : Bool :=
  table.toList.any (·.searchable)

/-- Whether a remote answers for an entry: for its own fields, and for free text if it can search. -/
def owns (table : FieldTable) (kind : Capability) (name : String) : Bool :=
  table.contains name || (kind = .search && name = Request.freeTextKey && isSearchable table)

/-- The entries of a clause that a remote answers for. -/
def owned (table : FieldTable) (kind : Capability) (entries : Row) : Row :=
  entries.filter fun (name, _) => owns table kind name

/-- The bodies gathered so far. -/
structure Draft where
  search : Option Row
  filter : Option Row
  range : Option Row
  freeText : Option Json
  complaints : Complaints

namespace Draft

def empty : Draft where
  search := none
  filter := none
  range := none
  freeText := none
  complaints := []

/-- Write fragments into a clause; a clause without any is left out. -/
def write (clause : Option Row) (fragments : List (String × Json)) : Option Row :=
  if fragments.isEmpty then clause
  else some (fragments.foldl (fun row (name, value) => Keyed.insert row name value) (clause.getD []))

/-- A range as a remote is sent it. -/
def boundsJson (bounds : Bounds) : Json :=
  .obj [("max", bounds.greatest), ("min", bounds.least)]

/-- Take in a checked clause; the free text is passed on as the request gives it. -/
def absorb (draft : Draft) (text : Option Json) : Clause → Draft
  | .search terms _ freeText =>
    { draft with
      search := write draft.search terms
      freeText := if freeText then text else draft.freeText }
  | .filter fragments =>
    { draft with filter := write draft.filter (fragments.map fun (name, values) => (name, .arr values)) }
  | .range fragments =>
    { draft with range := write draft.range (fragments.map fun (name, bounds) => (name, boundsJson bounds)) }
  | .sort _ => draft

/-- Take in one clause of a request. Remote fields cannot be sorted on. -/
def takeClause (draft : Draft) (table : FieldTable) (text : Option Json) (kind : Capability) (entries : Row) : Draft :=
  match owned table kind entries with
  | [] => draft
  | entries =>
    if kind = .sort then
      { draft with
        complaints := entries.foldl (fun all (name, _) => all.add name .remoteSort) draft.complaints }
    else
      match Clause.check table kind entries with
      | .ok clause => draft.absorb text clause
      | .error complaints => { draft with complaints := draft.complaints.merge complaints }

/-- Whether there is a named entry. -/
def isNamed (draft : Draft) : Bool :=
  draft.search.isSome || draft.filter.isSome || draft.range.isSome

end Draft

/-- The first page with the whole key budget. -/
def paged (maxKeys : Nat) (request : Request) : Request :=
  { request with page := some (.ofNat 1), limit := some (.ofNat maxKeys) }

/-- A body with the free text alone. -/
def freeTextRequest (text : Json) : Request :=
  { Request.empty with search := some [(Request.freeTextKey, text)] }

def finish (maxKeys : Nat) (draft : Draft) : Rendered where
  exact :=
    if draft.isNamed then
      some (paged maxKeys
        { Request.empty with search := draft.search, filter := draft.filter, range := draft.range })
    else none
  freeText := draft.freeText.map fun text => paged maxKeys (freeTextRequest text)
  complaints := draft.complaints

/-- The share of a request that a remote with these fields answers for. -/
def render (table : FieldTable) (maxKeys : Nat) (request : Request) : Rendered :=
  finish maxKeys (request.clauses.foldl
    (fun draft (kind, entries) => draft.takeClause table request.freeText? kind entries) .empty)

end Rendering

end DataGrid
