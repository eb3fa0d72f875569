-- SUMMARY: Complaints about the entries of a request, gathered per field.
import DataGrid.Capability
import DataGrid.Json.Basic

/-!
# Complaints

Checking a request gathers every complaint under the public name of the field
it concerns, so that one rejection names all of them.
-/

namespace DataGrid

/-- What is wrong with one entry of a request. -/
inductive Complaint where
  | unknownField
  | notAllowed (kind : Capability)
  | notAClause
  | blankFreeText
  | unusableSearch
  | unusableFilter
  | openRange
  | emptyRange
  | mixedRange
  | unknownDirection
  | remoteSort
  /-- A complaint in the words of another service. -/
  | stated (text : String)
  deriving DecidableEq

def Complaint.text : Complaint → String
  | .unknownField => "unknown field"
  | .notAllowed kind => "field does not allow " ++ kind.key
  | .notAClause => "not a query clause"
  | .blankFreeText => "free text must be a non-empty string"
  | .unusableSearch => "search value must be a non-empty scalar"
  | .unusableFilter => "filter value must be a scalar or a non-empty list of scalars"
  | .openRange => "range needs both min and max"
  | .emptyRange => "invalid range: min must be less than max"
  | .mixedRange => "invalid range: min and max must both be numbers or both be strings"
  | .unknownDirection => "sort must be 'ascending' or 'descending'"
  | .remoteSort => "remote fields cannot be sorted on"
  | .stated text => text

/-- Complaints by the name of the field. -/
abbrev Complaints := Keyed (List Complaint)

namespace Complaints

/-- Append some complaints about one field. -/
def append (complaints : Complaints) (name : String) (more : List Complaint) : Complaints :=
  Keyed.insert complaints name ((Keyed.get? complaints name).getD [] ++ more)

def add (complaints : Complaints) (name : String) (complaint : Complaint) : Complaints :=
  append complaints name [complaint]

/-- Append all complaints of `more`. -/
def merge (complaints more : Complaints) : Complaints :=
  more.foldl (fun all (name, list) => append all name list) complaints

def toJson (complaints : Complaints) : Json :=
  .obj (Keyed.mapValues (fun list => Json.ofStrings (list.map Complaint.text)) complaints)

end Complaints

end DataGrid
