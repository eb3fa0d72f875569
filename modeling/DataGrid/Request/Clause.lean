-- SUMMARY: Checking the clauses of a request against a field table.
import DataGrid.Field.Table
import DataGrid.Request.Basic
import DataGrid.Row.Order

/-!
# Clauses

A clause is checked entry by entry. An entry counts only where it names a field
that grants the kind of the clause and its value suits the kind; it becomes a
fragment on the column of the field. One complaint refuses the whole clause.
-/

namespace DataGrid

/-- The bounds of a range, both included. -/
structure Bounds where
  least : Json
  greatest : Json
  deriving DecidableEq

/-- A checked clause, its fragments keyed by column in the order of their entries. -/
inductive Clause where
  /-- Named search terms; the columns that a free text is looked for in; and whether there is a free text. -/
  | search (terms : List (String × Json)) (query : List (String × String)) (freeText : Bool)
  | filter (fragments : List (String × List Json))
  | range (fragments : List (String × Bounds))
  | sort (fragments : List (String × Direction))

namespace Clause

-- ---------------------------------------------------------------------------
-- Gathering
-- ---------------------------------------------------------------------------

/-- The complaints of a check about the entries of a clause. -/
def complaints {α : Type} (check : String → Json → Except Complaint α) (entries : Row) : Complaints :=
  entries.foldl (fun all (name, value) =>
    match check name value with
    | .error complaint => all.add name complaint
    | .ok _ => all) []

/-- The fragments that pass a check. -/
def fragments {α : Type} (check : String → Json → Except Complaint α) (entries : Row) : List α :=
  entries.filterMap fun (name, value) => (check name value).toOption

/-- All fragments, if there is no complaint. -/
def gather {α : Type} (check : String → Json → Except Complaint α) (entries : Row) : Except Complaints (List α) :=
  let complaints := complaints check entries
  if complaints.isEmpty then .ok (fragments check entries) else .error complaints


-- ---------------------------------------------------------------------------
-- Entries
-- ---------------------------------------------------------------------------

/-- The field under a name, if it grants a capability. -/
def grantedField (table : FieldTable) (kind : Capability) (name : String) : Except Complaint Field :=
  match table.get? name with
  | none => .error .unknownField
  | some field => if field.grants kind then .ok field else .error (.notAllowed kind)

/-- An entry of a search clause. -/
inductive SearchEntry where
  | term (column : String) (value : Json)
  | freeText (text : String)

/-- The columns that a free text is looked for in. -/
def searchableColumns (table : FieldTable) : List String :=
  (table.toList.filter (·.searchable)).map (·.column)

/-- The trimmed free text, if it is a text and not blank. -/
def checkFreeText : Json → Except Complaint String
  | .str s => if Text.isBlank s then .error .blankFreeText else .ok (Text.trim s)
  | _ => .error .blankFreeText

/-- Whether a value may be searched for: a scalar, and no blank text. -/
def isSearchable : Json → Bool
  | .str s => !Text.isBlank s
  | value => value.isScalar

def checkSearch (table : FieldTable) (name : String) (value : Json) : Except Complaint SearchEntry :=
  if name = Request.freeTextKey then (checkFreeText value).map .freeText
  else do
    let field ← grantedField table .search name
    if isSearchable value then return .term field.column value else throw .unusableSearch

/-- The values that a filter lets through: a scalar, or the elements of a list of scalars that is not empty. -/
def filterValues? : Json → Option (List Json)
  | .arr items => if !items.isEmpty && items.all Json.isScalar then some items else none
  | value => if value.isScalar then some [value] else none

def checkFilter (table : FieldTable) (name : String) (value : Json) : Except Complaint (String × List Json) := do
  let field ← grantedField table .filter name
  match filterValues? value with
  | some values => return (field.column, values)
  | none => throw .unusableFilter

/-- The bounds of a range entry: both given, comparable, and in order. -/
def checkBounds (value : Json) : Except Complaint Bounds :=
  match value.member? "min", value.member? "max" with
  | some least, some greatest =>
    match least.order? greatest with
    | some .lt => .ok ⟨least, greatest⟩
    | some _ => .error .emptyRange
    | none => .error .mixedRange
  | _, _ => .error .openRange

def checkRange (table : FieldTable) (name : String) (value : Json) : Except Complaint (String × Bounds) := do
  let field ← grantedField table .range name
  let bounds ← checkBounds value
  return (field.column, bounds)

def checkSort (table : FieldTable) (name : String) (value : Json) : Except Complaint (String × Direction) := do
  let field ← grantedField table .sort name
  match value.str?.bind Direction.ofText? with
  | some direction => return (field.column, direction)
  | none => throw .unknownDirection


-- ---------------------------------------------------------------------------
-- Clauses
-- ---------------------------------------------------------------------------

/-- The clause that search entries make up. -/
def ofSearchEntries (table : FieldTable) (entries : List SearchEntry) : Clause :=
  let texts := entries.filterMap fun
    | .freeText text => some text
    | .term _ _ => none
  let terms := entries.filterMap fun
    | .term column value => some (column, value)
    | .freeText _ => none
  .search terms (texts.flatMap fun text => (searchableColumns table).map (·, text)) (!texts.isEmpty)

/-- Check a clause of some kind. -/
def check (table : FieldTable) (kind : Capability) (entries : Row) : Except Complaints Clause :=
  match kind with
  | .search => (gather (checkSearch table) entries).map (ofSearchEntries table)
  | .filter => (gather (checkFilter table) entries).map .filter
  | .range => (gather (checkRange table) entries).map .range
  | .sort => (gather (checkSort table) entries).map .sort
  | .display => .error [(kind.key, [.notAClause])]

end Clause

end DataGrid
