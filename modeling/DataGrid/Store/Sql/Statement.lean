-- SUMMARY: The text of the statements that count and find documents, and the names in it.
import DataGrid.Store.Basic

/-!
# Statements

Collections are tables and columns are paths into documents, so both must be
plain names before they may stand in a statement. Values never do; they are
bound as parameters.
-/

namespace DataGrid.Sql

/-- The table of a collection. -/
def table (collection : String) : Except StoreFault String :=
  if Text.isIdentifier collection then .ok s!"\"{collection}\"" else .error (.collectionName collection)

/-- The path of a column. -/
def path (column : String) : Except StoreFault String :=
  if Text.isColumnPath column then .ok s!"'$.{column}'" else .error (.notAColumn column)

/-- A test that some element of a column passes. -/
def elementTest (column test : String) : Except StoreFault String := do
  let path ← path column
  return s!"EXISTS (SELECT 1 FROM json_each(doc, {path}) WHERE {test})"

mutual

/-- The condition that a predicate is rendered to. The first bad column from the left is refused. -/
def condition : Predicate → Except StoreFault String
  | .all => .ok "1=1"
  | .nothing => .ok "1=0"
  | .and parts => (conditions parts).map fun all => "(" ++ " AND ".intercalate all ++ ")"
  | .or parts => (conditions parts).map fun all => "(" ++ " OR ".intercalate all ++ ")"
  | .equal column _ => elementTest column "json_each.value = ?"
  | .oneOf column values =>
    if values.isEmpty then .ok "1=0"
    else
      let marks := ", ".intercalate (values.map fun _ => "?")
      elementTest column s!"json_each.value IN ({marks})"
  | .contains column _ => elementTest column "lower(CAST(json_each.value AS TEXT)) LIKE ? ESCAPE '\\'"
  | .between column _ _ => elementTest column "json_each.value BETWEEN ? AND ?"

def conditions : List Predicate → Except StoreFault (List String)
  | [] => .ok []
  | p :: rest => do
    let first ← condition p
    let others ← conditions rest
    return first :: others

end

def directionKeyword : Direction → String
  | .ascending => "ASC"
  | .descending => "DESC"

/-- A sort key. -/
def ordering (key : SortKey) : Except StoreFault String := do
  let path ← path key.column
  let direction := directionKeyword key.direction
  return s!"json_extract(doc, {path}) {direction}"

/-- A statement on the table of a collection, with what its limits are about. -/
structure Statement where
  collection : String
  predicate : Predicate
  /-- How many parameters follow those of the condition. -/
  trailing : Nat
  /-- How many terms the order has. -/
  orderings : Nat
  text : String

def countStatement (collection : String) (predicate : Predicate) : Except StoreFault Statement := do
  let table ← table collection
  let condition ← condition predicate
  let text := s!"SELECT COUNT(*) FROM {table} WHERE {condition}"
  return { collection, predicate, trailing := 0, orderings := 0, text }

def findStatement (collection : String) (selection : Selection) : Except StoreFault Statement := do
  let table ← table collection
  let condition ← condition selection.predicate
  let keys ← selection.sort.mapM ordering
  let orderings := keys ++ ["id ASC"]
  let order := ", ".intercalate orderings
  let text := s!"SELECT doc FROM {table} WHERE {condition} ORDER BY {order} LIMIT ? OFFSET ?"
  return { collection, predicate := selection.predicate, trailing := 2, orderings := orderings.length, text }

/-- Names that the query language keeps to itself. -/
def isReserved (collection : String) : Bool :=
  "sqlite_".toList.isPrefixOf (Text.asciiLower collection).toList

end DataGrid.Sql
