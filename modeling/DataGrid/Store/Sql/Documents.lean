-- SUMMARY: A store that keeps documents as text and queries them with SQL semantics.
import DataGrid.Number.Numeral
import DataGrid.Store.Sql.Condition

/-!
# Documents under SQL

A collection is a table of documents, and one that is asked for has a table from
then on. Documents are kept as text, so a double that is returned has been read
from its numeral.
-/

namespace DataGrid

/-- A number read back from its text. -/
def Number.reread : Number → Number
  | .int i => .int i
  | .double d => (Number.ofNumeral? d.text.toList).getD (.double d)

mutual

/-- A value with every number read back from its text. -/
def Json.reread : Json → Json
  | .num n => .num n.reread
  | .arr items => .arr (Json.rereadItems items)
  | .obj members => .obj (Json.rereadMembers members)
  | .null => .null
  | .bool b => .bool b
  | .str s => .str s

def Json.rereadItems : List Json → List Json
  | [] => []
  | x :: rest => x.reread :: Json.rereadItems rest

def Json.rereadMembers : List (String × Json) → List (String × Json)
  | [] => []
  | (k, x) :: rest => (k, x.reread) :: Json.rereadMembers rest

end

/-- The documents of each table, under the name of the table in lower case. -/
structure SqlStore where
  tables : Keyed (List Row)

namespace SqlStore

def empty : SqlStore := ⟨[]⟩

def hasTable (store : SqlStore) (collection : String) : Bool :=
  (Keyed.get? store.tables (Text.asciiLower collection)).isSome

/-- The documents of a collection in the order of insertion. -/
def documents (store : SqlStore) (collection : String) : List Row :=
  (Keyed.get? store.tables (Text.asciiLower collection)).getD []

def setDocuments (store : SqlStore) (collection : String) (documents : List Row) : SqlStore :=
  ⟨Keyed.insert store.tables (Text.asciiLower collection) documents⟩

/-- The store in which a collection has a table, unless the name is reserved. -/
def withTable (store : SqlStore) (collection : String) : Except StoreFault SqlStore :=
  if Sql.isReserved collection then .error (.reservedName collection)
  else .ok (store.setDocuments collection (store.documents collection))

/-- Append documents to a collection, all of them or none. -/
def insert (store : SqlStore) (collection : String) (values : List Json) : Result (Nat × SqlStore) := do
  let _ ← (Sql.table collection).mapError .store
  let added ← (values.mapM Row.ofJson).mapError .input
  let store ← (store.withTable collection).mapError .store
  return (added.length, store.setDocuments collection (store.documents collection ++ added))

/-- The documents that satisfy a predicate. -/
def matching (store : SqlStore) (collection : String) (predicate : Predicate) : List Row :=
  (store.documents collection).filter (Sql.holds predicate)

/-- Make sure of the table, and prepare a statement on it. -/
def prepare (store : SqlStore) (statement : Sql.Statement) : Except StoreFault Unit := do
  let store ← store.withTable statement.collection
  (statement.check (store.hasTable Sql.elementFunction)).mapError .statement

/-- The condition can be evaluated on some documents. -/
def evaluate (predicate : Predicate) (documents : List Row) : Except StoreFault Unit :=
  if documents.any (Sql.refuses predicate) then .error (.statement .patternTooLong) else .ok ()

def count (store : SqlStore) (collection : String) (predicate : Predicate) : Except StoreFault Nat := do
  let statement ← Sql.countStatement collection predicate
  store.prepare statement
  evaluate predicate (store.documents collection)
  return (store.matching collection predicate).length

/-- The documents that satisfy a predicate, sorted; documents that the keys do not tell apart keep their order. -/
def sorted (store : SqlStore) (collection : String) (predicate : Predicate) (keys : List SortKey) : List Row :=
  (store.matching collection predicate).mergeSort fun a b => (Sql.order keys a b).isLE

/-- Counts in a statement are bound up to the greatest signed integer. -/
def bindCount (count : Nat) : Nat :=
  min count Number.greatestSigned.toNat

/-- The documents that finding a window looks at: all of them where they are sorted, otherwise those up to its end. -/
def scanned (store : SqlStore) (collection : String) (selection : Selection) : List Row :=
  match selection.limit with
  | some 0 => []
  | some limit =>
    if selection.sort.isEmpty then
      Sql.upToMatch (Sql.holds selection.predicate) (selection.skip + limit) (store.documents collection)
    else store.documents collection
  | none => store.documents collection

def find (store : SqlStore) (collection : String) (selection : Selection) : Except StoreFault (List Row) := do
  let statement ← Sql.findStatement collection selection
  store.prepare statement
  evaluate selection.predicate (store.scanned collection selection)
  let found := Selection.window (bindCount selection.skip) (selection.limit.map bindCount)
    (store.sorted collection selection.predicate selection.sort)
  return found.map fun doc => selection.shape (Json.rereadMembers doc)

/-- The store after a statement, if there is one: whatever comes of it, its collection has a table. -/
def afterwards (store : SqlStore) : Except StoreFault Sql.Statement → SqlStore
  | .ok statement => (store.withTable statement.collection).toOption.getD store
  | .error _ => store

variable {m : Type → Type} [Monad m] [MonadStateOf SqlStore m]

/-- Send a statement to the store that the monad carries. -/
def send {α : Type} (statement : Except StoreFault Sql.Statement) (answer : SqlStore → Except StoreFault α) :
    ExceptT GridError m α := .mk do
  let store ← getThe SqlStore
  set (store.afterwards statement)
  return (answer store).mapError .store

/-- The store that the monad carries, as grids see it. -/
def carried : Store m where
  count collection predicate := send (Sql.countStatement collection predicate) (·.count collection predicate)
  find collection selection := send (Sql.findStatement collection selection) (·.find collection selection)

end SqlStore

end DataGrid
