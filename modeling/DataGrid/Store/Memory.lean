-- SUMMARY: A store that keeps rows in memory and evaluates predicates on them.
import DataGrid.Store.Basic

/-!
# Rows in memory

The rows of a collection keep the order in which they were inserted. Finding
filters them, sorts them stably and cuts a window.
-/

namespace DataGrid

structure MemoryStore where
  collections : Keyed (List Row)

namespace MemoryStore

def empty : MemoryStore := ⟨[]⟩

/-- The rows of a collection in the order of insertion. -/
def rows (store : MemoryStore) (collection : String) : List Row :=
  (Keyed.get? store.collections collection).getD []

/-- Append rows to a collection, all of them or, if one is no object, none. -/
def insert (store : MemoryStore) (collection : String) (values : List Json) : Result (Nat × MemoryStore) :=
  match values.mapM Row.ofJson with
  | .ok added => .ok (added.length, ⟨Keyed.insert store.collections collection (store.rows collection ++ added)⟩)
  | .error fault => .error (.input fault)

/-- The rows that satisfy a predicate. -/
def matching (store : MemoryStore) (collection : String) (predicate : Predicate) : List Row :=
  (store.rows collection).filter predicate.holds

def count (store : MemoryStore) (collection : String) (predicate : Predicate) : Nat :=
  (store.matching collection predicate).length

/-- The rows that satisfy a predicate, sorted; rows that the keys do not tell apart keep their order. -/
def sorted (store : MemoryStore) (collection : String) (predicate : Predicate) (keys : List SortKey) : List Row :=
  (store.matching collection predicate).mergeSort fun a b => (Row.order keys a b).isLE

def find (store : MemoryStore) (collection : String) (selection : Selection) : List Row :=
  (Selection.window selection.skip selection.limit
    (store.sorted collection selection.predicate selection.sort)).map selection.shape

def toStore (store : MemoryStore) {m : Type → Type} [Monad m] : Store m where
  count collection predicate := pure (store.count collection predicate)
  find collection selection := pure (store.find collection selection)

end MemoryStore

end DataGrid
