-- SUMMARY: SQL puts rows in order and cuts windows as memory does, where it sorts by values that both compare alike.
import DataGrid.Proofs.Finding
import DataGrid.Proofs.Sql.Plain
import DataGrid.Proofs.Sql.Stores

/-!
# Order and windows under SQL

Missing values, null, texts, and integers that are exact as doubles are sorted alike in both
stores. SQL puts rows that the keys do not tell apart in the order of their ids, which is the
order in which memory leaves them. So both pick the same rows for a window, unless the order
has too many terms; but SQL shows them as they are read back from their text.
-/

namespace DataGrid

/-- What both stores sort alike: nothing, null, texts, and integers that are exact as doubles. -/
def Json.sortsAlike : Option Json → Bool
  | none | some .null | some (.str _) => true
  | some (.num (.int i)) => i.natAbs ≤ 2 ^ 53
  | _ => false

theorem Json.sortsAlike_iff {held : Option Json} :
    sortsAlike held = true ↔
      held = none ∨ held = some .null ∨ (∃ s, held = some (.str s)) ∨
        ∃ i, held = some (.num (.int i)) ∧ i.natAbs ≤ 2 ^ 53 := by
  cases held with
  | none => simp [sortsAlike]
  | some value =>
    cases value with
    | num n => cases n <;> simp [sortsAlike]
    | _ => simp [sortsAlike]

namespace Sql

theorem sortValue_eq (doc : Row) (column : String) :
    sortValue doc column = (doc.lookup column).elim .null Value.ofElement := by
  unfold sortValue
  cases doc.lookup column <;> rfl

/-- Null and texts are ranked as in memory, and small integers compare as doubles do. -/
theorem sortOrder_eq {a b : Option Json} (ha : Json.sortsAlike a = true) (hb : Json.sortsAlike b = true) :
    (a.elim .null Value.ofElement).sortOrder (b.elim .null Value.ofElement) = Json.sortOrder a b := by
  have small {i j : Int} (hi : i.natAbs ≤ 2 ^ 53) (hj : j.natAbs ≤ 2 ^ 53) :
      (Number.int i).order (.int j) = compare i j := Double.order_ofInt hi hj
  have integer {i : Int} (hi : i.natAbs ≤ 2 ^ 53) :
      (some (Json.num (.int i))).elim .null Value.ofElement = .int i := Value.ofElement_small hi
  -- Of the sixteen pairs of kinds only two integers need more than the ranks and the order of texts.
  rcases Json.sortsAlike_iff.mp ha with rfl | rfl | ⟨s, rfl⟩ | ⟨i, rfl, hi⟩ <;>
    rcases Json.sortsAlike_iff.mp hb with rfl | rfl | ⟨t, rfl⟩ | ⟨j, rfl, hj⟩
  all_goals
    try rw [integer hi]
    try rw [integer hj]
  case inr.inr.inr.inr.inr.inr => exact (small hi hj).symm
  all_goals rfl

/-- Rows are in the same order by keys whose values are sorted alike. -/
theorem order_eq {keys : List SortKey} {a b : Row} (ha : ∀ key ∈ keys, Json.sortsAlike (a.lookup key.column) = true)
    (hb : ∀ key ∈ keys, Json.sortsAlike (b.lookup key.column) = true) : order keys a b = Row.order keys a b := by
  induction keys with
  | nil => rfl
  | cons key rest ih =>
    obtain ⟨first, others⟩ := List.forall_mem_cons.mp ha
    obtain ⟨first', others'⟩ := List.forall_mem_cons.mp hb
    rw [order, Row.order, SortKey.order, sortValue_eq, sortValue_eq, sortOrder_eq first first', ih others others']

/-- Rows in the order of some keys and, where these do not tell them apart, of their ids, which ascend as the rows were
inserted. -/
def inOrder (keys : List SortKey) (rows : List Row) : List Row :=
  (rows.zipIdx.mergeSort fun a b => ((order keys a.1 b.1).then (compare a.2 b.2)).isLE).map (·.1)

end Sql

/-- Sorting goes by what the order says of the elements. -/
theorem mergeSort_congr {α : Type} {le le' : α → α → Bool} {list : List α}
    (same : ∀ a ∈ list, ∀ b ∈ list, le a b = le' a b) : list.mergeSort le = list.mergeSort le' := by
  have sorted := @List.map_mergeSort _ _ le le' id list same
  rwa [List.map_id, List.map_id] at sorted

/-- Ordering by the ids in the end is sorting stably. -/
theorem Sql.inOrder_eq {keys : List SortKey} {rows : List Row}
    (sortable : ∀ row ∈ rows, ∀ key ∈ keys, Json.sortsAlike (row.lookup key.column) = true) :
    inOrder keys rows = rows.mergeSort fun a b => (Row.order keys a b).isLE := by
  rw [← List.mergeSort_zipIdx, inOrder]
  refine congrArg _ (mergeSort_congr fun a ha b hb => ?_)
  have swap : Row.order keys b.1 a.1 = (Row.order keys a.1 b.1).swap := Std.OrientedCmp.eq_swap
  rw [order_eq (sortable a.1 (List.fst_mem_of_mem_zipIdx ha)) (sortable b.1 (List.fst_mem_of_mem_zipIdx hb)),
    List.zipIdxLE, swap]
  cases Row.order keys a.1 b.1 with
  | lt => rfl
  | gt => rfl
  | eq =>
    rw [Ordering.eq_then, Bool.eq_iff_iff, Nat.isLE_compare]
    simp

namespace Twins

section

variable {collection : String} {rows : List Row} {memory : MemoryStore} {sql : SqlStore}

theorem sorted_eq_of_sortsAlike {p : Predicate} (twins : Twins collection rows memory sql) (alike : Alike rows p)
    {keys : List SortKey} (sortable : ∀ row ∈ rows, ∀ key ∈ keys, Json.sortsAlike (row.lookup key.column) = true) :
    sql.sorted collection p keys = memory.sorted collection p keys := by
  have inside {row : Row} (hrow : row ∈ memory.matching collection p) : row ∈ rows := by
    rw [← twins.holds.memory_rows]
    exact List.mem_of_mem_filter hrow
  rw [SqlStore.sorted, MemoryStore.sorted, twins.matching_eq alike]
  refine mergeSort_congr fun a ha b hb => ?_
  rw [Sql.order_eq (sortable a (inside ha)) (sortable b (inside hb))]

/-- The statement without a condition fits, and it lets every row through. -/
theorem fits_all (collection : String) : Sql.Fits collection .all :=
  ⟨⟨⟨Sql.constantHeight, 0⟩, rfl, by decide, by decide⟩, nofun⟩

theorem alike_all (rows : List Row) : Alike rows .all :=
  ⟨fun _ _ => rfl, fun _ _ => rfl⟩

end


/-! ### Stars -/

namespace Stars

/-- Both stores with some stars, and with nothing else. -/
theorem twins (rows : List Row) : Twins "stars" rows ⟨[("stars", rows)]⟩ ⟨[("stars", rows)]⟩ :=
  .first (MemoryStore.insert_objects .empty "stars" rows) (SqlStore.insert_objects rfl rfl .empty rows)

/-- Stars whose class is a text, a number, null, or missing. -/
def rows : List Row :=
  [[("class", .str "G"), ("name", .str "Sun")],
   [("class", .ofNat 2), ("name", .str "Rigel")],
   [("name", .str "Nemesis")],
   [("class", .str "G"), ("name", .str "Alpha")],
   [("class", .null), ("name", .str "Nibiru")]]

/-- By class from the last one, and of those in one class by name. -/
def keys : List SortKey :=
  [⟨"class", .descending⟩, ⟨"name", .ascending⟩]

def sorted : List Row :=
  [[("class", .str "G"), ("name", .str "Alpha")],
   [("class", .str "G"), ("name", .str "Sun")],
   [("class", .ofNat 2), ("name", .str "Rigel")],
   [("name", .str "Nemesis")],
   [("class", .null), ("name", .str "Nibiru")]]

/-- The second to the fourth star in that order. -/
def page : Selection :=
  { Selection.whole .all with sort := keys, skip := 1, limit := some 3 }

theorem sortable : ∀ row ∈ rows, ∀ key ∈ keys, Json.sortsAlike (row.lookup key.column) = true := by
  decide +kernel

/-- No two stars are in one place, so they are in order in one way only. -/
theorem inOrder_eq_sorted : Sql.inOrder keys rows = sorted := by
  have stable : StableSort (Row.order keys) rows (rows.mergeSort fun a b => (Row.order keys a b).isLE) := .mergeSort rows
  have apart : ∀ a ∈ rows, ∀ b ∈ sorted, Row.order keys a b ≠ .gt → Row.order keys b a ≠ .gt → a = b := by
    decide +kernel
  have ordered : sorted.Pairwise fun a b => Row.order keys a b ≠ .gt := by decide +kernel
  have same : rows.Perm sorted := by decide +kernel
  rw [Sql.inOrder_eq sortable]
  refine (stable.perm.trans same).eq_of_pairwise ?_ stable.ordered ordered
  intro a b ha hb
  exact apart a (stable.perm.mem_iff.mp ha) b hb

/-- The mass of a star in kilograms, as it is read from a request. -/
def mass : Number :=
  (Number.ofNumeral? "5e32".toList).getD (.int 0)

/-- A star and its mass. -/
def heavy (mass : Number) : Row :=
  [("mass", .num mass), ("name", .str "Rigel")]

end Stars

end Twins

end DataGrid
