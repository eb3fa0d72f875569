-- SUMMARY: The stores answer alike where every test agrees on every row, and for single tests nowhere else.
import DataGrid.Proofs.Sql.Plain
import DataGrid.Proofs.Sql.PlanTests
import DataGrid.Proofs.Sql.Stores

/-!
# Agreement of the stores

SQL is meant to evaluate rows the way memory does. It does wherever each test of
the predicate agrees on the elements of its column, as plain tests do on plain rows.
The conditions on an element are sharp: a row whose element breaks one of them is
found in one store only.
-/

namespace DataGrid

/-- Whole rows are found where the statement is prepared and no pattern is too long: the rows that satisfy the predicate,
each read back. -/
theorem SqlStore.find_whole_eq_ok {store : SqlStore} {collection : String} {p : Predicate} {found : List Row}
    (h : store.find collection (.whole p) = .ok found) :
    (∃ s, Sql.findStatement collection (.whole p) = .ok s ∧ store.prepare s = .ok ()) ∧
      (∀ doc ∈ store.documents collection, Sql.refuses p doc = false) ∧
        found = (store.matching collection p).map Json.rereadMembers := by
  obtain ⟨s, hs, h⟩ := Outcome.bind_eq_ok.mp h
  obtain ⟨_, prepared, h⟩ := Outcome.bind_eq_ok.mp h
  obtain ⟨_, evaluated, h⟩ := Outcome.bind_eq_ok.mp h
  obtain rfl := Except.ok.inj h
  refine ⟨⟨s, hs, prepared⟩, fun doc hdoc => ?_, congrArg _ ?_⟩
  · rw [evaluate] at evaluated
    split at evaluated
    · cases evaluated
    · next accepted =>
      rw [List.any_eq_true] at accepted
      exact Bool.eq_false_iff.mpr fun refuses => accepted ⟨doc, hdoc, refuses⟩
  · exact List.mergeSort_of_pairwise (List.pairwise_of_forall fun _ _ => rfl)

/-- A prepared search for whole rows fits. -/
theorem SqlStore.fits_of_prepare {store : SqlStore} {collection : String} {p : Predicate} {s : Sql.Statement}
    (hs : Sql.findStatement collection (.whole p) = .ok s) (prepared : store.prepare s = .ok ()) :
    Sql.Fits collection p := by
  obtain ⟨_, -, hs⟩ := Outcome.bind_eq_ok.mp hs
  obtain ⟨_, -, hs⟩ := Outcome.bind_eq_ok.mp hs
  obtain ⟨_, -, hs⟩ := Outcome.bind_eq_ok.mp hs
  obtain rfl := Except.ok.inj hs
  obtain ⟨opened, hopened, checked⟩ := Outcome.bind_eq_ok.mp prepared
  obtain ⟨-, rfl⟩ := SqlStore.withTable_eq_ok.mp hopened
  refine Sql.fits_of_check (Outcome.mapError_eq_ok.mp checked) rfl fun same => ?_
  exact SqlStore.hasTable_setDocuments.mpr (.inl same)

namespace Twins

section

variable {collection : String} {rows : List Row} {memory : MemoryStore} {sql : SqlStore} {p : Predicate}

/-- If the same rows are let through, each row satisfies the predicate in both stores or in neither. -/
theorem holds_eq_of_filter_eq (same : rows.filter p.holds = rows.filter (Sql.holds p)) {row : Row} (hrow : row ∈ rows) :
    p.holds row = Sql.holds p row := by
  have both : row ∈ rows.filter p.holds ↔ row ∈ rows.filter (Sql.holds p) := by rw [same]
  rw [List.mem_filter, List.mem_filter, and_iff_right hrow, and_iff_right hrow] at both
  exact Bool.eq_iff_iff.mpr both

/-- What it takes to find whole rows alike, where every row can be read back. -/
theorem alike_of_find_eq (twins : Twins collection rows memory sql)
    (reread : ∀ row ∈ rows, Json.rereadMembers row = row)
    (h : sql.find collection (.whole p) = .ok (memory.find collection (.whole p))) :
    Sql.Fits collection p ∧ Alike rows p := by
  obtain ⟨⟨s, hs, prepared⟩, accepted, found⟩ := SqlStore.find_whole_eq_ok h
  rw [twins.holds.sql_documents] at accepted
  refine ⟨SqlStore.fits_of_prepare hs prepared, fun row hrow => holds_eq_of_filter_eq ?_ hrow, accepted⟩
  have inMemory : memory.find collection (.whole p) = rows.filter p.holds := by
    rw [MemoryStore.find_eq, MemoryStore.selected, MemoryStore.sorted, MemoryStore.matching, twins.holds.memory_rows]
    refine (List.map_id _).trans ?_
    exact List.mergeSort_of_pairwise (List.pairwise_of_forall fun _ _ => rfl)
  have underSql : (sql.matching collection p).map Json.rereadMembers = rows.filter (Sql.holds p) := by
    rw [SqlStore.matching, twins.holds.sql_documents]
    exact (List.map_congr_left fun doc hdoc => reread doc (List.mem_of_mem_filter hdoc)).trans (List.map_id _)
  rw [← inMemory, found, underSql]

/-- The stores count alike, and find alike what is not sorted, where every test agrees on every row. -/
theorem answers_eq (twins : Twins collection rows memory sql)
    (columns : ∀ t ∈ p.tests, Text.isColumnPath t.1 = true) (fits : Sql.Fits collection p)
    (accepted : ∀ row ∈ rows, Sql.refuses p row = false)
    (agree : ∀ row ∈ rows, ∀ t ∈ p.tests, t.2.agrees (row.lookup t.1) = true) :
    sql.count collection p = .ok (memory.count collection p) ∧
      ((∀ row ∈ rows, Json.rereadMembers row = row) → rows.length ≤ Number.greatestSigned.toNat →
        ∀ selection : Selection, selection.predicate = p → selection.sort = [] →
          sql.find collection selection = .ok (memory.find collection selection)) := by
  have alike : Alike rows p :=
    ⟨fun row hrow => p.holds_congr fun t ht => Test.holds_eq (agree row hrow t ht), accepted⟩
  refine ⟨twins.count_eq columns fits alike, fun reread few selection predicate unsorted => ?_⟩
  apply twins.find_eq columns fits alike reread few predicate
  · simp [unsorted]
  · rw [unsorted]
    decide
  · rw [unsorted]
    exact twins.sorted_eq alike

/-- So they do for plain tests on rows that are plain in the columns of the tests, which can be told by looking. -/
theorem answers_eq_of_plain (twins : Twins collection rows memory sql)
    (columns : ∀ t ∈ p.tests, Text.isColumnPath t.1 = true) (fits : Sql.Fits collection p)
    (accepted : ∀ row ∈ rows, Sql.refuses p row = false) (plainTests : ∀ t ∈ p.tests, t.2.isPlain = true)
    (plainRows : ∀ row ∈ rows, ∀ t ∈ p.tests, Test.isPlainColumn (row.lookup t.1) = true) :
    sql.count collection p = .ok (memory.count collection p) ∧
      ((∀ row ∈ rows, Json.rereadMembers row = row) → rows.length ≤ Number.greatestSigned.toNat →
        ∀ selection : Selection, selection.predicate = p → selection.sort = [] →
          sql.find collection selection = .ok (memory.find collection selection)) :=
  twins.answers_eq columns fits accepted fun row hrow t ht =>
    Test.agrees_of_plain (plainTests t ht) (plainRows row hrow t ht)

end


/-! ### People -/

namespace People

/-- People have a name to search in. -/
def descriptors : Keyed FieldDescriptor :=
  [("name", { FieldDescriptor.empty with searchable := some true })]

/-- A request for people whose name contains a text. -/
def request (text : String) : Request :=
  { Request.empty with search := some [("name", .str text)] }

/-- A row for each name. -/
def rows (names : List String) : List Row :=
  names.map fun name => [("name", .str name)]

def table : FieldTable :=
  ⟨[("name", {
    name := "name"
    column := "name"
    displayName := "name"
    shown := true
    searchable := true
    filterable := false
    rangeable := false
    sortable := false
    join := none })]⟩

theorem checked : FieldTable.ofDescriptors descriptors = .ok table := rfl

/-- Both stores with the rows, and with nothing else. -/
theorem twins (names : List String) :
    Twins "people" (rows names) ⟨[("people", rows names)]⟩ ⟨[("people", rows names)]⟩ :=
  .first (MemoryStore.insert_objects .empty "people" (rows names)) (SqlStore.insert_objects rfl rfl .empty (rows names))

end People

end Twins

end DataGrid
