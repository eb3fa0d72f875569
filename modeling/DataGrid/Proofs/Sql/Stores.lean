-- SUMMARY: Two stores that hold the same rows, and when SQL answers what memory answers.
import DataGrid.Proofs.CollectionGrid
import DataGrid.Proofs.Sql.Tests
import DataGrid.Store.Memory
import DataGrid.Store.Sql.Documents

/-!
# The same rows in both stores

Rows inserted alike stand in one order in both stores. A count or a search then
comes out alike wherever SQL accepts the statement and every row satisfies the
predicate in both stores or in neither.
-/

namespace DataGrid

/-! ## Statements -/

namespace Sql

open Predicate (tests testsOf)

/-- A condition stays within the limits of a statement on a collection, with two more parameters for a window. -/
structure Fits (collection : String) (p : Predicate) : Prop where
  within : ∃ extent, readCondition p 0 = .ok extent ∧ extent.parameters + 2 ≤ greatestParameter ∧
    extent.height + innerHeight p ≤ greatestHeight
  /-- A table that has the name of the element function hides it. -/
  listed : looksAtElements p = true → Text.asciiLower collection ≠ elementFunction

theorem condition_on_eq_ok {test : Test} {column : String} (h : Text.isColumnPath column = true) :
    ∃ text, condition (test.on column) = .ok text := by
  have element (inside : String) : ∃ text, elementTest column inside = .ok text := by
    simp only [elementTest, path, h, if_true]
    exact ⟨_, rfl⟩
  cases test with
  | oneOf values =>
    rw [Test.on, condition]
    split
    · exact ⟨_, rfl⟩
    · exact element _
  | _ =>
    rw [Test.on, condition]
    exact element _

mutual

/-- A predicate on column paths is rendered to a condition. -/
theorem condition_eq_ok : (p : Predicate) → (∀ t ∈ p.tests, Text.isColumnPath t.1 = true) →
    ∃ text, condition p = .ok text
  | .all, _ => ⟨_, by rw [condition]⟩
  | .nothing, _ => ⟨_, by rw [condition]⟩
  | .equal column value, h => @condition_on_eq_ok (.equal value) column (h (column, .equal value) (by simp [tests]))
  | .oneOf column values, h => @condition_on_eq_ok (.oneOf values) column (h (column, .oneOf values) (by simp [tests]))
  | .contains column text, h => @condition_on_eq_ok (.contains text) column (h (column, .contains text) (by simp [tests]))
  | .between column least greatest, h =>
    @condition_on_eq_ok (.between least greatest) column (h (column, .between least greatest) (by simp [tests]))
  | .and parts, h => by
    obtain ⟨texts, htexts⟩ := conditions_eq_ok parts (by simpa only [tests] using h)
    exact ⟨_, by rw [condition, htexts]; rfl⟩
  | .or parts, h => by
    obtain ⟨texts, htexts⟩ := conditions_eq_ok parts (by simpa only [tests] using h)
    exact ⟨_, by rw [condition, htexts]; rfl⟩

private theorem conditions_eq_ok : (parts : List Predicate) →
    (∀ t ∈ testsOf parts, Text.isColumnPath t.1 = true) → ∃ texts, conditions parts = .ok texts
  | [], _ => ⟨_, by rw [conditions]⟩
  | p :: rest, h => by
    rw [testsOf] at h
    obtain ⟨first, hfirst⟩ := condition_eq_ok p fun t ht => h t (List.mem_append_left _ ht)
    obtain ⟨others, hothers⟩ := conditions_eq_ok rest fun t ht => h t (List.mem_append_right _ ht)
    exact ⟨_, by rw [conditions, hfirst, hothers]; rfl⟩

end

/-- A statement whose condition fits is prepared, unless its order has too many terms. -/
theorem Statement.check_of_fits {s : Statement} (fits : Fits s.collection s.predicate) {hidden : Bool}
    (hhidden : hidden = true → Text.asciiLower s.collection = elementFunction) (trailing : s.trailing ≤ 2) :
    s.check hidden = if greatestOrdering < s.orderings then .error .tooManyOrderings else .ok () := by
  obtain ⟨extent, hread, hparameters, hheight⟩ := fits.within
  have read : s.read = .ok ⟨extent.height, extent.parameters + s.trailing⟩ := by
    have room : extent.parameters + s.trailing ≤ greatestParameter := by omega
    simp only [Statement.read, hread, Except.bind, takeParameters, if_pos room]
    rfl
  have shown : (hidden && looksAtElements s.predicate) = false := by
    rw [← Bool.not_eq_true, Bool.and_eq_true]
    intro both
    exact fits.listed both.2 (hhidden both.1)
  simp only [Statement.check, read, shown, Bool.false_eq_true, if_false, if_neg (Nat.not_lt.mpr hheight)]

/-- A statement with a window is prepared only if its condition fits. -/
theorem fits_of_check {s : Statement} {hidden : Bool} (h : s.check hidden = .ok ()) (trailing : s.trailing = 2)
    (hhidden : Text.asciiLower s.collection = elementFunction → hidden = true) : Fits s.collection s.predicate := by
  unfold Statement.check at h
  split at h
  · cases h
  · next extent hread =>
    split at h
    · cases h
    · next shown =>
      split at h
      · cases h
      · next height =>
        obtain ⟨extent', hcondition, hwindow⟩ := Outcome.bind_eq_ok.mp hread
        obtain ⟨parameters, htaken, rfl⟩ := Outcome.map_eq_ok.mp hwindow
        rw [takeParameters, trailing] at htaken
        split at htaken
        · next room =>
          refine ⟨⟨extent', hcondition, room, Nat.not_lt.mp height⟩, fun looks same => shown ?_⟩
          rw [hhidden same, looks]
          rfl
        · cases htaken

/-- The documents up to a match are documents. -/
theorem mem_of_mem_upToMatch {test : Row → Bool} {docs : List Row} {doc : Row} :
    ∀ {count : Nat}, doc ∈ upToMatch test count docs → doc ∈ docs := by
  induction docs with
  | nil => intro count h; cases count <;> simp [upToMatch] at h
  | cons first rest ih =>
    intro count h
    cases count with
    | zero => simp [upToMatch] at h
    | succ more =>
      rw [upToMatch, List.mem_cons] at h
      rcases h with rfl | h
      · exact List.mem_cons_self
      · exact List.mem_cons_of_mem _ (ih h)

end Sql


/-! ## Stores -/

/-- Values are rows where they are objects. -/
theorem Row.mapM_ofJson_eq_ok {values : List Json} {rows : List Row} :
    values.mapM Row.ofJson = .ok rows ↔ values = rows.map .obj := by
  have object (value : Json) (row : Row) : Row.ofJson value = .ok row ↔ value = .obj row := by
    cases value <;> simp [Row.ofJson]
  rw [Outcome.mapM_eq_ok]
  simp only [object]
  rw [← List.forall₂_map_right_iff (R := (· = ·)), List.forall₂_eq_eq_eq]

/-- Different rows are different values. -/
theorem Row.map_obj_inj {rows rows' : List Row} : rows.map Json.obj = rows'.map Json.obj ↔ rows = rows' :=
  List.map_inj_right fun _ _ => Json.obj.inj

namespace MemoryStore

theorem insert_eq_ok_iff {store next : MemoryStore} {collection : String} {values : List Json} {n : Nat} :
    store.insert collection values = .ok (n, next) ↔ ∃ rows : List Row, values = rows.map .obj ∧ n = rows.length ∧
      next = ⟨Keyed.insert store.collections collection (store.rows collection ++ rows)⟩ := by
  simp only [← Row.mapM_ofJson_eq_ok]
  unfold insert
  cases values.mapM Row.ofJson <;> simp [eq_comm]

theorem insert_objects (store : MemoryStore) (collection : String) (added : List Row) :
    store.insert collection (added.map .obj) =
      .ok (added.length, ⟨Keyed.insert store.collections collection (store.rows collection ++ added)⟩) :=
  insert_eq_ok_iff.mpr ⟨added, rfl, rfl, rfl⟩

theorem rows_of_insert {store next : MemoryStore} {collection : String} {added : List Row} {count : Nat}
    (h : store.insert collection (added.map .obj) = .ok (count, next)) :
    next.rows collection = store.rows collection ++ added := by
  rw [insert_objects] at h
  obtain ⟨-, rfl⟩ := Prod.mk.inj (Except.ok.inj h)
  simp [rows]

end MemoryStore

namespace SqlStore

theorem documents_setDocuments (store : SqlStore) (collection other : String) (documents : List Row) :
    (store.setDocuments collection documents).documents other =
      if Text.asciiLower collection = Text.asciiLower other then documents else store.documents other := by
  unfold SqlStore.documents setDocuments
  by_cases same : Text.asciiLower collection = Text.asciiLower other
  · simp [same]
  · simp [same, Keyed.get?_insert_of_ne same]

theorem hasTable_setDocuments {store : SqlStore} {collection other : String} {documents : List Row} :
    (store.setDocuments collection documents).hasTable other = true ↔
      Text.asciiLower collection = Text.asciiLower other ∨ store.hasTable other = true := by
  unfold hasTable setDocuments
  by_cases same : Text.asciiLower collection = Text.asciiLower other
  · simp [same]
  · simp [same, Keyed.get?_insert_of_ne same]

theorem withTable_eq_ok {store next : SqlStore} {collection : String} :
    store.withTable collection = .ok next ↔
      Sql.isReserved collection = false ∧ next = store.setDocuments collection (store.documents collection) := by
  unfold withTable
  cases Sql.isReserved collection <;> simp [eq_comm]

/-- A table for a collection changes no documents. -/
theorem documents_withTable {store next : SqlStore} {collection : String} (h : store.withTable collection = .ok next)
    (other : String) : next.documents other = store.documents other := by
  obtain ⟨-, rfl⟩ := withTable_eq_ok.mp h
  rw [documents_setDocuments]
  split
  · next same => rw [SqlStore.documents, same, SqlStore.documents]
  · rfl

theorem insert_eq_ok_iff {store next : SqlStore} {collection : String} {values : List Json} {n : Nat} :
    store.insert collection values = .ok (n, next) ↔
      Text.isIdentifier collection = true ∧ ∃ rows : List Row, values = rows.map .obj ∧
        ∃ opened, store.withTable collection = .ok opened ∧ n = rows.length ∧
          next = opened.setDocuments collection (opened.documents collection ++ rows) := by
  have table : (∃ text, Sql.table collection = .ok text) ↔ Text.isIdentifier collection = true := by
    unfold Sql.table
    split <;> simp [*]
  unfold insert
  simp only [Outcome.bind_eq_ok, Outcome.mapError_eq_ok, Row.mapM_ofJson_eq_ok, Outcome.pure_eq_ok, Prod.mk.injEq,
    ← table, eq_comm (b := n), eq_comm (b := next)]
  constructor
  · rintro ⟨text, htext, inserted⟩
    exact ⟨⟨text, htext⟩, inserted⟩
  · rintro ⟨⟨text, htext⟩, inserted⟩
    exact ⟨text, htext, inserted⟩

/-- Objects are inserted into a collection that has the name of a table. -/
theorem insert_objects {collection : String} (named : Text.isIdentifier collection = true)
    (free : Sql.isReserved collection = false) (store : SqlStore) (added : List Row) :
    store.insert collection (added.map .obj) = .ok (added.length,
      let opened := store.setDocuments collection (store.documents collection)
      opened.setDocuments collection (opened.documents collection ++ added)) :=
  insert_eq_ok_iff.mpr ⟨named, added, rfl, _, withTable_eq_ok.mpr ⟨free, rfl⟩, rfl, rfl⟩

theorem insert_eq_ok {store next : SqlStore} {collection : String} {added : List Row} {count : Nat}
    (h : store.insert collection (added.map .obj) = .ok (count, next)) :
    Text.isIdentifier collection = true ∧ Sql.isReserved collection = false ∧
      next.documents collection = store.documents collection ++ added ∧
        ∀ other, next.hasTable other = true →
          Text.asciiLower collection = Text.asciiLower other ∨ store.hasTable other = true := by
  obtain ⟨named, rows, same, opened, hopened, -, rfl⟩ := insert_eq_ok_iff.mp h
  obtain rfl := Row.map_obj_inj.mp same
  refine ⟨named, (withTable_eq_ok.mp hopened).1, ?_, fun other hother => ?_⟩
  · rw [documents_setDocuments, if_pos rfl, documents_withTable hopened]
  · rcases hasTable_setDocuments.mp hother with same | hother
    · exact .inl same
    · obtain ⟨-, rfl⟩ := withTable_eq_ok.mp hopened
      exact hasTable_setDocuments.mp hother

theorem mem_documents_of_mem_scanned {store : SqlStore} {collection : String} {selection : Selection} {doc : Row}
    (h : doc ∈ store.scanned collection selection) : doc ∈ store.documents collection := by
  unfold scanned at h
  split at h
  · cases h
  · split at h
    · exact Sql.mem_of_mem_upToMatch h
    · exact h
  · exact h

end SqlStore


/-! ## Windows -/

/-- Counts that fit are bound as they are. -/
theorem window_bindCount {α : Type} {rows : List α} (few : rows.length ≤ Number.greatestSigned.toNat) (skip : Nat)
    (limit : Option Nat) :
    Selection.window (SqlStore.bindCount skip) (limit.map SqlStore.bindCount) rows =
      Selection.window skip limit rows := by
  have dropped : rows.drop (SqlStore.bindCount skip) = rows.drop skip := by
    rcases Nat.le_total skip Number.greatestSigned.toNat with fits | beyond
    · rw [SqlStore.bindCount, Nat.min_eq_left fits]
    · rw [SqlStore.bindCount, Nat.min_eq_right beyond, List.drop_eq_nil_of_le few,
        List.drop_eq_nil_of_le (Nat.le_trans few beyond)]
  cases limit with
  | none => exact dropped
  | some limit =>
    have rest : (rows.drop skip).length ≤ Number.greatestSigned.toNat := by
      rw [List.length_drop]
      exact Nat.le_trans (Nat.sub_le ..) few
    simp only [Selection.window, Option.map_some, dropped]
    rcases Nat.le_total limit Number.greatestSigned.toNat with fits | beyond
    · rw [SqlStore.bindCount, Nat.min_eq_left fits]
    · rw [SqlStore.bindCount, Nat.min_eq_right beyond, List.take_of_length_le rest,
        List.take_of_length_le (Nat.le_trans rest beyond)]


/-! ## The same insertions -/

/-- Two fresh stores after the same rows have been inserted into one collection, in one or more steps. -/
inductive Twins (collection : String) : List Row → MemoryStore → SqlStore → Prop where
  | first {added : List Row} {n m : Nat} {memory : MemoryStore} {sql : SqlStore} :
      MemoryStore.empty.insert collection (added.map .obj) = .ok (n, memory) →
      SqlStore.empty.insert collection (added.map .obj) = .ok (m, sql) → Twins collection added memory sql
  | next {rows added : List Row} {n m : Nat} {memory memory' : MemoryStore} {sql sql' : SqlStore} :
      Twins collection rows memory sql → memory.insert collection (added.map .obj) = .ok (n, memory') →
      sql.insert collection (added.map .obj) = .ok (m, sql') → Twins collection (rows ++ added) memory' sql'

namespace Twins

/-- What the stores hold after the insertions, and what the collection must be called. -/
structure Holds (collection : String) (rows : List Row) (memory : MemoryStore) (sql : SqlStore) : Prop where
  named : Text.isIdentifier collection = true
  free : Sql.isReserved collection = false
  memory_rows : memory.rows collection = rows
  sql_documents : sql.documents collection = rows
  alone : ∀ other, sql.hasTable other = true → Text.asciiLower collection = Text.asciiLower other

theorem holds {collection : String} {rows : List Row} {memory : MemoryStore} {sql : SqlStore}
    (twins : Twins collection rows memory sql) : Holds collection rows memory sql := by
  induction twins with
  | first hmemory hsql =>
    obtain ⟨named, free, documents, tables⟩ := SqlStore.insert_eq_ok hsql
    refine ⟨named, free, MemoryStore.rows_of_insert hmemory, documents, fun other hother => ?_⟩
    rcases tables other hother with same | none
    · exact same
    · cases none
  | next _ hmemory hsql ih =>
    obtain ⟨named, free, documents, tables⟩ := SqlStore.insert_eq_ok hsql
    refine ⟨named, free, ?_, ?_, fun other hother => (tables other hother).elim id (ih.alone other)⟩
    · rw [MemoryStore.rows_of_insert hmemory, ih.memory_rows]
    · rw [documents, ih.sql_documents]

variable {collection : String} {rows : List Row} {memory : MemoryStore} {sql : SqlStore} {p : Predicate}

/-- A statement on the collection whose condition fits is prepared, unless its order has too many terms. -/
theorem prepare_eq (twins : Twins collection rows memory sql) {statement : Sql.Statement}
    (target : statement.collection = collection) (condition : statement.predicate = p) (fits : Sql.Fits collection p)
    (trailing : statement.trailing ≤ 2) :
    sql.prepare statement =
      if Sql.greatestOrdering < statement.orderings then .error (.statement .tooManyOrderings) else .ok () := by
  subst target condition
  let opened := sql.setDocuments statement.collection (sql.documents statement.collection)
  have hidden : opened.hasTable Sql.elementFunction = true →
      Text.asciiLower statement.collection = Sql.elementFunction := by
    intro hidden
    rcases SqlStore.hasTable_setDocuments.mp hidden with same | hother
    · exact same
    · exact twins.holds.alone _ hother
  have hopened : sql.withTable statement.collection = .ok opened := SqlStore.withTable_eq_ok.mpr ⟨twins.holds.free, rfl⟩
  have prepared : sql.prepare statement =
      (statement.check (opened.hasTable Sql.elementFunction)).mapError .statement := by
    rw [SqlStore.prepare, hopened]
    rfl
  rw [prepared, Sql.Statement.check_of_fits fits hidden trailing]
  split <;> rfl

/-- The rows come out alike: in both stores a row satisfies the predicate or in neither, and no pattern is too long. -/
structure Alike (rows : List Row) (p : Predicate) : Prop where
  holds_eq : ∀ row ∈ rows, p.holds row = Sql.holds p row
  accepted : ∀ row ∈ rows, Sql.refuses p row = false

theorem matching_eq (twins : Twins collection rows memory sql) (alike : Alike rows p) :
    sql.matching collection p = memory.matching collection p := by
  rw [SqlStore.matching, MemoryStore.matching, twins.holds.sql_documents, twins.holds.memory_rows]
  exact List.filter_congr fun row hrow => (alike.holds_eq row hrow).symm

/-- No condition is refused on rows that come out alike. -/
theorem evaluate_eq_ok (alike : Alike rows p) {docs : List Row} (h : ∀ doc ∈ docs, doc ∈ rows) :
    SqlStore.evaluate p docs = .ok () := by
  have none : docs.any (Sql.refuses p) = false := by
    rw [List.any_eq_false]
    intro doc hdoc
    rw [alike.accepted doc (h doc hdoc)]
    exact Bool.false_ne_true
  rw [SqlStore.evaluate, none]
  rfl

theorem table_eq_ok (twins : Twins collection rows memory sql) : ∃ table, Sql.table collection = .ok table :=
  ⟨_, if_pos twins.holds.named⟩

/-- Where the rows come out alike, SQL counts what memory counts. -/
theorem count_eq (twins : Twins collection rows memory sql) (paths : ∀ t ∈ p.tests, Text.isColumnPath t.1 = true)
    (fits : Sql.Fits collection p) (alike : Alike rows p) :
    sql.count collection p = .ok (memory.count collection p) := by
  obtain ⟨table, htable⟩ := twins.table_eq_ok
  obtain ⟨text, htext⟩ := Sql.condition_eq_ok p paths
  have statement : ∃ s, Sql.countStatement collection p = .ok s ∧ s.collection = collection ∧ s.predicate = p ∧
      s.trailing = 0 ∧ s.orderings = 0 := by
    simp only [Sql.countStatement, htable, htext]
    exact ⟨_, rfl, rfl, rfl, rfl, rfl⟩
  obtain ⟨s, hs, target, condition, trailing, orderings⟩ := statement
  refine Outcome.bind_eq_ok.mpr ⟨s, hs, Outcome.bind_eq_ok.mpr ⟨(), ?_, Outcome.bind_eq_ok.mpr ⟨(), ?_, ?_⟩⟩⟩
  · rw [twins.prepare_eq target condition fits (by omega), if_neg (by omega)]
  · rw [twins.holds.sql_documents]
    exact evaluate_eq_ok alike fun doc hdoc => hdoc
  · rw [Outcome.pure_eq_ok, twins.matching_eq alike, MemoryStore.count]

/-- A sort key on a column path is rendered. -/
theorem ordering_eq_ok {key : SortKey} (h : Text.isColumnPath key.column = true) : ∃ text, Sql.ordering key = .ok text := by
  simp only [Sql.ordering, Sql.path, h, if_true]
  exact ⟨_, rfl⟩

theorem orderings_eq_ok {keys : List SortKey} (h : ∀ key ∈ keys, Text.isColumnPath key.column = true) :
    ∃ texts, keys.mapM Sql.ordering = .ok texts ∧ texts.length = keys.length := by
  induction keys with
  | nil => exact ⟨[], rfl, rfl⟩
  | cons key rest ih =>
    obtain ⟨text, htext⟩ := ordering_eq_ok (h key List.mem_cons_self)
    obtain ⟨texts, htexts, length⟩ := ih fun key hkey => h key (List.mem_cons_of_mem _ hkey)
    refine ⟨text :: texts, ?_, congrArg (· + 1) length⟩
    rw [Outcome.mapM_eq_ok] at htexts ⊢
    exact .cons htext htexts

theorem exists_findStatement (twins : Twins collection rows memory sql)
    (paths : ∀ t ∈ p.tests, Text.isColumnPath t.1 = true) {selection : Selection} (predicate : selection.predicate = p)
    (keys : ∀ key ∈ selection.sort, Text.isColumnPath key.column = true) :
    ∃ s, Sql.findStatement collection selection = .ok s ∧ s.collection = collection ∧ s.predicate = p ∧ s.trailing = 2 ∧
      s.orderings = selection.sort.length + 1 := by
  obtain ⟨table, htable⟩ := twins.table_eq_ok
  obtain ⟨text, htext⟩ := Sql.condition_eq_ok p paths
  obtain ⟨texts, htexts, length⟩ := orderings_eq_ok keys
  simp only [Sql.findStatement, htable, predicate, htext, htexts]
  exact ⟨_, rfl, rfl, rfl, rfl, by simp [length]⟩

/-- Where the rows come out alike and in one order, SQL picks the documents that memory picks and reads each of them back,
provided that the rows can be counted in signed integers and that the order has not too many terms. -/
theorem find_eq_reread (twins : Twins collection rows memory sql) (paths : ∀ t ∈ p.tests, Text.isColumnPath t.1 = true)
    (fits : Sql.Fits collection p) (alike : Alike rows p) (few : rows.length ≤ Number.greatestSigned.toNat)
    {selection : Selection} (predicate : selection.predicate = p)
    (keys : ∀ key ∈ selection.sort, Text.isColumnPath key.column = true)
    (ordered : sql.sorted collection p selection.sort = memory.sorted collection p selection.sort) :
    sql.find collection selection =
      if selection.sort.length < Sql.greatestOrdering then
        .ok ((memory.selected collection selection).map fun doc => selection.shape (Json.rereadMembers doc))
      else .error (.statement .tooManyOrderings) := by
  obtain ⟨s, hs, target, condition, trailing, orderings⟩ := twins.exists_findStatement paths predicate keys
  have prepared := twins.prepare_eq target condition fits (by omega)
  split
  · next terms =>
    rw [if_neg (by omega)] at prepared
    have count : (memory.sorted collection p selection.sort).length ≤ Number.greatestSigned.toNat := by
      rw [MemoryStore.sorted, List.length_mergeSort, MemoryStore.matching, twins.holds.memory_rows]
      exact Nat.le_trans (List.length_filter_le ..) few
    have evaluated : SqlStore.evaluate selection.predicate (sql.scanned collection selection) = .ok () := by
      rw [predicate]
      refine evaluate_eq_ok alike fun doc hdoc => ?_
      rw [← twins.holds.sql_documents]
      exact SqlStore.mem_documents_of_mem_scanned hdoc
    refine Outcome.bind_eq_ok.mpr ⟨s, hs, Outcome.bind_eq_ok.mpr ⟨(), prepared, Outcome.bind_eq_ok.mpr ⟨(), evaluated, ?_⟩⟩⟩
    rw [Outcome.pure_eq_ok, MemoryStore.selected, predicate, ordered, window_bindCount count]
  · next beyond =>
    rw [if_pos (by omega)] at prepared
    exact Outcome.bind_eq_error.mpr (.inr ⟨s, hs, Outcome.bind_eq_error.mpr (.inl prepared)⟩)

/-- Then SQL finds what memory finds, provided that every row can be read back. -/
theorem find_eq (twins : Twins collection rows memory sql) (paths : ∀ t ∈ p.tests, Text.isColumnPath t.1 = true)
    (fits : Sql.Fits collection p) (alike : Alike rows p) (reread : ∀ row ∈ rows, Json.rereadMembers row = row)
    (few : rows.length ≤ Number.greatestSigned.toNat) {selection : Selection} (predicate : selection.predicate = p)
    (keys : ∀ key ∈ selection.sort, Text.isColumnPath key.column = true)
    (terms : selection.sort.length < Sql.greatestOrdering)
    (ordered : sql.sorted collection p selection.sort = memory.sorted collection p selection.sort) :
    sql.find collection selection = .ok (memory.find collection selection) := by
  rw [twins.find_eq_reread paths fits alike few predicate keys ordered, if_pos terms, MemoryStore.find_eq]
  refine congrArg _ (List.map_congr_left fun row hrow => ?_)
  have held := (MemoryStore.mem_of_mem_selected hrow).1
  rw [twins.holds.memory_rows] at held
  rw [reread row held]

/-- Without sort keys the rows stand in the order of insertion. -/
theorem sorted_eq (twins : Twins collection rows memory sql) (alike : Alike rows p) :
    sql.sorted collection p [] = memory.sorted collection p [] := by
  have unsorted {list : List Row} : list.Pairwise fun _ _ => Ordering.isLE .eq = true :=
    List.pairwise_of_forall fun _ _ => rfl
  rw [SqlStore.sorted, MemoryStore.sorted, twins.matching_eq alike]
  exact (List.mergeSort_of_pairwise unsorted).trans (List.mergeSort_of_pairwise unsorted).symm

end Twins

end DataGrid
