-- SUMMARY: The stored documents that a page from memory is made of.
import DataGrid.Grid.Collection
import DataGrid.Proofs.Outcome
import DataGrid.Store.Memory

/-!
# Pages

A page is made of stored documents that satisfy the predicate of its grid, one row
for each. Expanding joins keeps the rows in place. The total counts all documents that
satisfy the predicate, and a page with room left shows all of them.
-/

namespace DataGrid

/-! ## Selections -/

theorem Selection.mem_of_mem_window {α : Type} {skip : Nat} {limit : Option Nat} {rows : List α} {row : α}
    (h : row ∈ window skip limit rows) : row ∈ rows := by
  unfold window at h
  split at h
  · exact List.mem_of_mem_drop (List.mem_of_mem_take h)
  · exact List.mem_of_mem_drop h

namespace MemoryStore

theorem mem_matching {store : MemoryStore} {collection : String} {predicate : Predicate} {doc : Row} :
    doc ∈ store.matching collection predicate ↔ doc ∈ store.rows collection ∧ predicate.holds doc = true :=
  List.mem_filter

theorem mem_sorted {store : MemoryStore} {collection : String} {predicate : Predicate} {keys : List SortKey} {doc : Row} :
    doc ∈ store.sorted collection predicate keys ↔ doc ∈ store.rows collection ∧ predicate.holds doc = true := by
  rw [sorted, List.mem_mergeSort, mem_matching]

/-- The documents that a selection picks, before they are cut to its columns. -/
def selected (store : MemoryStore) (collection : String) (selection : Selection) : List Row :=
  Selection.window selection.skip selection.limit (store.sorted collection selection.predicate selection.sort)

theorem find_eq (store : MemoryStore) (collection : String) (selection : Selection) :
    store.find collection selection = (store.selected collection selection).map selection.shape := rfl

/-- A selection without an order and a window finds what satisfies its predicate, as it stands. -/
theorem find_unsorted (store : MemoryStore) (collection : String) {selection : Selection} (sort : selection.sort = [])
    (skip : selection.skip = 0) (limit : selection.limit = none) :
    store.find collection selection = (store.matching collection selection.predicate).map selection.shape := by
  have sorted : store.sorted collection selection.predicate selection.sort =
      store.matching collection selection.predicate := by
    rw [MemoryStore.sorted, sort]
    exact List.mergeSort_of_pairwise (List.pairwise_of_forall fun _ _ => rfl)
  rw [find_eq, selected, sorted, skip, limit, Selection.window, List.drop_zero]

theorem mem_of_mem_selected {store : MemoryStore} {collection : String} {selection : Selection} {doc : Row}
    (h : doc ∈ store.selected collection selection) :
    doc ∈ store.rows collection ∧ selection.predicate.holds doc = true :=
  mem_sorted.mp (Selection.mem_of_mem_window h)

@[simp] theorem outcome_count (store : MemoryStore) (collection : String) (predicate : Predicate) :
    outcome ((store.toStore : Store Id).count collection predicate) = .ok (store.count collection predicate) := rfl

@[simp] theorem outcome_find (store : MemoryStore) (collection : String) (selection : Selection) :
    outcome ((store.toStore : Store Id).find collection selection) = .ok (store.find collection selection) := rfl

end MemoryStore


/-! ## Joins -/

namespace Join

/-- A value is kept if it is the first of its key text, and no value with this text has been seen. -/
theorem mem_distinctFrom {seen : List String} {values : List Json} {value : Json} :
    value ∈ distinctFrom seen values ↔
      value.keyText ∉ seen ∧ values.find? (·.keyText == value.keyText) = some value := by
  induction values generalizing seen with
  | nil => simp [distinctFrom]
  | cons first rest ih =>
    unfold distinctFrom
    by_cases same : first.keyText = value.keyText
    · rw [List.find?_cons_of_pos (by simp [same]), Option.some.injEq]
      split
      · next known => simp [ih, same ▸ known]
      · next fresh =>
        rw [List.mem_cons, ih, List.mem_cons, ← same]
        simp [fresh, eq_comm]
    · rw [List.find?_cons_of_neg (by simp [same])]
      split
      · exact ih
      · rw [List.mem_cons, ih, List.mem_cons]
        have other : value ≠ first := fun h => same (h ▸ rfl)
        simp [other, Ne.symm same]

/-- A scalar joins by itself. -/
theorem values_of_scalar {id : Json} (scalar : id.isScalar = true) : values (some id) = [id] := by
  cases id with
  | null | arr | obj => cases scalar
  | _ => rfl

/-- The values that are kept are the first ones of their key texts. -/
theorem mem_distinct {values : List Json} {value : Json} :
    value ∈ distinct values ↔ values.find? (·.keyText == value.keyText) = some value := by
  rw [distinct, mem_distinctFrom]
  exact and_iff_right List.not_mem_nil

theorem mem_of_mem_distinct {values : List Json} {value : Json} (h : value ∈ distinct values) : value ∈ values :=
  List.mem_of_find?_eq_some (mem_distinct.mp h)

/-- Every value has its key text among those that are kept. -/
theorem exists_mem_distinct {values : List Json} {value : Json} (h : value ∈ values) :
    ∃ kept ∈ distinct values, kept.keyText = value.keyText := by
  obtain ⟨kept, found⟩ : ∃ kept, values.find? (·.keyText == value.keyText) = some kept :=
    Option.isSome_iff_exists.mp (List.find?_isSome.mpr ⟨value, h, beq_iff_eq.mpr rfl⟩)
  have same : kept.keyText = value.keyText := by simpa using List.find?_some found
  exact ⟨kept, mem_distinct.mpr (same ▸ found), same⟩

private theorem pairwise_distinctFrom (seen : List String) (values : List Json) :
    (distinctFrom seen values).Pairwise fun a b =>
      (values.map Json.keyText).idxOf a.keyText < (values.map Json.keyText).idxOf b.keyText := by
  induction values generalizing seen with
  | nil => exact .nil
  | cons first rest ih =>
    -- a value with another key text than the first one comes one place later than among the rest
    have later (seen : List String) (known : first.keyText ∈ seen) : (distinctFrom seen rest).Pairwise fun a b =>
        ((first :: rest).map Json.keyText).idxOf a.keyText < ((first :: rest).map Json.keyText).idxOf b.keyText := by
      have place {value : Json} (h : value ∈ distinctFrom seen rest) :
          ((first :: rest).map Json.keyText).idxOf value.keyText = (rest.map Json.keyText).idxOf value.keyText + 1 := by
        have other : first.keyText ≠ value.keyText := fun same => (mem_distinctFrom.mp h).1 (same ▸ known)
        rw [List.map_cons, List.idxOf_cons_ne _ other]
      refine (ih seen).imp_of_mem fun ha hb before => ?_
      rw [place ha, place hb]
      exact Nat.add_lt_add_right before 1
    unfold distinctFrom
    split
    · next known => exact later seen known
    · refine List.pairwise_cons.mpr ⟨fun value h => ?_, later _ List.mem_cons_self⟩
      have other : first.keyText ≠ value.keyText := fun same => (mem_distinctFrom.mp h).1 (same ▸ List.mem_cons_self)
      rw [List.map_cons, List.idxOf_cons_self, List.idxOf_cons_ne _ other]
      exact Nat.succ_pos _

/-- The values that are kept come in the order in which their key texts are first seen. -/
theorem pairwise_distinct (values : List Json) :
    (distinct values).Pairwise fun a b =>
      (values.map Json.keyText).idxOf a.keyText < (values.map Json.keyText).idxOf b.keyText :=
  pairwise_distinctFrom [] values

/-- No key text is kept twice. -/
theorem nodup_distinct (values : List Json) : ((distinct values).map Json.keyText).Nodup := by
  refine List.pairwise_map.mpr ((pairwise_distinct values).imp fun before same => ?_)
  rw [same] at before
  exact Nat.lt_irrefl _ before

/-- The keys of some rows are values by which they join. -/
theorem mem_of_mem_keys {rows : List Row} {column : String} {key : Json} (h : key ∈ keys rows column) :
    ∃ row ∈ rows, key ∈ values (row.lookup column) :=
  List.mem_flatMap.mp (mem_of_mem_distinct h)

/-- Every value by which a row joins has its key text among the keys. -/
theorem exists_key {rows : List Row} {column : String} {row : Row} (hrow : row ∈ rows) {value : Json}
    (hvalue : value ∈ values (row.lookup column)) : ∃ key ∈ keys rows column, key.keyText = value.keyText :=
  exists_mem_distinct (List.mem_flatMap.mpr ⟨row, hrow, hvalue⟩)

/-- Expanding a field leaves all rows as they are, or expands it in each of them by the same records. -/
theorem cases_of_expand {store : Store Id} {field : Field} {join : JoinDescriptor} {rows expanded : List Row}
    (h : outcome (expand store field join rows) = .ok expanded) :
    expanded = rows ∨ ∃ byKey, expanded = rows.map (expandRow field byKey) := by
  unfold expand at h
  split at h
  · exact .inl (Except.ok.inj h).symm
  · simp only [outcome_bind_eq_ok, outcome_pure, Except.ok.injEq] at h
    obtain ⟨records, -, rfl⟩ := h
    exact .inr ⟨_, rfl⟩

/-- What holds of some rows, and stays when a joining field is expanded in each of them, holds of the expanded rows. -/
theorem expandAll_induction {p : List Row → Prop} {store : Store Id} {fields : List Field} {rows expanded : List Row}
    (start : p rows)
    (step : ∀ field ∈ fields, field.join.isSome = true → ∀ rows byKey, p rows → p (rows.map (expandRow field byKey)))
    (h : outcome (expandAll store fields rows) = .ok expanded) : p expanded := by
  induction fields generalizing rows with
  | nil =>
    obtain rfl := Except.ok.inj h
    exact start
  | cons field rest ih =>
    obtain ⟨here, later⟩ := List.forall_mem_cons.mp step
    unfold expandAll at h
    split at h
    · next join joins =>
      simp only [outcome_bind_eq_ok] at h
      obtain ⟨middle, hexpand, h⟩ := h
      refine ih ?_ later h
      obtain rfl | ⟨byKey, rfl⟩ := cases_of_expand hexpand
      · exact start
      · exact here (Option.isSome_iff_exists.mpr ⟨join, joins⟩) rows byKey start
    · exact ih start later h

theorem length_expandAll {store : Store Id} {fields : List Field} {rows expanded : List Row}
    (h : outcome (expandAll store fields rows) = .ok expanded) : expanded.length = rows.length := by
  refine expandAll_induction (p := fun expanded => expanded.length = rows.length) rfl ?_ h
  intro field _ _ before byKey same
  rw [List.length_map, same]

/-- Fields without joins leave rows as they are. -/
theorem expandAll_of_plain {m : Type → Type} [Monad m] (store : Store m) {fields : List Field}
    (plain : ∀ field ∈ fields, field.join = none) (rows : List Row) : expandAll store fields rows = pure rows := by
  induction fields with
  | nil => rfl
  | cons field rest ih =>
    obtain ⟨here, later⟩ := List.forall_mem_cons.mp plain
    unfold expandAll
    rw [here]
    exact ih later

section Texts

variable {rows : List Row} {column : String} {key : Json}

private theorem text_of_mem_keys
    (texts : ∀ row ∈ rows, ∀ value, row.lookup column = some value → ∃ s, value = .str s) (h : key ∈ keys rows column) :
    ∃ row ∈ rows, ∃ s, row.lookup column = some (.str s) ∧ key = .str s := by
  obtain ⟨row, hrow, hkey⟩ := mem_of_mem_keys h
  cases held : row.lookup column with
  | none =>
    rw [held] at hkey
    cases hkey
  | some value =>
    obtain ⟨s, rfl⟩ := texts row hrow value held
    rw [held] at hkey
    exact ⟨row, hrow, s, held, List.mem_singleton.mp hkey⟩

/-- Where all values of a column are texts, the keys are these texts. -/
theorem mem_keys_iff_of_texts
    (texts : ∀ row ∈ rows, ∀ value, row.lookup column = some value → ∃ s, value = .str s) :
    key ∈ keys rows column ↔ ∃ row ∈ rows, row.lookup column = some key := by
  constructor
  · intro h
    obtain ⟨row, hrow, s, held, rfl⟩ := text_of_mem_keys texts h
    exact ⟨row, hrow, held⟩
  · rintro ⟨row, hrow, held⟩
    obtain ⟨s, rfl⟩ := texts row hrow key held
    have joins : .str s ∈ values (row.lookup column) := held ▸ List.mem_singleton_self _
    obtain ⟨kept, hkept, same⟩ := exists_key hrow joins
    -- Only texts are among the keys, so equal key texts are equal keys.
    obtain ⟨-, -, t, -, rfl⟩ := text_of_mem_keys texts hkept
    obtain rfl : t = s := same
    exact hkept

end Texts

end Join


/-! ## Pages -/

namespace CollectionGrid

/-- The stored documents on the page of a grid. -/
def documents (store : MemoryStore) (grid : CollectionGrid) : List Row :=
  store.selected grid.collection grid.selection

/-- The rows of a page before their joins are expanded: its documents, cut to the columns of the grid. -/
def cut (grid : CollectionGrid) (documents : List Row) : List Row :=
  documents.map (·.project grid.columns)

theorem mem_documents {store : MemoryStore} {grid : CollectionGrid} {doc : Row} (h : doc ∈ grid.documents store) :
    doc ∈ store.rows grid.collection ∧ grid.plan.predicate.holds doc = true :=
  MemoryStore.mem_of_mem_selected h

/-- The rows that a store has found for a page, before their joins are expanded. -/
def Finds (store : Store Id) (grid : CollectionGrid) (rows : List Row) : Prop :=
  ∃ found, outcome (store.find grid.collection grid.selection) = .ok found ∧
    rows = found.take grid.plan.pagination.limit

/-- A page that is fetched has been counted and found, and its joins have been expanded. -/
theorem exists_of_fetch {store : Store Id} {grid : CollectionGrid} {page : Page}
    (h : outcome (grid.fetch store) = .ok page) :
    ∃ total rows, outcome (store.count grid.collection grid.plan.predicate) = .ok total ∧ grid.Finds store rows ∧
      outcome (Join.expandAll store grid.plan.table.shown rows) = .ok page.rows ∧
      page.pagination = { grid.plan.pagination with total := max total rows.length } := by
  unfold fetch at h
  split at h
  · simp at h
  split at h
  · simp at h
  simp only [CollectionGrid.page, outcome_bind_eq_ok, Except.ok.injEq, outcome_pure] at h
  obtain ⟨total, htotal, found, hfound, expanded, hexpanded, rfl⟩ := h
  exact ⟨total, _, htotal, ⟨found, hfound, rfl⟩, hexpanded, rfl⟩

/-- A page that is fetched is made of the documents of its grid. -/
theorem fetch_eq_ok {store : MemoryStore} {grid : CollectionGrid} {page : Page}
    (h : outcome (grid.fetch store.toStore) = .ok page) :
    outcome (Join.expandAll store.toStore grid.plan.table.shown (grid.cut (grid.documents store))) = .ok page.rows ∧
      page.pagination = { grid.plan.pagination with
        total := max (store.count grid.collection grid.plan.predicate) (grid.documents store).length } := by
  obtain ⟨total, _, htotal, ⟨found, hfound, rfl⟩, hexpanded, hpagination⟩ := exists_of_fetch h
  obtain rfl := Except.ok.inj ((MemoryStore.outcome_count ..).symm.trans htotal)
  obtain rfl := Except.ok.inj ((MemoryStore.outcome_find ..).symm.trans hfound)
  have cut : (store.find grid.collection grid.selection).take grid.plan.pagination.limit =
      grid.cut (grid.documents store) := by
    rw [MemoryStore.find_eq, ← List.map_take]
    refine congrArg (List.map _) (List.take_of_length_le ?_)
    exact List.length_take_le ..
  rw [cut] at hexpanded hpagination
  exact ⟨hexpanded, by rw [hpagination, CollectionGrid.cut, List.length_map]⟩

section Memory

variable {store : MemoryStore} {grid : CollectionGrid} {page : Page}

/-- The total of a page counts the documents that its grid lets through. -/
theorem total_of_fetch (h : outcome (grid.fetch store.toStore) = .ok page) :
    page.pagination.total = (store.rows grid.collection).countP grid.plan.predicate.holds := by
  have fits : (grid.documents store).length ≤ store.count grid.collection grid.plan.predicate := by
    have sorted : (store.sorted grid.collection grid.plan.predicate grid.plan.sortKeys).length =
        store.count grid.collection grid.plan.predicate := List.length_mergeSort _
    rw [← sorted]
    exact Nat.le_trans (List.length_take_le' ..) (List.drop_sublist ..).length_le
  rw [(fetch_eq_ok h).2]
  dsimp only
  rw [Nat.max_eq_left fits, MemoryStore.count, MemoryStore.matching, List.countP_eq_length_filter]

/-- A page that is not full shows every document that the grid lets through. -/
theorem mem_documents_of_lt {limit : Nat} (hpage : grid.plan.pagination = .window limit 1)
    (room : (grid.documents store).length < limit) (doc : Row) :
    doc ∈ grid.documents store ↔ doc ∈ store.rows grid.collection ∧ grid.plan.predicate.holds doc = true := by
  have window : grid.documents store =
      (store.sorted grid.collection grid.plan.predicate grid.plan.sortKeys).take limit := by
    unfold documents MemoryStore.selected selection Selection.window
    simp [hpage, Pagination.window]
  rw [window, List.length_take] at room
  rw [window, List.take_of_length_le (by omega), MemoryStore.mem_sorted]

/-- The rows of a grid without joins are its documents, cut to its columns. -/
theorem rows_of_plain (plain : ∀ field ∈ grid.plan.table.shown, field.join = none)
    (h : outcome (grid.fetch store.toStore) = .ok page) : page.rows = grid.cut (grid.documents store) := by
  have expanded := (fetch_eq_ok h).1
  rw [Join.expandAll_of_plain store.toStore plain, outcome_pure] at expanded
  exact (Except.ok.inj expanded).symm

/-- The page of a request without complaints, once its joins are expanded. -/
theorem outcome_fetch (fresh : grid.fetched = false) (quiet : grid.complaints = []) {expanded : List Row}
    (h : outcome (Join.expandAll store.toStore grid.plan.table.shown
      ((store.find grid.collection grid.selection).take grid.plan.pagination.limit)) = .ok expanded) :
    outcome (grid.fetch store.toStore) = .ok {
      rows := expanded
      pagination := { grid.plan.pagination with
        total := max (store.count grid.collection grid.plan.predicate)
          ((store.find grid.collection grid.selection).take grid.plan.pagination.limit).length } } := by
  have accepted : grid.plan.rejection? = none := by
    rw [QueryPlan.rejection?, QueryPlan.isValid, show grid.plan.complaints = [] from quiet]
    rfl
  unfold fetch
  rw [fresh, if_neg nofun, accepted]
  exact outcome_bind_eq_ok.mpr ⟨_, MemoryStore.outcome_count .., outcome_bind_eq_ok.mpr
    ⟨_, MemoryStore.outcome_find .., outcome_bind_eq_ok.mpr ⟨_, h, outcome_pure _⟩⟩⟩

/-- A request without complaints has its page, if there are no joins to expand. -/
theorem exists_page_of_plain (store : MemoryStore) (fresh : grid.fetched = false) (quiet : grid.complaints = [])
    (plain : ∀ field ∈ grid.plan.table.shown, field.join = none) :
    ∃ page, outcome (grid.fetch store.toStore) = .ok page :=
  ⟨_, outcome_fetch fresh quiet (by rw [Join.expandAll_of_plain store.toStore plain, outcome_pure])⟩

end Memory

end CollectionGrid

end DataGrid
