-- SUMMARY: The pages of a request cut its result into pieces that follow each other.
import Mathlib.Algebra.Order.Floor.Div
import DataGrid.Proofs.CollectionGrid
import DataGrid.Proofs.QueryPlan

/-!
# Pages of one request

Requests that differ in their page alone have one predicate, one order and one page
size, and each page shows a window of the same result. The windows follow each other,
so the pages up to the last put the result together again. The number of rows to skip
is cut off at the greatest count, and by then no row is left.
-/

namespace DataGrid

/-! ## Windows -/

namespace Selection

/-- Windows of one size that follow each other make up the beginning of a list. -/
theorem flatMap_window {α : Type} (size : Nat) (rows : List α) (count : Nat) :
    (List.range count).flatMap (fun i => (rows.drop (i * size)).take size) = rows.take (count * size) := by
  induction count with
  | zero => simp
  | succ count ih =>
    rw [List.range_succ, List.flatMap_append, ih, List.flatMap_singleton, Nat.succ_mul, List.take_add]

/-- As many windows as it takes to reach the end of a list make up the list. -/
theorem flatMap_window_ceilDiv {α : Type} {size : Nat} (positive : 0 < size) (rows : List α) :
    (List.range (rows.length ⌈/⌉ size)).flatMap (fun i => (rows.drop (i * size)).take size) = rows := by
  have reached : rows.length ≤ (rows.length ⌈/⌉ size) * size := by
    rw [mul_comm, ← smul_eq_mul]
    exact le_smul_ceilDiv positive
  rw [flatMap_window, List.take_of_length_le reached]

end Selection

/-! ## Requests that differ in their page -/

namespace Request

/-- The request for a page by its number. -/
def onPage (request : Request) (page : Nat) : Request :=
  { request with page := some (.ofNat page) }

/-- The page size that is asked for, or the default if none is usable. -/
def pageSize (request : Request) : Nat :=
  (request.limit.bind Pagination.positive?).getD Pagination.defaultLimit

theorem pageSize_pos (request : Request) : 0 < request.pageSize := by
  unfold pageSize
  cases chosen : request.limit.bind Pagination.positive? with
  | none => decide
  | some size =>
    obtain ⟨value, -, usable⟩ := Option.bind_eq_some_iff.mp chosen
    exact (Pagination.positive?_eq_some_iff.mp usable).positive

end Request

namespace QueryPlan

/-- Checking clauses does not look at the window of a plan. -/
theorem takeAll_window (plan : QueryPlan) (window : Pagination) (clauses : List (Capability × Row)) :
    takeAll { plan with pagination := window } clauses = { plan.takeAll clauses with pagination := window } := by
  induction clauses generalizing plan with
  | nil => rfl
  | cons c rest ih =>
    have step : takeClause { plan with pagination := window } c.1 c.2 =
        { plan.takeClause c.1 c.2 with pagination := window } := by
      unfold takeClause
      dsimp only
      split <;> rfl
    change takeAll (takeClause { plan with pagination := window } c.1 c.2) rest = _
    rw [step]
    exact ih _

/-- The plan of a request is what its clauses make of an empty plan, with the window that the request names. -/
theorem ofRequest_eq (table : FieldTable) (request : Request) :
    ofRequest table request =
      { takeAll { table, criteria := .empty, complaints := [], pagination := .initial } request.clauses with
        pagination := .window request.pageSize ((request.page.bind Pagination.positive?).getD Pagination.defaultPage) } := by
  rw [← takeAll_window]
  rfl

/-- The plan for a page differs from that of the request in its window alone. -/
theorem ofRequest_onPage (table : FieldTable) (request : Request) {page : Nat} (positive : 0 < page)
    (fits : page ≤ Number.greatestInt) :
    ofRequest table (request.onPage page) =
      { ofRequest table request with pagination := .window request.pageSize page } := by
  have read : (request.onPage page).page.bind Pagination.positive? = some page := Pagination.positive?_ofNat positive fits
  rw [ofRequest_eq, ofRequest_eq table request, read]
  rfl

end QueryPlan


/-! ## Pages -/

namespace CollectionGrid

section

variable {collection : String} {table : FieldTable} {request : Request} {store : MemoryStore}

/-- The grid that fetches one page of a request. -/
def onPage (collection : String) (table : FieldTable) (request : Request) (page : Nat) : CollectionGrid :=
  .ofRequest collection table (request.onPage page)

/-- The whole result of a request: every document that its grid lets through, sorted, cut to the columns. -/
def result (collection : String) (table : FieldTable) (request : Request) (store : MemoryStore) : List Row :=
  let grid := ofRequest collection table request
  store.find collection { grid.selection with skip := 0, limit := none }

/-- The result has one row for each document that the grid lets through. -/
theorem result_perm (collection : String) (table : FieldTable) (request : Request) (store : MemoryStore) :
    (result collection table request store).Perm
      (((store.rows collection).filter (ofRequest collection table request).plan.predicate.holds).map
        (·.project (ofRequest collection table request).columns)) :=
  (List.mergeSort_perm ..).map _

/-- The documents of a page are a window of the sorted ones. -/
theorem rows_onPage {page : Nat} (positive : 0 < page) (fits : page ≤ Number.greatestInt) :
    (onPage collection table request page).cut ((onPage collection table request page).documents store) =
      ((result collection table request store).drop (min ((page - 1) * request.pageSize) Number.greatestInt)).take
        request.pageSize := by
  have plan := QueryPlan.ofRequest_onPage table request positive fits
  simp only [onPage, ofRequest, cut, columns, documents, MemoryStore.selected, selection, plan, result, MemoryStore.find_eq]
  rw [← List.map_drop, ← List.map_take]
  rfl

/-- Every page of a request without complaints is fetched: it is a window of the result, and its total counts the
documents that the grid lets through. -/
theorem exists_onPage (store : MemoryStore) (plain : ∀ field ∈ table.shown, field.join = none)
    (quiet : (ofRequest collection table request).complaints = []) {page : Nat} (positive : 0 < page)
    (fits : page ≤ Number.greatestInt) :
    ∃ fetched : Page, outcome ((onPage collection table request page).fetch store.toStore) = .ok fetched ∧
      fetched.rows = ((result collection table request store).drop
        (min ((page - 1) * request.pageSize) Number.greatestInt)).take request.pageSize ∧
      fetched.pagination.total =
        (store.rows collection).countP (ofRequest collection table request).plan.predicate.holds := by
  have plan : (onPage collection table request page).plan =
      { (ofRequest collection table request).plan with pagination := .window request.pageSize page } :=
    QueryPlan.ofRequest_onPage table request positive fits
  have calm : (onPage collection table request page).complaints = [] := by
    rw [complaints, plan]
    exact quiet
  have unjoined : ∀ field ∈ (onPage collection table request page).plan.table.shown, field.join = none := by
    rw [plan, ofRequest, QueryPlan.table_ofRequest]
    exact plain
  obtain ⟨fetched, hfetch⟩ := exists_page_of_plain store rfl calm unjoined
  refine ⟨fetched, hfetch, ?_, ?_⟩
  · rw [rows_of_plain unjoined hfetch, rows_onPage positive fits]
  · rw [total_of_fetch hfetch, plan]
    rfl

/-- How many documents a request is about. -/
def matchCount (collection : String) (table : FieldTable) (request : Request) (store : MemoryStore) : Nat :=
  (store.rows collection).countP (ofRequest collection table request).plan.predicate.holds

theorem length_result (collection : String) (table : FieldTable) (request : Request) (store : MemoryStore) :
    (result collection table request store).length = matchCount collection table request store := by
  rw [(result_perm ..).length_eq, List.length_map, matchCount, List.countP_eq_length_filter]

/-- The pages of a request without complaints partition its result. Each page is fetched, has the total of all and is
no longer than the page size. The pages up to the last, one after the other, are the result: one row for each document
that the request is about. Behind the last page there are only empty ones. -/
theorem pages_partition (store : MemoryStore) (plain : ∀ field ∈ table.shown, field.join = none)
    (quiet : (ofRequest collection table request).complaints = [])
    (small : (store.rows collection).length ≤ Number.greatestInt) :
    ∃ pages : Nat → Page,
      (∀ page, 0 < page → page ≤ Number.greatestInt →
        outcome ((onPage collection table request page).fetch store.toStore) = .ok (pages page) ∧
        (pages page).pagination.total = matchCount collection table request store ∧
        (pages page).rows.length ≤ request.pageSize ∧
        (matchCount collection table request store ⌈/⌉ request.pageSize < page → (pages page).rows = [])) ∧
      (List.range (matchCount collection table request store ⌈/⌉ request.pageSize)).flatMap
        (fun before => (pages (before + 1)).rows) = result collection table request store ∧
      (result collection table request store).Perm
        (((store.rows collection).filter (ofRequest collection table request).plan.predicate.holds).map
          (·.project (ofRequest collection table request).columns)) := by
  have size := request.pageSize_pos
  have bound : matchCount collection table request store ≤ Number.greatestInt :=
    Nat.le_trans List.countP_le_length small
  have length := length_result collection table request store
  -- A page number out of range has a page too, which nothing is said about.
  have every (page : Nat) : ∃ fetched : Page, 0 < page → page ≤ Number.greatestInt →
      outcome ((onPage collection table request page).fetch store.toStore) = .ok fetched ∧
      fetched.rows = ((result collection table request store).drop
        (min ((page - 1) * request.pageSize) Number.greatestInt)).take request.pageSize ∧
      fetched.pagination.total = matchCount collection table request store := by
    by_cases range : 0 < page ∧ page ≤ Number.greatestInt
    · obtain ⟨fetched, spec⟩ := exists_onPage store plain quiet range.1 range.2
      exact ⟨fetched, fun _ _ => spec⟩
    · exact ⟨⟨[], .initial⟩, fun positive fits => absurd ⟨positive, fits⟩ range⟩
  choose pages spec using every
  refine ⟨pages, fun page positive fits => ?_, ?_, result_perm ..⟩
  · obtain ⟨fetch, rows, total⟩ := spec page positive fits
    refine ⟨fetch, total, ?_, fun beyond => ?_⟩
    · rw [rows]
      exact List.length_take_le ..
    · have past : matchCount collection table request store ≤ (page - 1) * request.pageSize := by
        have least := ceilDiv_le_iff_le_smul size |>.mp (Nat.le_sub_one_of_lt beyond)
        rwa [smul_eq_mul, mul_comm] at least
      rw [rows, List.drop_of_length_le (by omega), List.take_nil]
  · conv_rhs => rw [← Selection.flatMap_window_ceilDiv size (result collection table request store), length]
    refine List.flatMap_congr fun before hbefore => ?_
    have inside : before * request.pageSize < matchCount collection table request store := by
      have shown := List.mem_range.mp hbefore
      rw [← not_le, ceilDiv_le_iff_le_smul size, not_le, smul_eq_mul, mul_comm] at shown
      exact shown
    have few : before ≤ before * request.pageSize := Nat.le_mul_of_pos_right before size
    rw [(spec (before + 1) (by omega) (by omega)).2.1, Nat.add_sub_cancel, Nat.min_eq_left (by omega)]

end


/-! ## Pages of numbers -/

namespace Numbers

/-- A column of numbers that can be sorted. -/
def table : FieldTable :=
  ⟨[("n", {
    name := "n"
    column := "n"
    displayName := "n"
    shown := true
    searchable := false
    filterable := false
    rangeable := false
    sortable := true
    join := none })]⟩

/-- The greatest numbers first, two on a page. -/
def request : Request :=
  { Request.empty with sort := some [("n", .str "descending")], limit := some (.ofNat 2) }

def store : MemoryStore :=
  ⟨[("numbers", [[("n", .ofNat 1)], [("n", .ofNat 2)], [("n", .ofNat 3)]])]⟩

/-- Of the three numbers the greatest comes first. -/
theorem result_eq : result "numbers" table request store = [[("n", .ofNat 3)], [("n", .ofNat 2)], [("n", .ofNat 1)]] := by
  have keys : (ofRequest "numbers" table request).plan.sortKeys = [⟨"n", .descending⟩] := by decide +kernel
  have columns : (ofRequest "numbers" table request).columns = ["n"] := by decide +kernel
  have matching : store.matching "numbers" (ofRequest "numbers" table request).plan.predicate =
      [[("n", .ofNat 1)], [("n", .ofNat 2)], [("n", .ofNat 3)]] := by decide +kernel
  have reversed {le : Row → Row → Bool} {a b c : Row} (hba : le a b = false) (hcb : le b c = false) :
      [a, b, c].mergeSort le = [c, b, a] := by
    simp [List.mergeSort, List.MergeSort.Internal.splitInTwo, hba, hcb]
  have sorted : store.sorted "numbers" (ofRequest "numbers" table request).plan.predicate [⟨"n", .descending⟩] =
      [[("n", .ofNat 3)], [("n", .ofNat 2)], [("n", .ofNat 1)]] := by
    rw [MemoryStore.sorted, matching]
    exact reversed (by decide +kernel) (by decide +kernel)
  simp only [result, MemoryStore.find_eq, MemoryStore.selected, selection, keys, columns, sorted]
  decide +kernel

end Numbers

/-- Three numbers on pages of two, the greatest first: two pages hold them, and the third page holds none. -/
theorem pages_partition_numbers : ∃ pages : Nat → Page,
    (∀ field ∈ Numbers.table.shown, field.join = none) ∧
    (ofRequest "numbers" Numbers.table Numbers.request).complaints = [] ∧
    (Numbers.store.rows "numbers").length ≤ Number.greatestInt ∧ Numbers.request.pageSize = 2 ∧
    (pages 1).rows = [[("n", .ofNat 3)], [("n", .ofNat 2)]] ∧ (pages 2).rows = [[("n", .ofNat 1)]] ∧
    (pages 1).rows ++ (pages 2).rows = result "numbers" Numbers.table Numbers.request Numbers.store ∧
    (pages 3).rows = [] ∧ ∀ page ∈ [1, 2, 3], (pages page).pagination.total = 3 := by
  have plain : ∀ field ∈ Numbers.table.shown, field.join = none := by decide
  have quiet : (ofRequest "numbers" Numbers.table Numbers.request).complaints = [] := by decide +kernel
  have small : (Numbers.store.rows "numbers").length ≤ Number.greatestInt := by decide
  have size : Numbers.request.pageSize = 2 := by decide
  have count : matchCount "numbers" Numbers.table Numbers.request Numbers.store = 3 := by decide +kernel
  obtain ⟨pages, each, joined, -⟩ := pages_partition Numbers.store plain quiet small
  obtain ⟨-, -, -, empty⟩ := each 3 (by decide) (by decide)
  rw [count, size] at joined empty
  have rows (page : Nat) (positive : 0 < page) (fits : page ≤ Number.greatestInt) :
      (pages page).rows = ([[("n", Json.ofNat 3)], [("n", .ofNat 2)], [("n", .ofNat 1)]].drop
        (min ((page - 1) * 2) Number.greatestInt)).take 2 := by
    obtain ⟨fetched, fetch, window, -⟩ := exists_onPage Numbers.store plain quiet positive fits
    obtain rfl := Except.ok.inj ((each page positive fits).1.symm.trans fetch)
    rw [window, Numbers.result_eq, size]
  refine ⟨pages, plain, quiet, small, size, rows 1 (by decide) (by decide), rows 2 (by decide) (by decide), ?_,
    empty (by decide), ?_⟩
  · rw [← joined]
    simp [Nat.ceilDiv_eq_add_pred_div, List.range_succ]
  · intro page hpage
    have range : 0 < page ∧ page ≤ Number.greatestInt := by
      revert page
      decide
    exact (each page range.1 range.2).2.1.trans count

end CollectionGrid

end DataGrid
