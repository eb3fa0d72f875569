-- SUMMARY: Requests that see documents from outside, and stores whose documents look alike.
import DataGrid.Proofs.CollectionGrid
import DataGrid.Proofs.Erasing
import DataGrid.Proofs.Sql.PlanTests

/-!
# Views of documents

The tests of a request compare with scalars, so they do not look inside objects, and
neither does sorting. Two stores whose documents have the same views count and find
alike, if the predicate, the order and the shape of a selection go by the views.
-/

namespace DataGrid

/-! ## Tests and order -/

namespace Predicate

/-- A test that no object passes does not look inside objects. -/
theorem someValue_surface {test : Json → Bool} (objects : ∀ members, test (.obj members) = false) (held : Option Json) :
    someValue test (held.map Json.surface) = someValue test held := by
  cases held with
  | none => rfl
  | some value =>
    cases value with
    | obj members => exact (objects []).trans (objects members).symm
    | _ => rfl

section

variable {column : String} {a b : Row} (same : (a.lookup column).map Json.surface = (b.lookup column).map Json.surface)

include same

theorem someValue_congr {test : Json → Bool} (objects : ∀ members, test (.obj members) = false) :
    someValue test (a.lookup column) = someValue test (b.lookup column) := by
  rw [← someValue_surface objects, same, someValue_surface objects]

theorem holds_contains_congr (text : String) : (contains column text).holds a = (contains column text).holds b := by
  rw [holds, holds]
  exact someValue_congr same fun _ => rfl

end

end Predicate

/-- No object is equal to a scalar. -/
theorem Json.looselyEqual_obj {value : Json} (scalar : value.isScalar = true) (members : List (String × Json)) :
    (Json.obj members).looselyEqual value = false := by
  cases value with
  | obj => cases scalar
  | _ => rfl

namespace Fragment

/-- The values that a fragment compares for equality. -/
def sought : Fragment → List Json
  | .term value => [value]
  | .among values => values
  | .within _ | .sorted _ => []

/-- Fragments look for scalars. -/
theorem isScalar_of_ofValue? {kind : Capability} {value : Json} {fragment : Fragment}
    (suits : ofValue? kind value = some fragment) : ∀ v ∈ fragment.sought, v.isScalar = true := by
  cases kind with
  | display => cases suits
  | search =>
    simp only [ofValue?_search, Option.ite_none_right_eq_some, Option.some.injEq] at suits
    obtain ⟨usable, rfl⟩ := suits
    refine List.forall_mem_singleton.mpr ?_
    cases value with
    | str => rfl
    | _ => exact usable
  | filter =>
    rw [ofValue?_filter] at suits
    obtain ⟨values, hvalues, rfl⟩ := Option.map_eq_some_iff.mp suits
    unfold Clause.filterValues? at hvalues
    split at hvalues
    · simp only [Option.ite_none_right_eq_some, Option.some.injEq, Bool.and_eq_true, List.all_eq_true] at hvalues
      obtain ⟨⟨-, scalars⟩, rfl⟩ := hvalues
      exact scalars
    · simp only [Option.ite_none_right_eq_some, Option.some.injEq] at hvalues
      obtain ⟨scalar, rfl⟩ := hvalues
      exact List.forall_mem_singleton.mpr scalar
  | range =>
    rw [ofValue?_range] at suits
    obtain ⟨bounds, -, rfl⟩ := Option.map_eq_some_iff.mp suits
    exact List.forall_mem_nil _
  | sort =>
    rw [ofValue?_sort] at suits
    obtain ⟨direction, -, rfl⟩ := Option.map_eq_some_iff.mp suits
    exact List.forall_mem_nil _

/-- What a fragment demands of a column does not look inside objects. -/
theorem holds_surface {kind : Capability} {value : Json} {fragment : Fragment}
    (suits : ofValue? kind value = some fragment) {column : String} {a b : Row}
    (same : (a.lookup column).map Json.surface = (b.lookup column).map Json.surface) :
    (fragment.predicate column).holds a = (fragment.predicate column).holds b := by
  cases fragment with
  | sorted => rfl
  | within bounds =>
    rw [predicate, Predicate.holds, Predicate.holds]
    exact Predicate.someValue_congr same fun _ => rfl
  | among values =>
    have scalars : ∀ v ∈ values, v.isScalar = true := isScalar_of_ofValue? suits
    rw [predicate, Predicate.holds, Predicate.holds]
    refine Predicate.someValue_congr same fun members => List.any_eq_false.mpr fun v hv => ?_
    simp [Json.looselyEqual_obj (scalars v hv)]
  | term sought =>
    have scalar : sought.isScalar = true := isScalar_of_ofValue? suits sought (List.mem_singleton_self sought)
    cases sought with
    | str text => exact Predicate.holds_contains_congr same text
    | _ =>
      rw [predicate, Predicate.holds, Predicate.holds]
      · exact Predicate.someValue_congr same (Json.looselyEqual_obj scalar)
      all_goals nofun

end Fragment

namespace QueryPlan

/-- Two rows look the same at the columns of the fields that grant something. -/
def SameGranted (table : FieldTable) (a b : Row) : Prop :=
  ∀ f ∈ table.fields, ∀ kind, kind ≠ .display → f.2.grants kind = true →
    (a.lookup f.2.column).map Json.surface = (b.lookup f.2.column).map Json.surface

variable {table : FieldTable} {request : Request} {plan : QueryPlan} {a b a' b' : Row}

/-- A plan without complaints sees nothing of a row but the columns of fields that grant something, from outside. -/
theorem Covers.holds_congr (covers : Covers table request plan) (same : SameGranted table a b) :
    plan.predicate.holds a = plan.predicate.holds b := by
  have named : (∀ kind, ∀ f ∈ plan.criteria.fragments kind, (f.2.predicate f.1).holds a = true) ↔
      ∀ kind, ∀ f ∈ plan.criteria.fragments kind, (f.2.predicate f.1).holds b = true := by
    refine forall_congr' fun kind => forall₂_congr fun f hf => ?_
    by_cases display : kind = .display
    · subst display
      cases hf
    obtain ⟨field, hfield, column, grants, _, suits⟩ := covers.exists_granting display hf
    rw [Fragment.holds_surface suits (column ▸ same field hfield kind display grants)]
  have text : plan.criteria.FoundIn a ↔ plan.criteria.FoundIn b := by
    unfold Criteria.FoundIn
    rw [covers.queryKeys_eq]
    refine or_congr (exists_congr fun place => and_congr_right fun hplace => ?_) (by simp)
    rw [covers.query_eq, List.mem_flatMap] at hplace
    obtain ⟨text, -, hplace⟩ := hplace
    obtain ⟨column, hcolumn, rfl⟩ := List.mem_map.mp hplace
    obtain ⟨field, hfield, searchable, rfl⟩ := FieldTable.mem_searchableColumns.mp hcolumn
    have seen := same field hfield .search (by decide) searchable
    rw [Predicate.holds_contains_congr seen]
  rw [Bool.eq_iff_iff, predicate, Criteria.holds_predicate, Criteria.holds_predicate, named, text]

/-- A plan without complaints sorts rows by the columns of fields that grant it, from outside. -/
theorem Covers.order_congr (covers : Covers table request plan) (left : SameGranted table a a')
    (right : SameGranted table b b') : Row.order plan.sortKeys a b = Row.order plan.sortKeys a' b' := by
  have keys : ∀ key ∈ plan.sortKeys, key.order a b = key.order a' b' := by
    intro key hkey
    obtain ⟨e, he, rfl⟩ := List.mem_map.mp hkey
    obtain ⟨field, hfield, column, grants, -⟩ := covers.exists_granting (show Capability.sort ≠ .display by decide)
      (List.mem_map.mpr ⟨e, he, rfl⟩ : (e.1, Fragment.sorted e.2) ∈ _)
    dsimp only at column
    have sees (x y : Row) := Json.sortOrder_surface (x.lookup e.1) (y.lookup e.1)
    rw [SortKey.order, SortKey.order]
    dsimp only
    rw [← sees, ← column, left field hfield .sort (by decide) grants, right field hfield .sort (by decide) grants, column, sees]
  generalize plan.sortKeys = list at keys
  induction list with
  | nil => rfl
  | cons key rest ih =>
    obtain ⟨here, later⟩ := List.forall_mem_cons.mp keys
    rw [Row.order, Row.order, here, ih later]

end QueryPlan


/-! ## Stores -/

theorem Selection.map_window {α β : Type} (f : α → β) (skip : Nat) (limit : Option Nat) (rows : List α) :
    (window skip limit rows).map f = window skip limit (rows.map f) := by
  unfold window
  split
  · rw [List.map_take, List.map_drop]
  · exact List.map_drop

namespace MemoryStore

/-- Two stores hold the same, but for some columns in the documents of one collection. -/
structure AgreeBut (collection : String) (columns : List String) (store store' : MemoryStore) : Prop where
  alike : (store.rows collection).map (Row.eraseAll columns) = (store'.rows collection).map (Row.eraseAll columns)
  others : ∀ other, other ≠ collection → store.rows other = store'.rows other

section

variable {store store' : MemoryStore} {collection : String} {view : Row → Row} {predicate : Predicate}
  {keys : List SortKey} {selection : Selection}
  (alike : (store.rows collection).map view = (store'.rows collection).map view)

/-- A predicate sees of a document what it sees of its view. -/
def SeesBy (view : Row → Row) (predicate : Predicate) : Prop :=
  ∀ doc, predicate.holds (view doc) = predicate.holds doc

/-- Documents are sorted as their views are. -/
def SortsBy (view : Row → Row) (keys : List SortKey) : Prop :=
  ∀ a b, Row.order keys (view a) (view b) = Row.order keys a b

theorem map_matching (sees : SeesBy view predicate) (store : MemoryStore) (collection : String) :
    (store.matching collection predicate).map view = ((store.rows collection).map view).filter predicate.holds := by
  rw [List.filter_map, show predicate.holds ∘ view = predicate.holds from funext sees]
  rfl

include alike

theorem count_congr (sees : SeesBy view predicate) : store.count collection predicate = store'.count collection predicate := by
  have views := congrArg (List.length ∘ List.filter predicate.holds) alike
  rw [count, count]
  simpa only [Function.comp_apply, ← map_matching sees, List.length_map] using views

/-- What is picked by what is seen of the documents has the same views in both stores. -/
theorem map_selected_congr (sees : SeesBy view selection.predicate) (sorts : SortsBy view selection.sort) :
    (store.selected collection selection).map view = (store'.selected collection selection).map view := by
  have sorted (store : MemoryStore) : (store.sorted collection selection.predicate selection.sort).map view =
      (((store.rows collection).map view).filter selection.predicate.holds).mergeSort fun a b =>
        (Row.order selection.sort a b).isLE := by
    rw [← map_matching sees]
    exact List.map_mergeSort fun a _ b _ => by rw [sorts]
  rw [selected, selected, Selection.map_window, Selection.map_window, sorted, sorted, alike]

/-- What is found by what is seen of the documents is the same in both stores. -/
theorem find_congr (sees : SeesBy view selection.predicate) (sorts : SortsBy view selection.sort)
    (shapes : ∀ doc, selection.shape (view doc) = selection.shape doc) :
    store.find collection selection = store'.find collection selection := by
  have found (store : MemoryStore) : store.find collection selection =
      ((store.selected collection selection).map view).map selection.shape := by
    rw [find_eq, List.map_map, show selection.shape ∘ view = selection.shape from funext shapes]
  rw [found, found, map_selected_congr alike sees sorts]

end

end MemoryStore

end DataGrid
