-- SUMMARY: Remotes that keep out of each other's way can be listed in any order.
import DataGrid.Proofs.Phases
import DataGrid.Proofs.RemoteFields
import DataGrid.Proofs.Reordering
import DataGrid.Proofs.StoredKeys

/-!
# The order of remotes

Resolving, the page, the projection and the told configuration do not depend on the order
in which a definition lists its remotes. Merging does where the names of one remote get in
the way of another: records are merged into one row, one remote after the other, and each
looks for its join column in what the remotes before it have left.
-/

namespace DataGrid

/-! ## Separate remotes -/

/-- Merging the records of a remote leaves alone the join column of another one, and the first keys of its names are none of
the other's. -/
def RemoteDefinition.Yields (remote other : RemoteDefinition) : Prop :=
  ∀ table, remote.table = .ok table → ∀ parameter ∈ table.shown,
    Row.Clear (Text.segments remote.primaryKey) (Text.segments other.primaryKey) (Text.segments parameter.name) ∧
      ∀ table', other.table = .ok table' → ∀ parameter' ∈ table'.shown,
        (Text.segments parameter.name).head? ≠ (Text.segments parameter'.name).head?

instance (remote other : RemoteDefinition) : Decidable (remote.Yields other) :=
  decidable_of_iff (∀ table ∈ remote.table.toOption, ∀ parameter ∈ table.shown,
      Row.Clear (Text.segments remote.primaryKey) (Text.segments other.primaryKey) (Text.segments parameter.name) ∧
        ∀ table' ∈ other.table.toOption, ∀ parameter' ∈ table'.shown,
          (Text.segments parameter.name).head? ≠ (Text.segments parameter'.name).head?) <| by
    simp only [RemoteDefinition.Yields, Option.mem_def, Outcome.toOption_eq_some]

/-- No parameter of a remote is one of another. -/
def RemoteDefinition.Disjoint (remote other : RemoteDefinition) : Prop :=
  ∀ name ∈ Keyed.keys remote.parameters, name ∉ Keyed.keys other.parameters

instance (remote other : RemoteDefinition) : Decidable (remote.Disjoint other) :=
  inferInstanceAs (Decidable (∀ name ∈ Keyed.keys remote.parameters, _))

namespace RemoteGrid

/-- Two remotes do not know a field under one name, and their records are merged in either order. -/
structure Separate (a b : RemoteGrid) : Prop where
  fields : ∀ e ∈ a.table.fields, ∀ f ∈ b.table.fields, e.1 ≠ f.1
  merging : ∀ caller rows data data', outcome (a.mergeData caller rows) = .ok data →
    outcome (b.mergeData caller rows) = .ok data' → ∀ row,
      data.mergeRow a.definition.primaryKey (data'.mergeRow b.definition.primaryKey row) =
        data'.mergeRow b.definition.primaryKey (data.mergeRow a.definition.primaryKey row)

variable {remote a b : RemoteGrid}

/-- The keys of a renamed record are first keys of names that are shown. -/
theorem exists_field_of_mem_keys_rename {record : Row} {key : String} (h : key ∈ Keyed.keys (remote.rename record)) :
    ∃ field ∈ remote.table.shown, (Text.segments field.name).head? = some key := by
  by_contra unnamed
  have apart : ∀ field ∈ remote.table.shown, Row.Apart (Text.segments field.name) [key] := by
    intro field hfield
    apply Row.apart_of_head?_ne (Text.segments_ne_nil _) (by simp)
    exact fun same => unnamed ⟨field, hfield, same⟩
  have absent : Keyed.get? (remote.rename record) key = none := (spares_rename (by simp) apart record).at?_eq_none
  exact Keyed.get?_eq_none_iff.mp absent h

theorem separate_of_yields (tableA : a.definition.table = .ok a.table) (tableB : b.definition.table = .ok b.table)
    (disjoint : a.definition.Disjoint b.definition) (left : a.definition.Yields b.definition)
    (right : b.definition.Yields a.definition) : a.Separate b where
  fields := by
    rintro ⟨name, field⟩ he ⟨name', field'⟩ hf same
    obtain rfl : name = name' := same
    apply disjoint name
    · rw [← RemoteDefinition.keys_of_table tableA]
      exact Keyed.mem_keys_of_mem he
    · rw [← RemoteDefinition.keys_of_table tableB]
      exact Keyed.mem_keys_of_mem hf
  merging := by
    intro caller rows data data' ha hb
    apply MergeData.mergeRow_comm
    · intro r hr s hs key inA inB
      obtain ⟨record, rfl⟩ := exists_record_of_mergeData ha hr
      obtain ⟨record', rfl⟩ := exists_record_of_mergeData hb hs
      obtain ⟨p, hp, first⟩ := exists_field_of_mem_keys_rename inA
      obtain ⟨q, hq, first'⟩ := exists_field_of_mem_keys_rename inB
      exact (left _ tableA p hp).2 _ tableB q hq (first.trans first'.symm)
    · exact at?_mergeRow (Text.segments_ne_nil _) ha fun p hp => (left _ tableA p hp).1
    · exact at?_mergeRow (Text.segments_ne_nil _) hb fun q hq => (right _ tableB q hq).1

end RemoteGrid


/-! ## Pages -/

/-- Which entries are taken out goes by the names, whatever their order. -/
theorem Request.without_congr (request : Request) {names names' : List String}
    (same : ∀ name, name ∈ names ↔ name ∈ names') : request.without names = request.without names' := by
  have strips : strip names = strip names' := by
    funext clause
    apply List.filter_congr
    intro e _
    rw [Bool.eq_iff_iff, Bool.not_eq_true', Bool.not_eq_true', ← Bool.not_eq_true, ← Bool.not_eq_true,
      List.contains_iff_mem, List.contains_iff_mem, same]
  rw [without, without, strips]

/-- Criteria that ask for the same let the same rows through, in whatever order they ask. -/
theorem Criteria.holds_congr {c d : Criteria} (freeText : c.freeText = d.freeText) (query : c.query = d.query)
    (queryKeys : ∀ place, place ∈ c.queryKeys ↔ place ∈ d.queryKeys)
    (fragments : ∀ kind f, f ∈ c.fragments kind ↔ f ∈ d.fragments kind) (row : Row) :
    c.predicate.holds row = d.predicate.holds row := by
  have some : c.queryKeys ≠ [] ↔ d.queryKeys ≠ [] := by
    simp only [ne_eq, List.eq_nil_iff_forall_not_mem, queryKeys]
  have finds : c.FoundIn row ↔ d.FoundIn row := by
    simp only [FoundIn, query, queryKeys]
  rw [Bool.eq_iff_iff, holds_predicate, holds_predicate, freeText, some, finds]
  simp only [fragments]

namespace CollectionGrid

/-- Two grids that ask for the same page, though they may list its columns in different orders. -/
structure Alike (a b : CollectionGrid) : Prop where
  collection : a.collection = b.collection
  table : a.plan.table = b.plan.table
  holds : ∀ row, a.plan.predicate.holds row = b.plan.predicate.holds row
  sortKeys : a.plan.sortKeys = b.plan.sortKeys
  pagination : a.plan.pagination = b.plan.pagination
  columns : a.columns.Perm b.columns

theorem Alike.page_eq {store : MemoryStore} {a b : CollectionGrid} (alike : Alike a b)
    (ordered : ∀ doc ∈ store.rows a.collection, (Json.obj doc).isOrdered = true) {page page' : Page}
    (ha : outcome (a.fetch store.toStore) = .ok page) (hb : outcome (b.fetch store.toStore) = .ok page') : page = page' := by
  have matching : store.matching a.collection a.plan.predicate = store.matching b.collection b.plan.predicate := by
    rw [MemoryStore.matching, MemoryStore.matching, alike.collection, funext alike.holds]
  have documents : a.documents store = b.documents store := by
    simp only [documents, MemoryStore.selected, MemoryStore.sorted, selection, matching, alike.sortKeys, alike.pagination]
  have cut : a.cut (a.documents store) = b.cut (b.documents store) := by
    rw [CollectionGrid.cut, CollectionGrid.cut, ← documents]
    apply List.map_congr_left
    intro doc hdoc
    exact Row.project_perm (ordered doc (mem_documents hdoc).1) alike.columns
  obtain ⟨rows, pagination⟩ := fetch_eq_ok ha
  obtain ⟨rows', pagination'⟩ := fetch_eq_ok hb
  rw [cut, alike.table, rows'] at rows
  rw [MemoryStore.count, matching, documents, alike.pagination, ← MemoryStore.count, ← pagination'] at pagination
  obtain ⟨pageRows, pagePagination⟩ := page
  obtain ⟨pageRows', pagePagination'⟩ := page'
  obtain rfl := Except.ok.inj rows
  obtain rfl : pagePagination = pagePagination' := pagination
  rfl

end CollectionGrid


/-! ## Grids -/

namespace CompositeGrid

/-- Two grids for one request that differ in the order of their remotes, and of the columns that these need. -/
structure Reordered (grid grid' : CompositeGrid) : Prop where
  request : grid.request = grid'.request
  remotes : grid.remotes.Perm grid'.remotes
  collection : grid.primary.collection = grid'.primary.collection
  plan : grid.primary.plan = grid'.primary.plan
  columns : grid.primary.extraColumns.Perm grid'.primary.extraColumns

private theorem nodup_extraColumns_foldl (remotes : List RemoteDefinition) {primary : CollectionGrid}
    (distinct : primary.extraColumns.Nodup) :
    (remotes.foldl (fun primary remote => primary.requireColumn remote.primaryKey) primary).extraColumns.Nodup := by
  induction remotes generalizing primary with
  | nil => exact distinct
  | cons remote rest ih =>
    have next : (primary.requireColumn remote.primaryKey).extraColumns.Nodup := by
      unfold CollectionGrid.requireColumn
      split
      · exact distinct
      · next fresh => exact List.nodup_append_comm.mp (List.nodup_cons.mpr ⟨fresh, distinct⟩)
    exact ih next

variable {definition : GridDefinition} {remotes : List RemoteDefinition} {header body : Json} {grid grid' : CompositeGrid}

/-- Definitions that list their remotes in different orders make grids that do. -/
theorem reordered_of_perm (perm : definition.remotes.Perm remotes) (hgrid : ofJson definition header body = .ok grid)
    (hgrid' : ofJson { definition with remotes } header body = .ok grid') : Reordered grid grid' := by
  have made := made_of_ofJson hgrid
  have made' := made_of_ofJson hgrid'
  have request : grid.request = grid'.request := Except.ok.inj (made.request_eq.symm.trans made'.request_eq)
  have names : ∀ name, name ∈ definition.remoteFields ↔ name ∈ GridDefinition.remoteFields { definition with remotes } := by
    intro name
    simp only [mem_remoteFields, perm.mem_iff]
  refine ⟨request, ?_, made.collection_eq.trans made'.collection_eq.symm, ?_, ?_⟩
  · have others := made'.remotes
    rw [← request] at others
    refine List.rel_perm_imp ?_ made.remotes others perm
    intro d remote remote' h h'
    exact Except.ok.inj (h.symm.trans h')
  · rw [made.plan_eq, made'.plan_eq, ← request, Request.without_congr _ names]
  · simp only [ofJson, Outcome.bind_eq_ok, Outcome.pure_eq_ok] at hgrid hgrid'
    obtain ⟨_, -, _, -, rfl⟩ := hgrid
    obtain ⟨_, -, _, -, rfl⟩ := hgrid'
    apply (List.perm_ext_iff_of_nodup (nodup_extraColumns_foldl _ List.nodup_nil)
      (nodup_extraColumns_foldl _ List.nodup_nil)).mpr
    intro column
    rw [mem_extraColumns_foldl, mem_extraColumns_foldl]
    exact or_congr Iff.rfl (exists_congr fun remote => and_congr_left' perm.mem_iff)

/-! ## Resolved grids -/

section

variable {caller : Caller Id} {resolved resolved' : CompositeGrid}

theorem request_of_resolve (h : outcome (grid.resolve caller) = .ok resolved) : resolved.request = grid.request := by
  obtain ⟨_, _, -, -, rfl⟩ := gather_of_resolve h
  rfl

/-- Each remote is resolved on its own. -/
theorem Reordered.remotes_resolved (h : Reordered grid grid') (hresolve : outcome (grid.resolve caller) = .ok resolved)
    (hresolve' : outcome (grid'.resolve caller) = .ok resolved') : resolved.remotes.Perm resolved'.remotes := by
  obtain ⟨_, _, gathered, -, rfl⟩ := gather_of_resolve hresolve
  obtain ⟨_, _, gathered', -, rfl⟩ := gather_of_resolve hresolve'
  refine List.rel_perm_imp ?_ (forall₂_of_gather gathered) (forall₂_of_gather gathered') (h.remotes.map _)
  rintro outcome next next' ⟨_, rfl⟩ ⟨_, same⟩
  exact (Prod.mk.inj (Except.ok.inj same)).2

/-- The remotes restrict the page to the same rows. -/
theorem Reordered.alike (h : Reordered grid grid') (hresolve : outcome (grid.resolve caller) = .ok resolved)
    (hresolve' : outcome (grid'.resolve caller) = .ok resolved') : resolved.primary.Alike resolved'.primary := by
  obtain ⟨found, resolution⟩ := resolve_eq_ok hresolve
  obtain ⟨found', resolution'⟩ := resolve_eq_ok hresolve'
  have constraints (shape : CallShape) (c : String × List Json) :
      c ∈ constraintsOf shape found ↔ c ∈ constraintsOf shape found' := by
    rw [resolution.mem_constraintsOf, resolution'.mem_constraintsOf]
    exact exists_congr fun remote => and_congr_left' h.remotes.mem_iff
  have fragments (kind : Capability) (f : String × Fragment) : f ∈ resolved.primary.plan.criteria.fragments kind ↔
      f ∈ resolved'.primary.plan.criteria.fragments kind := by
    rw [resolution.fragments_eq, resolution'.fragments_eq, h.plan, List.mem_append, List.mem_append]
    apply or_congr Iff.rfl
    split
    · simp only [List.mem_map, constraints]
    · exact Iff.rfl
  have queryKeys (place : String × List Json) : place ∈ resolved.primary.plan.criteria.queryKeys ↔
      place ∈ resolved'.primary.plan.criteria.queryKeys := by
    rw [resolution.primary_eq, resolution'.primary_eq, h.plan, List.mem_append, List.mem_append, constraints]
  constructor
  case collection => rw [resolution.primary_eq, resolution'.primary_eq, h.collection]
  case table => rw [resolution.primary_eq, resolution'.primary_eq, h.plan]
  case holds =>
    apply Criteria.holds_congr _ _ queryKeys fragments
    · rw [resolution.primary_eq, resolution'.primary_eq, h.plan]
    · rw [resolution.primary_eq, resolution'.primary_eq, h.plan]
  case sortKeys =>
    rw [resolution.primary_eq, resolution'.primary_eq, h.plan]
    rfl
  case pagination => rw [resolution.primary_eq, resolution'.primary_eq, h.plan]
  case columns =>
    rw [resolution.primary_eq, resolution'.primary_eq, CollectionGrid.columns, CollectionGrid.columns, h.plan]
    exact (h.columns.filter _).append_left _

end


/-! ## Envelopes -/

/-- Merging goes remote by remote, and separate remotes can be merged in any order. -/
theorem mergeOnto_perm {remotes remotes' : List RemoteGrid} (perm : remotes.Perm remotes')
    (separate : remotes.Pairwise RemoteGrid.Separate) (caller : Caller Id) (rows : List Row) (row : Row) :
    mergeOnto (mergesOf caller rows remotes) row = mergeOnto (mergesOf caller rows remotes') row := by
  rw [mergeOnto, mergeOnto, mergesOf, mergesOf, List.foldl_map, List.foldl_map]
  apply foldl_eq_of_perm perm
  refine separate.imp fun {a b} separate row => ?_
  cases ha : outcome (a.mergeData caller rows) with
  | error => rfl
  | ok data =>
    cases hb : outcome (b.mergeData caller rows) with
    | error => rfl
    | ok data' => exact (separate.merging caller rows data data' ha hb row).symm

theorem projection_perm (perm : grid.remotes.Perm grid'.remotes)
    (table : grid.primary.plan.table = grid'.primary.plan.table) : grid.projection = grid'.projection := by
  have flat (grid : CompositeGrid) : grid.projection =
      grid.primary.plan.table.projection.insertAll (grid.remotes.flatMap (·.projection.pairs)) :=
    (List.foldl_flatMap ..).symm
  rw [flat, flat, ← table]
  apply Projection.insertAll_perm _ (perm.flatMap_right _)
  intro pair hpair
  obtain ⟨remote, -, hpair⟩ := List.mem_flatMap.mp hpair
  exact remote.isDiagonal_projection pair hpair

theorem configuration_perm (perm : grid.remotes.Perm grid'.remotes)
    (separate : grid.remotes.Pairwise RemoteGrid.Separate)
    (table : grid.primary.plan.table = grid'.primary.plan.table) : grid.configuration = grid'.configuration := by
  have told (grid : CompositeGrid) : grid.configuration = grid.remotes.foldl (fun all remote =>
      remote.table.toPublic.foldl Keyed.insertNew all) grid.primary.plan.table.toPublic := rfl
  rw [told, told, ← table]
  apply foldl_eq_of_perm perm
  refine separate.imp fun {a b} separate all => foldl_foldl_comm ?_ all
  intro e he f hf all
  obtain ⟨e', he', rfl⟩ := List.mem_map.mp he
  obtain ⟨f', hf', rfl⟩ := List.mem_map.mp hf
  exact Keyed.insertNew_comm all (separate.fields e' he' f' hf')

/-- The order in which remotes are listed makes no difference to what is fetched, if no two of them have a parameter in
common or get in each other's way. -/
theorem fetch_eq_of_perm {store : MemoryStore} {caller : Caller Id} {version : String} {envelope envelope' : Envelope}
    (disjoint : definition.remotes.Pairwise RemoteDefinition.Disjoint)
    (yields : definition.remotes.Pairwise fun a b => a.Yields b ∧ b.Yields a) (perm : definition.remotes.Perm remotes)
    (ordered : ∀ doc ∈ store.rows definition.collection, (Json.obj doc).isOrdered = true)
    (hgrid : ofJson definition header body = .ok grid)
    (hgrid' : ofJson { definition with remotes } header body = .ok grid')
    (hfetch : outcome (grid.fetch store.toStore caller version) = .ok envelope)
    (hfetch' : outcome (grid'.fetch store.toStore caller version) = .ok envelope') : envelope = envelope' := by
  have made := made_of_ofJson hgrid
  have reordered := reordered_of_perm perm hgrid hgrid'
  obtain ⟨-, resolved, page, hresolve, hpage, rfl⟩ := fetch_eq_ok hfetch
  obtain ⟨-, resolved', page', hresolve', hpage', rfl⟩ := fetch_eq_ok hfetch'
  have alike := reordered.alike hresolve hresolve'
  have remotes := reordered.remotes_resolved hresolve hresolve'
  have separate : resolved.remotes.Pairwise RemoteGrid.Separate := by
    rw [← made.resolved_definitions hresolve, List.pairwise_map] at disjoint yields
    apply (disjoint.and yields).imp_of_mem
    rintro a b ha hb ⟨disjoint, left, right⟩
    exact RemoteGrid.separate_of_yields (made.resolved_remote hresolve ha).2 (made.resolved_remote hresolve hb).2 disjoint
      left right
  obtain rfl : page = page' := by
    apply alike.page_eq _ hpage hpage'
    obtain ⟨found, resolution⟩ := resolve_eq_ok hresolve
    rw [resolution.primary_eq, made.collection_eq]
    exact ordered
  have rows : mergeAll page.rows (mergesOf caller page.rows resolved.remotes) =
      mergeAll page.rows (mergesOf caller page.rows resolved'.remotes) := by
    rw [mergeAll_eq, mergeAll_eq]
    apply List.map_congr_left
    intro row _
    exact mergeOnto_perm remotes separate caller page.rows row
  rw [envelope, envelope, rows, request_of_resolve hresolve, request_of_resolve hresolve', reordered.request,
    projection_perm remotes alike.table, configuration_perm remotes separate alike.table, alike.table]


/-! ## Orders of two remotes -/

namespace Branches

/-- A grid of orders with two remotes, the customers and the branches. The customers know their own branch, which is shown
under a name. -/
def description (name : String) : Json :=
  .obj [
    ("apis", .arr [
      .obj [
        ("apiCall", .obj [("cmd", .str "customers"), ("role", .str "crm")]),
        ("foreignKey", .str "id"),
        ("inputParameters", .obj [(name, .str "branch")]),
        ("primaryKey", .str "customer")],
      .obj [
        ("apiCall", .obj [("cmd", .str "branches"), ("role", .str "crm")]),
        ("foreignKey", .str "id"),
        ("inputParameters", .obj [("city", .str "city")]),
        ("primaryKey", .str "branch")]]),
    ("collection", .str "orders"),
    ("fields", .obj [("title", .obj [("search", .bool true)])])]

/-- An order of the customer `c1` at the branch `b1`. -/
def store : MemoryStore :=
  ⟨[("orders", [[("branch", .str "b1"), ("customer", .str "c1"), ("title", .str "alpha")]])]⟩

/-- The customer `c1`, who belongs to the branch `b2`, and the branch `b1`. -/
def caller : Caller Id := fun call =>
  if call.address.cmd = "customers" then pure (.ofRows [[("branch", .str "b2"), ("id", .str "c1")]])
  else pure (.ofRows [[("city", .str "Oslo"), ("id", .str "b1")]])

/-- The definition with its remotes in the opposite order. -/
def flip (definition : GridDefinition) : GridDefinition :=
  { definition with remotes := definition.remotes.reverse }

/-- What is fetched for the empty request. -/
def fetched (definition : GridDefinition) : Option (CompositeGrid × Envelope) := do
  let grid ← (ofJson definition .null (.obj [])).toOption
  let envelope ← (outcome (grid.fetch store.toStore caller "1")).toOption
  return (grid, envelope)

theorem fetched_eq_some {definition : GridDefinition} {grid : CompositeGrid} {envelope : Envelope} :
    fetched definition = some (grid, envelope) ↔ ofJson definition .null (.obj []) = .ok grid ∧
      outcome (grid.fetch store.toStore caller "1") = .ok envelope := by
  simp only [fetched, Option.bind_eq_bind, Option.bind_eq_some_iff, Outcome.toOption_eq_some, Option.pure_def,
    Option.some.injEq, Prod.mk.injEq]
  constructor
  · rintro ⟨_, hgrid, _, hfetch, rfl, rfl⟩
    exact ⟨hgrid, hfetch⟩
  · rintro ⟨hgrid, hfetch⟩
    exact ⟨grid, hgrid, envelope, hfetch, rfl, rfl⟩

end Branches

/-- The branch of the customer is shown under a name of its own, and so it is fetched, as the city is, in either order. -/
theorem fetch_eq_of_perm_branches : ∃ definition grid grid' envelope envelope',
    GridDefinition.decode (Branches.description "home") = .ok definition ∧
    ofJson definition .null (.obj []) = .ok grid ∧ ofJson (Branches.flip definition) .null (.obj []) = .ok grid' ∧
    outcome (grid.fetch Branches.store.toStore Branches.caller "1") = .ok envelope ∧
    outcome (grid'.fetch Branches.store.toStore Branches.caller "1") = .ok envelope' ∧
    envelope.content = [[("city", .str "Oslo"), ("home", .str "b2"), ("title", .str "alpha")]] ∧ envelope = envelope' := by
  have both : ((GridDefinition.decode (Branches.description "home")).toOption.any fun definition =>
      decide (definition.collection = "orders" ∧ definition.remotes.Pairwise RemoteDefinition.Disjoint ∧
        definition.remotes.Pairwise fun a b => a.Yields b ∧ b.Yields a) &&
      (Branches.fetched definition).any fun run => (Branches.fetched (Branches.flip definition)).any fun _ =>
        decide (run.2.content = [[("city", .str "Oslo"), ("home", .str "b2"), ("title", .str "alpha")]])) = true := by
    decide +kernel
  obtain ⟨definition, decoded, both⟩ := (Option.any_eq_true _ _).mp both
  rw [Bool.and_eq_true, decide_eq_true_eq] at both
  obtain ⟨⟨collection, disjoint, yields⟩, both⟩ := both
  obtain ⟨⟨grid, envelope⟩, run, both⟩ := (Option.any_eq_true _ _).mp both
  obtain ⟨⟨grid', envelope'⟩, run', content⟩ := (Option.any_eq_true _ _).mp both
  obtain ⟨hgrid, hfetch⟩ := Branches.fetched_eq_some.mp run
  obtain ⟨hgrid', hfetch'⟩ := Branches.fetched_eq_some.mp run'
  have ordered : ∀ doc ∈ Branches.store.rows definition.collection, (Json.obj doc).isOrdered = true := by
    rw [collection]
    decide +kernel
  exact ⟨definition, grid, grid', envelope, envelope', Outcome.toOption_eq_some.mp decoded, hgrid, hgrid', hfetch, hfetch',
    of_decide_eq_true content,
    fetch_eq_of_perm disjoint yields (List.reverse_perm _).symm ordered hgrid hgrid' hfetch hfetch'⟩

/-- A parameter with the name of a join column: once the customers are merged, the order joins by the branch of its customer,
of which no record has been fetched, and the city is left out. It is shown if the branches are merged first. -/
theorem city_lost_to_order : ∃ definition grid grid' envelope envelope',
    GridDefinition.decode (Branches.description "branch") = .ok definition ∧ definition.check "orders" = .ok () ∧
    (Branches.flip definition).check "orders" = .ok () ∧ definition.remotes.Pairwise RemoteDefinition.Disjoint ∧
    definition.remotes.Perm (Branches.flip definition).remotes ∧
    ofJson definition .null (.obj []) = .ok grid ∧ ofJson (Branches.flip definition) .null (.obj []) = .ok grid' ∧
    outcome (grid.fetch Branches.store.toStore Branches.caller "1") = .ok envelope ∧
    outcome (grid'.fetch Branches.store.toStore Branches.caller "1") = .ok envelope' ∧
    envelope.content = [[("branch", .str "b2"), ("title", .str "alpha")]] ∧
    envelope'.content = [[("branch", .str "b2"), ("city", .str "Oslo"), ("title", .str "alpha")]] := by
  have both : ((GridDefinition.decode (Branches.description "branch")).toOption.any fun definition =>
      ((definition.check "orders").toOption.isSome && ((Branches.flip definition).check "orders").toOption.isSome) &&
      (decide (definition.remotes.Pairwise RemoteDefinition.Disjoint) &&
      (Branches.fetched definition).any fun run => (Branches.fetched (Branches.flip definition)).any fun run' =>
        decide (run.2.content = [[("branch", .str "b2"), ("title", .str "alpha")]] ∧
          run'.2.content = [[("branch", .str "b2"), ("city", .str "Oslo"), ("title", .str "alpha")]]))) = true := by
    decide +kernel
  obtain ⟨definition, decoded, both⟩ := (Option.any_eq_true _ _).mp both
  simp only [Bool.and_eq_true, decide_eq_true_eq] at both
  obtain ⟨⟨checked, checked'⟩, disjoint, both⟩ := both
  obtain ⟨⟨grid, envelope⟩, run, both⟩ := (Option.any_eq_true _ _).mp both
  obtain ⟨⟨grid', envelope'⟩, run', contents⟩ := (Option.any_eq_true _ _).mp both
  obtain ⟨_, checked⟩ := Option.isSome_iff_exists.mp checked
  obtain ⟨_, checked'⟩ := Option.isSome_iff_exists.mp checked'
  obtain ⟨hgrid, hfetch⟩ := Branches.fetched_eq_some.mp run
  obtain ⟨hgrid', hfetch'⟩ := Branches.fetched_eq_some.mp run'
  obtain ⟨content, content'⟩ := of_decide_eq_true contents
  exact ⟨definition, grid, grid', envelope, envelope', Outcome.toOption_eq_some.mp decoded,
    Outcome.toOption_eq_some.mp checked, Outcome.toOption_eq_some.mp checked', disjoint, (List.reverse_perm _).symm, hgrid,
    hgrid', hfetch, hfetch', content, content'⟩

end CompositeGrid

end DataGrid
