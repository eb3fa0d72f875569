-- SUMMARY: What a successful run of a composite grid has gone through, and which documents it shows.
import DataGrid.Proofs.CompositeGrid

/-!
# Runs of composite grids

A run that succeeds has resolved every remote and shows the documents of the
restricted collection. Such a document satisfies the local criteria, the keys of
every exact call, and, where the request has a free text, one of its places.
-/

namespace DataGrid

namespace CompositeGrid

/-- Merge into one row what the remotes have provided. -/
def mergeOnto (merges : List (RemoteGrid × Result MergeData)) (row : Row) : Row :=
  merges.foldl (fun row merge =>
    match merge.2 with
    | .ok data => data.mergeRow merge.1.definition.primaryKey row
    | .error _ => row) row

/-- Rows are merged one by one. -/
theorem mergeAll_eq (rows : List Row) (merges : List (RemoteGrid × Result MergeData)) :
    mergeAll rows merges = rows.map (mergeOnto merges) := by
  unfold mergeAll
  induction merges generalizing rows with
  | nil => exact (List.map_id rows).symm
  | cons merge rest ih =>
    obtain ⟨remote, error | data⟩ := merge
    · exact ih rows
    · exact (ih _).trans List.map_map

theorem length_mergeAll (rows : List Row) (merges : List (RemoteGrid × Result MergeData)) :
    (mergeAll rows merges).length = rows.length := by
  rw [mergeAll_eq, List.length_map]

/-- What remotes that answer as functions provide to merge into some rows. -/
def mergesOf (caller : Caller Id) (rows : List Row) (remotes : List RemoteGrid) : List (RemoteGrid × Result MergeData) :=
  remotes.map fun remote => (remote, outcome (remote.mergeData caller rows))

/-- What a run that succeeds has gone through: a request without complaints, resolved remotes, and a fetched page. -/
theorem fetch_eq_ok {store : Store Id} {caller : Caller Id} {version : String} {grid : CompositeGrid}
    {envelope : Envelope} (h : outcome (grid.fetch store caller version) = .ok envelope) :
    grid.complaints = [] ∧ ∃ resolved page, outcome (grid.resolve caller) = .ok resolved ∧
      outcome (resolved.primary.fetch store) = .ok page ∧
      envelope = resolved.envelope version (mergeAll page.rows (mergesOf caller page.rows resolved.remotes))
        page.pagination := by
  unfold fetch at h
  split at h
  · simp only [run] at h
    split at h
    · obtain ⟨_, thrown, -⟩ := outcome_bind_eq_ok.mp h
      cases thrown
    · next quiet =>
      simp only [outcome_bind_eq_ok, outcome_pure, outcome_lift, Except.ok.injEq, exists_eq_left'] at h
      obtain ⟨resolved, hresolved, page, hpage, rfl⟩ := h
      rw [Bool.not_eq_true, Bool.not_eq_false', List.isEmpty_iff] at quiet
      have merges : (askMerges caller page.rows resolved.remotes).run = mergesOf caller page.rows resolved.remotes :=
        List.idRun_mapM
      exact ⟨quiet, resolved, page, hresolved, hpage, by rw [merges]⟩
  · simp at h

/-- The envelope of the page that a grid fetches. The rows of the page come from documents of the store: these are cut to
the columns of the grid, and their joins are expanded. The page is the one that the plan names, and its total counts the
rows that the plan lets through. What the remotes provide for these rows is merged into them. -/
structure Shows (store : MemoryStore) (caller : Caller Id) (version : String) (grid : CompositeGrid)
    (documents : List Row) (envelope : Envelope) : Prop where
  page : ∃ page, outcome (grid.primary.fetch store.toStore) = .ok page ∧
    outcome (Join.expandAll store.toStore grid.primary.plan.table.shown (grid.primary.cut documents)) = .ok page.rows ∧
    page.pagination = { grid.primary.plan.pagination with
      total := (store.rows grid.primary.collection).countP grid.primary.plan.predicate.holds } ∧
    envelope =
      grid.envelope version (mergeAll page.rows (mergesOf caller page.rows grid.remotes)) page.pagination

/-- The envelope of a fetched page shows the documents of the grid. -/
theorem shows_of_fetch {store : MemoryStore} {grid : CompositeGrid} {page : Page}
    (h : outcome (grid.primary.fetch store.toStore) = .ok page) (caller : Caller Id) (version : String) :
    Shows store caller version grid (grid.primary.documents store)
      (grid.envelope version (mergeAll page.rows (mergesOf caller page.rows grid.remotes)) page.pagination) := by
  obtain ⟨expanded, pagination⟩ := CollectionGrid.fetch_eq_ok h
  refine ⟨page, h, expanded, ?_, rfl⟩
  rw [← CollectionGrid.total_of_fetch h, pagination]

/-- Each document shown has its row. -/
theorem Shows.length_content {store : MemoryStore} {caller : Caller Id} {version : String} {grid : CompositeGrid}
    {documents : List Row} {envelope : Envelope} (h : Shows store caller version grid documents envelope) :
    envelope.content.length = documents.length := by
  obtain ⟨page, -, expanded, -, rfl⟩ := h.page
  have content : (grid.envelope version (mergeAll page.rows (mergesOf caller page.rows grid.remotes))
      page.pagination).content =
      (mergeAll page.rows (mergesOf caller page.rows grid.remotes)).map
        (grid.projection.renameRow (some grid.primary.plan.table)) := rfl
  rw [content, List.length_map, length_mergeAll, Join.length_expandAll expanded, CollectionGrid.cut, List.length_map]

/-- A run that has succeeded. -/
structure Ran (definition : GridDefinition) (store : MemoryStore) (caller : Caller Id) (version : String)
    (grid resolved : CompositeGrid) (found : Found) (envelope : Envelope) : Prop where
  quiet : grid.complaints = []
  covers : QueryPlan.Covers definition.fields (grid.request.without definition.remoteFields) grid.primary.plan
  collection_eq : resolved.primary.collection = definition.collection
  resolve_eq : outcome (grid.resolve caller) = .ok resolved
  resolution : Resolved caller grid resolved found
  shows : Shows store caller version resolved (resolved.primary.documents store) envelope

theorem ran_of_fetch {definition : GridDefinition} {header body : Json} {grid : CompositeGrid} {store : MemoryStore}
    {caller : Caller Id} {version : String} {envelope : Envelope} (hgrid : ofJson definition header body = .ok grid)
    (hfetch : outcome (grid.fetch store.toStore caller version) = .ok envelope) :
    ∃ resolved found, Ran definition store caller version grid resolved found envelope := by
  have made := made_of_ofJson hgrid
  obtain ⟨quiet, resolved, page, hresolve, hpage, rfl⟩ := fetch_eq_ok hfetch
  obtain ⟨found, hfound⟩ := resolve_eq_ok hresolve
  have covers := (complaints_eq_nil.mp quiet).1
  rw [CollectionGrid.complaints, made.plan_eq] at covers
  refine ⟨resolved, found, quiet, ?_, ?_, hresolve, hfound, shows_of_fetch hpage caller version⟩
  · rw [made.plan_eq]
    exact QueryPlan.covers_of_complaints_eq_nil covers
  · rw [hfound.primary_eq]
    exact made.collection_eq

/-- The remotes of a resolved grid have the definitions and the tables of the definition. -/
theorem Made.resolved_remote {definition : GridDefinition} {header body : Json} {grid : CompositeGrid}
    (made : Made definition header body grid) {caller : Caller Id} {resolved : CompositeGrid}
    (h : outcome (grid.resolve caller) = .ok resolved) {remote : RemoteGrid} (hremote : remote ∈ resolved.remotes) :
    remote.definition ∈ definition.remotes ∧ remote.definition.table = .ok remote.table := by
  obtain ⟨asked, hasked, sameDefinition, sameTable⟩ := Outcome.exists_left_of_mem (remotes_of_resolve h) hremote
  obtain ⟨known, htable, -⟩ := made.remote hasked
  rw [sameDefinition, sameTable]
  exact ⟨known, htable⟩

theorem Made.resolved_definitions {definition : GridDefinition} {header body : Json} {grid : CompositeGrid}
    (made : Made definition header body grid) {caller : Caller Id} {resolved : CompositeGrid}
    (h : outcome (grid.resolve caller) = .ok resolved) : resolved.remotes.map (·.definition) = definition.remotes := by
  rw [← made.definitions]
  have remotes := remotes_of_resolve h
  generalize grid.remotes = asked at remotes
  generalize resolved.remotes = next at remotes
  induction remotes with
  | nil => rfl
  | cons same _ ih => exact congrArg₂ List.cons same.1 ih

/-- A resolved grid has the field table of its definition. -/
theorem Made.resolved_table {definition : GridDefinition} {header body : Json} {grid : CompositeGrid}
    (made : Made definition header body grid) {caller : Caller Id} {resolved : CompositeGrid}
    (h : outcome (grid.resolve caller) = .ok resolved) : resolved.primary.plan.table = definition.fields := by
  obtain ⟨found, resolution⟩ := resolve_eq_ok h
  rw [resolution.primary_eq, made.plan_eq]
  exact QueryPlan.table_ofRequest ..

theorem Resolved.fragments_eq {caller : Caller Id} {grid resolved : CompositeGrid} {found : Found}
    (h : Resolved caller grid resolved found) (kind : Capability) :
    resolved.primary.plan.criteria.fragments kind = grid.primary.plan.criteria.fragments kind ++
      if kind = .filter then (constraintsOf .exact found).map fun c => (c.1, .among c.2) else [] := by
  rw [h.primary_eq]
  cases kind <;> simp [Criteria.fragments]

section

variable {caller : Caller Id} {grid resolved : CompositeGrid} {found : Found}

theorem Resolved.exists_found (h : Resolved caller grid resolved found) {remote : RemoteGrid}
    (hremote : remote ∈ grid.remotes) : ∃ replies, (remote, replies) ∈ found := by
  rw [← h.remotes_eq] at hremote
  obtain ⟨⟨_, replies⟩, hmem, rfl⟩ := List.mem_map.mp hremote
  exact ⟨replies, hmem⟩

theorem Resolved.mem_remotes (h : Resolved caller grid resolved found) {f : RemoteGrid × List (CallShape × List Row)}
    (hf : f ∈ found) : f.1 ∈ grid.remotes :=
  h.remotes_eq ▸ List.mem_map_of_mem hf

/-- A body that a remote is sent has brought in records, which stand among the replies under the shape of the call. -/
theorem Resolved.brings (h : Resolved caller grid resolved found) {remote : RemoteGrid}
    {replies : List (CallShape × List Row)} (hfound : (remote, replies) ∈ found) {shape : CallShape} {body : Request}
    (hcall : (shape, body) ∈ remote.rendered.calls) :
    ∃ records, remote.Brings caller body records ∧ (shape, records) ∈ replies := by
  obtain ⟨⟨_, records⟩, hreply, rfl, hbrings⟩ := Outcome.exists_right_of_mem (h.answers _ hfound) hcall
  exact ⟨records, hbrings, hreply⟩

theorem Resolved.called (h : Resolved caller grid resolved found) {remote : RemoteGrid}
    {replies : List (CallShape × List Row)} (hfound : (remote, replies) ∈ found) {shape : CallShape} {records : List Row}
    (hreply : (shape, records) ∈ replies) :
    ∃ body, (shape, body) ∈ remote.rendered.calls ∧ remote.Brings caller body records := by
  obtain ⟨⟨_, body⟩, hcall, same, hbrings⟩ := Outcome.exists_left_of_mem (h.answers _ hfound) hreply
  obtain rfl : shape = _ := same
  exact ⟨body, hcall, hbrings⟩

/-- The constraints on the page are those of the calls that have brought in keys. -/
theorem Resolved.mem_constraintsOf (h : Resolved caller grid resolved found) {shape : CallShape}
    {c : String × List Json} :
    c ∈ constraintsOf shape found ↔
      ∃ remote ∈ grid.remotes, ∃ body, (shape, body) ∈ remote.rendered.calls ∧
        ∃ records, remote.Brings caller body records ∧ remote.keysOf records ≠ [] ∧
          c = (remote.definition.primaryKey, remote.keysOf records) := by
  simp only [constraintsOf, List.mem_flatMap, RemoteGrid.mem_constraintsOf]
  constructor
  · rintro ⟨⟨remote, replies⟩, hfound, records, hreply, hkeys, rfl⟩
    obtain ⟨body, hcall, hbrings⟩ := h.called hfound hreply
    exact ⟨remote, h.mem_remotes hfound, body, hcall, records, hbrings, hkeys, rfl⟩
  · rintro ⟨remote, hremote, body, hcall, records, hbrings, hkeys, rfl⟩
    obtain ⟨replies, hfound⟩ := h.exists_found hremote
    obtain ⟨records', hbrings', hreply⟩ := h.brings hfound hcall
    obtain rfl := hbrings.unique hbrings'
    exact ⟨(remote, replies), hfound, records, hreply, hkeys, rfl⟩

/-- Every exact call of a resolved grid has brought in keys. -/
theorem Resolved.exact_keys (h : Resolved caller grid resolved found) {remote : RemoteGrid}
    (hremote : remote ∈ grid.remotes) {exact : Request} (hexact : remote.rendered.exact = some exact) :
    ∃ records, remote.Brings caller exact records ∧ remote.keysOf records ≠ [] := by
  obtain ⟨replies, hfound⟩ := h.exists_found hremote
  obtain ⟨records, hbrings, hreply⟩ := h.brings hfound (Rendered.mem_calls_exact.mpr hexact)
  exact ⟨records, hbrings, h.exact _ hfound records hreply⟩

/-- A row joins, for every remote with an exact call, one of the keys of the records that the call brings in. -/
def JoinsExact (caller : Caller Id) (grid : CompositeGrid) (row : Row) : Prop :=
  ∀ remote ∈ grid.remotes, ∀ exact, remote.rendered.exact = some exact →
    ∃ records, remote.Brings caller exact records ∧
      (Predicate.oneOf remote.definition.primaryKey (remote.keysOf records)).holds row = true

theorem Resolved.joinsExact_iff (h : Resolved caller grid resolved found) (row : Row) :
    JoinsExact caller grid row ↔ ∀ c ∈ constraintsOf .exact found, (Predicate.oneOf c.1 c.2).holds row = true := by
  constructor
  · intro joins c hc
    obtain ⟨remote, hremote, exact, hcall, records, hbrings, -, rfl⟩ := h.mem_constraintsOf.mp hc
    obtain ⟨records', hbrings', holds⟩ := joins remote hremote exact (Rendered.mem_calls_exact.mp hcall)
    obtain rfl := hbrings.unique hbrings'
    exact holds
  · intro holds remote hremote exact hexact
    obtain ⟨records, hbrings, hkeys⟩ := h.exact_keys hremote hexact
    exact ⟨records, hbrings, holds _ (h.mem_constraintsOf.mpr
      ⟨remote, hremote, exact, Rendered.mem_calls_exact.mpr hexact, records, hbrings, hkeys, rfl⟩)⟩

end

/-- A row satisfies the named entries of a request that no remote answers for. -/
def MeetsLocal (definition : GridDefinition) (request : Request) (row : Row) : Prop :=
  ∀ kind, ∀ e ∈ request.entries kind, Clause.isNamed kind e.1 = true → e.1 ∉ definition.remoteFields →
    ∃ column fragment, Clause.accepted? definition.fields kind e = some (column, fragment) ∧
      (fragment.predicate column).holds row = true

/-- The usable free texts that the collection is asked for. -/
def localTexts (definition : GridDefinition) (request : Request) : List String :=
  Clause.freeTexts ((request.without definition.remoteFields).entries .search)

/-- A row holds a free text in a searchable column, or joins a key that a remote has found for it. -/
def FindsText (definition : GridDefinition) (request : Request) (found : Found) (row : Row) : Prop :=
  (∃ text ∈ localTexts definition request, ∃ column ∈ Clause.searchableColumns definition.fields,
      (Predicate.contains column text).holds row = true) ∨
    ∃ c ∈ constraintsOf .freeText found, (Predicate.oneOf c.1 c.2).holds row = true

section

variable {definition : GridDefinition} {store : MemoryStore} {caller : Caller Id} {version : String}
  {grid resolved : CompositeGrid} {found : Found} {envelope : Envelope}

theorem mem_entries_without {names : List String} {kind : Capability} {e : String × Json} {request : Request} :
    e ∈ (request.without names).entries kind ↔ e ∈ request.entries kind ∧ e.1 ∉ names := by
  simp [Request.entries_without, List.mem_filter]

/-- The fragments of the collection are those of the named entries that no remote answers for. -/
private theorem meetsLocal_iff (covers : QueryPlan.Covers definition.fields (grid.request.without definition.remoteFields)
    grid.primary.plan) (row : Row) :
    MeetsLocal definition grid.request row ↔
      ∀ kind, ∀ f ∈ grid.primary.plan.criteria.fragments kind, (f.2.predicate f.1).holds row = true := by
  refine forall_congr' fun kind => ?_
  by_cases hkind : kind = .display
  · subst hkind
    simp [Request.entries, Request.clause?, Criteria.fragments]
  rw [covers.fragments_eq kind hkind]
  simp only [List.mem_filterMap, mem_entries_without]
  constructor
  · rintro h ⟨column, fragment⟩ ⟨e, ⟨he, local_⟩, accepted⟩
    have hnamed := (Clause.accepted?_eq_some.mp accepted).1
    obtain ⟨column', fragment', accepted', holds⟩ := h e he hnamed local_
    obtain ⟨rfl, rfl⟩ := Prod.mk.inj (Option.some.inj (accepted.symm.trans accepted'))
    exact holds
  · intro h e he hnamed local_
    obtain ⟨⟨column, fragment⟩, accepted⟩ := Option.isSome_iff_exists.mp
      (covers.accepts kind e (mem_entries_without.mpr ⟨he, local_⟩) hnamed)
    exact ⟨column, fragment, accepted, h (column, fragment) ⟨e, ⟨he, local_⟩, accepted⟩⟩

/-- The fragments of a resolved grid are those of the grid, and the keys of the exact calls. -/
theorem Resolved.holds_fragments_iff (h : Resolved caller grid resolved found) (row : Row) :
    (∀ kind, ∀ f ∈ resolved.primary.plan.criteria.fragments kind, (f.2.predicate f.1).holds row = true) ↔
      (∀ kind, ∀ f ∈ grid.primary.plan.criteria.fragments kind, (f.2.predicate f.1).holds row = true) ∧
        JoinsExact caller grid row := by
  rw [h.joinsExact_iff]
  simp only [h.fragments_eq, List.mem_append]
  constructor
  · intro h
    exact ⟨fun kind f hf => h kind f (.inl hf),
      fun c hc => h .filter (c.1, .among c.2) (.inr (List.mem_map.mpr ⟨c, hc, rfl⟩))⟩
  · rintro ⟨named, exact⟩ kind f (hf | hf)
    · exact named kind f hf
    · split at hf
      · obtain ⟨c, hc, rfl⟩ := List.mem_map.mp hf
        exact exact c hc
      · cases hf

theorem Ran.queryKeys_eq (ran : Ran definition store caller version grid resolved found envelope) :
    resolved.primary.plan.criteria.queryKeys = constraintsOf .freeText found := by
  simp [ran.resolution.primary_eq, ran.covers.queryKeys_eq]

/-- A resolved grid looks for the free text in the searchable columns, and among the keys of the free-text calls. -/
theorem Ran.foundIn_iff (ran : Ran definition store caller version grid resolved found envelope) (row : Row) :
    resolved.primary.plan.criteria.FoundIn row ↔ FindsText definition grid.request found row := by
  have query : resolved.primary.plan.criteria.query = (localTexts definition grid.request).flatMap fun text =>
      (Clause.searchableColumns definition.fields).map (·, text) := by
    rw [ran.resolution.primary_eq]
    exact ran.covers.query_eq
  rw [Criteria.FoundIn, ran.queryKeys_eq, query]
  refine or_congr ?_ Iff.rfl
  simp only [List.mem_flatMap, List.mem_map]
  constructor
  · rintro ⟨_, ⟨text, htext, column, hcolumn, rfl⟩, holds⟩
    exact ⟨text, htext, column, hcolumn, holds⟩
  · rintro ⟨text, htext, column, hcolumn, holds⟩
    exact ⟨_, ⟨text, htext, column, hcolumn, rfl⟩, holds⟩

/-- The rows that a resolved grid lets through. -/
theorem Ran.holds_predicate (ran : Ran definition store caller version grid resolved found envelope) (row : Row) :
    resolved.primary.plan.predicate.holds row = true ↔
      (localTexts definition grid.request ≠ [] ∨ constraintsOf .freeText found ≠ [] →
        FindsText definition grid.request found row) ∧
      MeetsLocal definition grid.request row ∧ JoinsExact caller grid row := by
  have freeText : resolved.primary.plan.criteria.freeText = !(localTexts definition grid.request).isEmpty := by
    rw [ran.resolution.primary_eq]
    exact ran.covers.freeText_eq
  rw [QueryPlan.predicate, Criteria.holds_predicate, ran.foundIn_iff, freeText, ran.queryKeys_eq,
    ran.resolution.holds_fragments_iff, meetsLocal_iff ran.covers]
  exact and_congr (by simp) Iff.rfl

/-- A document that is shown is stored, and the resolved grid lets it through. -/
theorem Ran.mem_documents (ran : Ran definition store caller version grid resolved found envelope) {doc : Row}
    (h : doc ∈ resolved.primary.documents store) :
    doc ∈ store.rows definition.collection ∧ resolved.primary.plan.predicate.holds doc = true := by
  rw [← ran.collection_eq]
  exact CollectionGrid.mem_documents h

end


/-! ## Orders and their customers -/

namespace Orders

/-- Orders with a title, whose customers a remote knows under some parameters. -/
def definition (parameters : Keyed String) : GridDefinition where
  collection := "orders"
  fields := ⟨[("title", {
    name := "title"
    column := "title"
    displayName := "title"
    shown := true
    searchable := true
    filterable := true
    rangeable := false
    sortable := true
    join := none })]⟩
  remotes := [{
    address := ⟨"crm", "customers"⟩
    primaryKey := "customer"
    foreignKey := "id"
    parameters
    fields := []
    maxKeys := RemoteDefinition.defaultMaxKeys }]

/-- One order, of the customer `c1`. -/
def store : MemoryStore :=
  ⟨[("orders", [[("customer", .str "c1"), ("title", .str "alpha")]])]⟩

/-- A remote that finds the customer `c1` by named parameters and no one by a free text. -/
def caller : Caller Id := fun call =>
  match (call.body.member? Capability.search.key).bind (·.member? Request.freeTextKey) with
  | some _ => pure (.ofRows [])
  | none => pure (.ofRows [[("id", .str "c1")]])

/-- A request with some search entries. -/
def body (entries : Row) : Json :=
  .obj [(Capability.search.key, .obj entries)]

/-- The rows that are shown for some search entries. -/
def shown (parameters : Keyed String) (entries : Row) : Option (List Row) :=
  (ofJson (definition parameters) .null (body entries)).toOption.bind fun grid =>
    ((outcome (grid.fetch store.toStore caller "1")).toOption).map (·.content)

theorem shown_eq_some {parameters : Keyed String} {entries : Row} {rows : List Row} :
    shown parameters entries = some rows ↔ ∃ grid envelope,
      ofJson (definition parameters) .null (body entries) = .ok grid ∧
        outcome (grid.fetch store.toStore caller "1") = .ok envelope ∧ envelope.content = rows := by
  simp only [shown, Option.bind_eq_some_iff, Option.map_eq_some_iff, Outcome.toOption_eq_some, exists_and_left]

/-- A description of the grid of orders that shows their titles under a name, with some parameters of the remote. -/
def description (name : String) (parameters : Row) : Json :=
  .obj [
    ("apis", .arr [.obj [
      ("apiCall", .obj [("cmd", .str "customers"), ("role", .str "crm")]),
      ("foreignKey", .str "id"),
      ("inputParameters", .obj parameters),
      ("primaryKey", .str "customer")]]),
    ("collection", .str "orders"),
    ("fields", .obj [(name, .obj [("databaseName", .str "title"), ("search", .bool true)])])]

/-- A remote that answers every call with some records. -/
def customers (records : List Row) : Caller Id :=
  fun _ => pure (.ofRows records)

/-- The record of the customer `c1`. -/
def ann : List Row :=
  [[("id", .str "c1"), ("name", .str "Ann"), ("town", .str "Oslo")]]

/-- A run of the described grid for the empty request: the definition, the grid, the page before anything is merged into
it, and the envelope. -/
structure Run where
  definition : GridDefinition
  grid : CompositeGrid
  resolved : CompositeGrid
  page : Page
  envelope : Envelope

/-- Run a described grid for the empty request. -/
def run (description : Json) (records : List Row) : Option Run := do
  let definition ← (GridDefinition.decode description).toOption
  let _ ← (definition.check "orders").toOption
  let grid ← (ofJson definition .null (.obj [])).toOption
  let resolved ← (outcome (grid.resolve (customers records))).toOption
  let page ← (outcome (resolved.primary.fetch store.toStore)).toOption
  let envelope ← (outcome (grid.fetch store.toStore (customers records) "1")).toOption
  return ⟨definition, grid, resolved, page, envelope⟩

/-- What a run has gone through. -/
structure Run.Valid (run : Run) (description : Json) (records : List Row) : Prop where
  decoded : GridDefinition.decode description = .ok run.definition
  checked : run.definition.check "orders" = .ok ()
  made : ofJson run.definition .null (.obj []) = .ok run.grid
  resolve : outcome (run.grid.resolve (customers records)) = .ok run.resolved
  page : outcome (run.resolved.primary.fetch store.toStore) = .ok run.page
  fetch : outcome (run.grid.fetch store.toStore (customers records) "1") = .ok run.envelope

theorem valid_of_run {description : Json} {records : List Row} {run : Run}
    (h : Orders.run description records = some run) : run.Valid description records := by
  simp only [Orders.run, Option.bind_eq_bind, Option.bind_eq_some_iff, Outcome.toOption_eq_some] at h
  obtain ⟨definition, decoded, _, checked, grid, made, resolved, resolve, page, hpage, envelope, fetch, same⟩ := h
  obtain rfl := Option.some.inj same
  exact ⟨decoded, checked, made, resolve, hpage, fetch⟩

end Orders

end CompositeGrid

end DataGrid
