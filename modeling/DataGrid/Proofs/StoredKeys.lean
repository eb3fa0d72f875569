-- SUMMARY: The keys that records are merged by are those that the stored documents of the page hold.
import DataGrid.Proofs.CompositeRun
import DataGrid.Proofs.Expansion

/-!
# Stored keys

Every join column of a remote is fetched with the page. Where no shown join expands
into it, above it or below it, each row holds there what its document holds, so the
remote is asked for the keys of the stored documents: every value they join by, and
each key text once. A join that expands into the column puts records in their place.
-/

namespace DataGrid

/-! ## Keys of documents -/

namespace Join

/-- The distinct values by which some documents join: each is such a value, each value has its key text among them, and no
key text is there twice. -/
structure KeysOf (documents : List Row) (column : String) (keys : List Json) : Prop where
  stored : ∀ key ∈ keys, ∃ doc ∈ documents, key ∈ values (doc.lookup column)
  complete : ∀ doc ∈ documents, ∀ value ∈ values (doc.lookup column), ∃ key ∈ keys, key.keyText = value.keyText
  distinct : (keys.map Json.keyText).Nodup

theorem keysOf_keys (documents : List Row) (column : String) : KeysOf documents column (keys documents column) where
  stored _ h := mem_of_mem_keys h
  complete _ hdoc _ hvalue := exists_key hdoc hvalue
  distinct := nodup_distinct _

/-- The keys are told by what the rows hold at the column. -/
theorem keys_congr {rows documents : List Row} {column : String}
    (same : rows.map (·.lookup column) = documents.map (·.lookup column)) : keys rows column = keys documents column := by
  have valuesOf (list : List Row) :
      (list.flatMap fun row => values (row.lookup column)) = (list.map (·.lookup column)).flatMap values := by
    rw [List.flatMap_map]
  rw [keys, keys, valuesOf, valuesOf, same]

end Join


/-! ## Columns of a page -/

namespace CollectionGrid

theorem mem_columns {grid : CollectionGrid} {column : String} :
    column ∈ grid.columns ↔ column ∈ grid.plan.projection.columns ∨ column ∈ grid.extraColumns := by
  simp only [columns, List.mem_append, List.mem_filter, decide_eq_true_eq]
  by_cases shown : column ∈ grid.plan.projection.columns <;> simp [shown]

theorem mem_extraColumns_requireColumn {grid : CollectionGrid} {column other : String} :
    other ∈ (grid.requireColumn column).extraColumns ↔ other = column ∨ other ∈ grid.extraColumns := by
  unfold requireColumn
  split
  · next known => exact ⟨.inr, fun h => h.elim (fun same => same ▸ known) id⟩
  · simp [or_comm]

/-- A page whose joins expand apart from a fetched column holds there what its documents hold. -/
theorem lookup_rows {store : MemoryStore} {grid : CollectionGrid} {page : Page}
    (fetched : outcome (grid.fetch store.toStore) = .ok page)
    (ordered : ∀ doc ∈ store.rows grid.collection, (Json.obj doc).isOrdered = true) {column : String}
    (hcolumn : column ∈ grid.columns) (apart : ∀ field ∈ grid.plan.table.shown, field.join.isSome = true →
      Row.Apart (Text.segments field.source) (Text.segments column)) :
    page.rows.map (·.lookup column) = (grid.documents store).map (·.lookup column) := by
  have expanded := Join.at?_expandAll apart (fetch_eq_ok fetched).1
  refine expanded.trans ?_
  rw [cut, List.map_map]
  refine List.map_congr_left fun doc hdoc => ?_
  exact Row.lookup_project (ordered doc (mem_documents hdoc).1) hcolumn

end CollectionGrid


/-! ## Merging -/

/-- What a remote provides to merge depends on the rows through their keys. -/
theorem RemoteGrid.mergeData_congr {m : Type → Type} [Monad m] (caller : Caller m) (remote : RemoteGrid)
    {rows documents : List Row}
    (same : Join.keys rows remote.definition.primaryKey = Join.keys documents remote.definition.primaryKey) :
    remote.mergeData caller rows = remote.mergeData caller documents := by
  unfold mergeData
  rw [same]

namespace CompositeGrid

/-- No shown join of a collection expands into the join column of a remote, above it or below it. -/
def KeepsKeys (definition : GridDefinition) (remote : RemoteDefinition) : Prop :=
  ∀ field ∈ definition.fields.shown, field.join.isSome = true →
    Row.Apart (Text.segments field.source) (Text.segments remote.primaryKey)

instance (definition : GridDefinition) (remote : RemoteDefinition) : Decidable (KeepsKeys definition remote) :=
  inferInstanceAs (Decidable (∀ field ∈ definition.fields.shown, _ → _))

/-- The join column of a remote is kept exactly if no expansion of a shown join changes what it holds. -/
theorem keepsKeys_iff {definition : GridDefinition} {remote : RemoteDefinition} :
    KeepsKeys definition remote ↔ ∀ field ∈ definition.fields.shown, field.join.isSome = true →
      ∀ byKey row, (Join.expandRow field byKey row).lookup remote.primaryKey = row.lookup remote.primaryKey :=
  forall_congr' fun _ => imp_congr_right fun _ => imp_congr_right fun _ =>
    (Join.at?_expandRow_iff (Text.segments_ne_nil remote.primaryKey)).symm

/-- A grid fetches, besides the columns that it fetches already, those that it is required to. -/
theorem mem_extraColumns_foldl {remotes : List RemoteDefinition} {primary : CollectionGrid} {column : String} :
    column ∈ (remotes.foldl (fun primary remote => primary.requireColumn remote.primaryKey) primary).extraColumns ↔
      column ∈ primary.extraColumns ∨ ∃ remote ∈ remotes, remote.primaryKey = column := by
  induction remotes generalizing primary with
  | nil => simp
  | cons remote rest ih =>
    rw [List.foldl_cons, ih, CollectionGrid.mem_extraColumns_requireColumn, List.exists_mem_cons_iff, eq_comm (a := column),
      or_comm (a := remote.primaryKey = column), or_assoc]

section

variable {definition : GridDefinition} {header body : Json} {grid resolved : CompositeGrid} {caller : Caller Id}

/-- A resolved grid fetches the join columns of all remotes. -/
theorem primaryKey_mem_columns (hgrid : ofJson definition header body = .ok grid)
    (hresolve : outcome (grid.resolve caller) = .ok resolved) {remote : RemoteDefinition}
    (known : remote ∈ definition.remotes) : remote.primaryKey ∈ resolved.primary.columns := by
  obtain ⟨found, resolution⟩ := resolve_eq_ok hresolve
  refine CollectionGrid.mem_columns.mpr (.inr ?_)
  rw [resolution.primary_eq]
  simp only [ofJson, Outcome.bind_eq_ok, Outcome.pure_eq_ok] at hgrid
  obtain ⟨request, -, remotes, -, rfl⟩ := hgrid
  exact mem_extraColumns_foldl.mpr (.inr ⟨remote, known, rfl⟩)

/-- A run that gets to merging asks every remote whose join column is kept for the keys of the stored documents of the
page: no expanded join changes what a row holds at the column. -/
theorem merges_stored_keys {store : MemoryStore} {version : String} {envelope : Envelope}
    (ordered : ∀ doc ∈ store.rows definition.collection, (Json.obj doc).isOrdered = true)
    (hgrid : ofJson definition header body = .ok grid)
    (hfetch : outcome (grid.fetch store.toStore caller version) = .ok envelope) :
    ∃ resolved page, outcome (grid.resolve caller) = .ok resolved ∧
      outcome (resolved.primary.fetch store.toStore) = .ok page ∧
      ∀ remote ∈ resolved.remotes, KeepsKeys definition remote.definition →
        page.rows.map (·.lookup remote.definition.primaryKey) =
            (resolved.primary.documents store).map (·.lookup remote.definition.primaryKey) ∧
          Join.KeysOf (resolved.primary.documents store) remote.definition.primaryKey
            (Join.keys page.rows remote.definition.primaryKey) ∧
          remote.mergeData caller page.rows = remote.mergeData caller (resolved.primary.documents store) := by
  have made := made_of_ofJson hgrid
  obtain ⟨-, resolved, page, hresolve, hpage, -⟩ := fetch_eq_ok hfetch
  refine ⟨resolved, page, hresolve, hpage, fun remote hremote keeps => ?_⟩
  have known := (made.resolved_remote hresolve hremote).1
  have collection : resolved.primary.collection = definition.collection := by
    obtain ⟨found, resolution⟩ := resolve_eq_ok hresolve
    rw [resolution.primary_eq]
    exact made.collection_eq
  have held : page.rows.map (·.lookup remote.definition.primaryKey) =
      (resolved.primary.documents store).map (·.lookup remote.definition.primaryKey) := by
    refine CollectionGrid.lookup_rows hpage (by rwa [collection]) (primaryKey_mem_columns hgrid hresolve known) ?_
    rwa [made.resolved_table hresolve]
  have keys := Join.keys_congr held
  refine ⟨held, ?_, remote.mergeData_congr caller keys⟩
  rw [keys]
  exact Join.keysOf_keys ..

end

namespace Orders

/-- A description of orders whose customers are expanded into the order that they have placed, at some destination. -/
def placed (destination : Row) : Json :=
  .obj [
    ("apis", .arr [.obj [
      ("apiCall", .obj [("cmd", .str "customers"), ("role", .str "crm")]),
      ("foreignKey", .str "id"),
      ("inputParameters", .obj [("city", .str "town")]),
      ("primaryKey", .str "customer")]]),
    ("collection", .str "orders"),
    ("fields", .obj [("customer", .obj [
      ("join", .obj (destination ++ [("key", .str "customer"), ("model", .str "orders")]))])])]

end Orders

/-- The customer's order goes elsewhere: the remote is asked for the stored customer. -/
theorem merges_stored_keys_orders : ∃ definition grid envelope,
    GridDefinition.decode (Orders.placed [("as", .str "last")]) = .ok definition ∧
    (∀ doc ∈ Orders.store.rows definition.collection, (Json.obj doc).isOrdered = true) ∧
    ofJson definition .null (.obj []) = .ok grid ∧
    outcome (grid.fetch Orders.store.toStore (Orders.customers Orders.ann) "1") = .ok envelope ∧
    ∃ resolved page, outcome (grid.resolve (Orders.customers Orders.ann)) = .ok resolved ∧
      outcome (resolved.primary.fetch Orders.store.toStore) = .ok page ∧
      ∃ remote ∈ resolved.remotes, KeepsKeys definition remote.definition ∧
        Join.KeysOf (resolved.primary.documents Orders.store) remote.definition.primaryKey
          (Join.keys page.rows remote.definition.primaryKey) := by
  have kept : ((Orders.run (Orders.placed [("as", .str "last")]) Orders.ann).any fun run =>
      (Orders.store.rows run.definition.collection).all (fun doc => (Json.obj doc).isOrdered) &&
        decide (∃ remote ∈ run.resolved.remotes, KeepsKeys run.definition remote.definition)) = true := by
    decide +kernel
  obtain ⟨run, ran, kept⟩ := (Option.any_eq_true _ _).mp kept
  obtain ⟨ordered, kept⟩ := Bool.and_eq_true_iff.mp kept
  obtain ⟨remote, hremote, keeps⟩ := of_decide_eq_true kept
  have valid := Orders.valid_of_run ran
  have documents := List.all_eq_true.mp ordered
  obtain ⟨resolved, page, hresolve, hpage, stored⟩ := merges_stored_keys documents valid.made valid.fetch
  obtain rfl := Except.ok.inj (valid.resolve.symm.trans hresolve)
  exact ⟨run.definition, run.grid, run.envelope, valid.decoded, documents, valid.made, valid.fetch, run.resolved, page,
    hresolve, hpage, remote, hremote, keeps, (stored remote hremote keeps).2.1⟩

/-- The customer's order takes the place of the customer: the remote is asked for an order, which no document holds. -/
theorem key_lost_to_join : ∃ definition grid envelope resolved page,
    GridDefinition.decode (Orders.placed []) = .ok definition ∧ definition.check "orders" = .ok () ∧
    ofJson definition .null (.obj []) = .ok grid ∧
    outcome (grid.fetch Orders.store.toStore (Orders.customers Orders.ann) "1") = .ok envelope ∧
    outcome (grid.resolve (Orders.customers Orders.ann)) = .ok resolved ∧
    outcome (resolved.primary.fetch Orders.store.toStore) = .ok page ∧
    ∃ remote ∈ resolved.remotes,
      Join.keys (resolved.primary.documents Orders.store) remote.definition.primaryKey = [.str "c1"] ∧
      Join.keys page.rows remote.definition.primaryKey = [.obj [("customer", .str "c1"), ("title", .str "alpha")]] := by
  have lost : ((Orders.run (Orders.placed []) Orders.ann).any fun run => decide (∃ remote ∈ run.resolved.remotes,
      Join.keys (run.resolved.primary.documents Orders.store) remote.definition.primaryKey = [.str "c1"] ∧
      Join.keys run.page.rows remote.definition.primaryKey =
        [.obj [("customer", .str "c1"), ("title", .str "alpha")]])) = true := by
    decide +kernel
  obtain ⟨run, ran, lost⟩ := (Option.any_eq_true _ _).mp lost
  have valid := Orders.valid_of_run ran
  exact ⟨run.definition, run.grid, run.envelope, run.resolved, run.page, valid.decoded, valid.checked, valid.made,
    valid.fetch, valid.resolve, valid.page, of_decide_eq_true lost⟩

end CompositeGrid

end DataGrid
