-- SUMMARY: Merging leaves the rows of a page in place, and with them every field that no parameter can reach.
import DataGrid.Proofs.CompositeRun
import DataGrid.Proofs.Merging
import DataGrid.Proofs.Projection

/-!
# Enrichment

The rows of a page are merged with the records of remotes before they are renamed.
The records come under public names and the rows under columns, so a parameter can
have the name of a column. A field keeps its value where its column is clear of the
names of all shown parameters, and only there.
-/

namespace DataGrid

namespace GridDefinition

/-- No shown parameter of a remote can reach what a field of the collection holds. -/
def KeepsClear (definition : GridDefinition) (field : Field) : Prop :=
  ∀ remote ∈ definition.remotes, ∀ table, remote.table = .ok table → ∀ parameter ∈ table.shown,
    Row.Clear (Text.segments remote.primaryKey) (Text.segments field.source) (Text.segments parameter.name)

instance (definition : GridDefinition) (field : Field) : Decidable (definition.KeepsClear field) :=
  decidable_of_iff (∀ remote ∈ definition.remotes, ∀ table ∈ remote.table.toOption, ∀ parameter ∈ table.shown,
      Row.Clear (Text.segments remote.primaryKey) (Text.segments field.source) (Text.segments parameter.name)) <| by
    simp only [KeepsClear, Option.mem_def, Outcome.toOption_eq_some]

/-- A fetched row under the public names of the collection. -/
def renameRow (definition : GridDefinition) (row : Row) : Row :=
  definition.fields.projection.renameRow (some definition.fields) row

/-- What is shown of a field of the collection depends on what its source holds, and not on the projection. -/
theorem get?_renameRow_congr {definition : GridDefinition} (fields : definition.fields.IsRead) {p q : Projection}
    (hp : p.IsKeyed) (hq : q.IsKeyed) {field : Field} (hfield : field ∈ definition.fields.shown)
    (inP : p.column? field.name = some field.column) (inQ : q.column? field.name = some field.column) {row row' : Row}
    (same : row.lookup field.source = row'.lookup field.source) :
    Keyed.get? (p.renameRow (some definition.fields) row) field.name =
      Keyed.get? (q.renameRow (some definition.fields) row') field.name := by
  have found : definition.fields.get? field.name = some field :=
    fields.get?_eq_some_iff.mpr ⟨(FieldTable.mem_shown.mp hfield).1, rfl⟩
  rw [Projection.get?_renameRow hp, Projection.get?_renameRow hq, inP, inQ]
  simp only [Option.bind_some, Projection.value?, found, same]

end GridDefinition

namespace CompositeGrid

variable {definition : GridDefinition} {grid : CompositeGrid}

/-- A grid shows every field that its collection shows, at its column. -/
theorem column?_projection {field : Field} {grid : CompositeGrid}
    (h : grid.primary.plan.projection.column? field.name = some field.column) :
    grid.projection.column? field.name = some field.column := by
  unfold projection
  refine List.foldlRecOn (motive := fun p : Projection => p.column? field.name = some field.column) grid.remotes _ h
    fun p hp remote _ => Projection.column?_extend_of_eq_some hp _

theorem isKeyed_projection (grid : CompositeGrid) : grid.projection.IsKeyed := by
  unfold projection
  refine List.foldlRecOn (motive := Projection.IsKeyed) grid.remotes _ FieldTable.isKeyed_projection
    fun p hp remote _ => ?_
  rw [Projection.extend_eq]
  exact hp.insertAll _

/-- Merging keeps every path that is clear of the names of all shown parameters. -/
theorem at?_mergeOnto {caller : Caller Id} {fetched : List Row} {remotes : List RemoteGrid} {path : List String}
    (hpath : path ≠ []) (clear : ∀ remote ∈ remotes, ∀ parameter ∈ remote.table.shown,
      Row.Clear (Text.segments remote.definition.primaryKey) path (Text.segments parameter.name)) (row : Row) :
    Row.at? (mergeOnto (mergesOf caller fetched remotes) row) path = Row.at? row path := by
  induction remotes generalizing row with
  | nil => rfl
  | cons remote rest ih =>
    obtain ⟨here, later⟩ := List.forall_mem_cons.mp clear
    refine (ih later _).trans ?_
    dsimp only
    split
    · next data provided => exact RemoteGrid.at?_mergeRow hpath provided here row
    · rfl

/-- The rows of an envelope are those of the fetched page, merged and then renamed. -/
theorem Made.content_of_fetch {header body : Json} (made : Made definition header body grid) {store : Store Id}
    {caller : Caller Id} {version : String} {envelope : Envelope}
    (hfetch : outcome (grid.fetch store caller version) = .ok envelope) :
    ∃ resolved page, outcome (grid.resolve caller) = .ok resolved ∧
      outcome (resolved.primary.fetch store) = .ok page ∧ resolved.primary.plan.table = definition.fields ∧
      envelope.pagination? = some page.pagination ∧
      envelope.content = page.rows.map fun row => resolved.projection.renameRow (some definition.fields)
        (mergeOnto (mergesOf caller page.rows resolved.remotes) row) := by
  obtain ⟨quiet, resolved, page, hresolve, hpage, rfl⟩ := fetch_eq_ok hfetch
  have table := made.resolved_table hresolve
  refine ⟨resolved, page, hresolve, hpage, table, rfl, ?_⟩
  rw [mergeAll_eq, ← table]
  exact List.map_map

/-- Merging never adds, drops or moves a row and leaves the page as it is. In every row each shown field of the
collection, that is clear of the shown parameters of all remotes, reads as in the row that was fetched. -/
theorem fetch_keeps_fields {json header body : Json} {name : String} {store : Store Id} {caller : Caller Id}
    {version : String} {envelope : Envelope} (decoded : GridDefinition.decode json = .ok definition)
    (checked : definition.check name = .ok ()) (hgrid : ofJson definition header body = .ok grid)
    (hfetch : outcome (grid.fetch store caller version) = .ok envelope) :
    ∃ resolved page, outcome (grid.resolve caller) = .ok resolved ∧
      outcome (resolved.primary.fetch store) = .ok page ∧ envelope.pagination? = some page.pagination ∧
      List.Forall₂ (fun row shown => ∀ field ∈ definition.fields.shown, definition.KeepsClear field →
        Keyed.get? shown field.name = Keyed.get? (definition.renameRow row) field.name) page.rows envelope.content := by
  have spec := GridDefinition.checked_of_decode decoded checked
  have made := made_of_ofJson hgrid
  obtain ⟨resolved, page, hresolve, hpage, table, pagination, content⟩ := made.content_of_fetch hfetch
  refine ⟨resolved, page, hresolve, hpage, pagination, ?_⟩
  rw [content, List.forall₂_map_right_iff, List.forall₂_same]
  intro row _ field hfield clear
  have own : definition.fields.projection.column? field.name = some field.column :=
    spec.fields.column?_projection.mpr ⟨field, hfield, rfl, rfl⟩
  have extended : resolved.projection.column? field.name = some field.column :=
    column?_projection (by rw [QueryPlan.projection, table]; exact own)
  refine GridDefinition.get?_renameRow_congr spec.fields (isKeyed_projection resolved) FieldTable.isKeyed_projection hfield
    extended own ?_
  refine at?_mergeOnto (Text.segments_ne_nil _) (fun remote hremote parameter hparameter => ?_) row
  obtain ⟨known, htable⟩ := made.resolved_remote hresolve hremote
  exact clear remote.definition known remote.table htable parameter hparameter

/-- The title of an order is clear of the town of its customer, and so it is shown as it was fetched. -/
theorem fetch_keeps_fields_orders : ∃ definition grid envelope,
    GridDefinition.decode (Orders.description "title" [("city", .str "town")]) = .ok definition ∧
    ofJson definition .null (.obj []) = .ok grid ∧
    outcome (grid.fetch Orders.store.toStore (Orders.customers Orders.ann) "1") = .ok envelope ∧
    ∃ resolved page, outcome (grid.resolve (Orders.customers Orders.ann)) = .ok resolved ∧
      outcome (resolved.primary.fetch Orders.store.toStore) = .ok page ∧ envelope.content.length = 1 ∧
      List.Forall₂ (fun row shown => Keyed.get? shown "title" = Keyed.get? (definition.renameRow row) "title")
        page.rows envelope.content := by
  have clear : ((Orders.run (Orders.description "title" [("city", .str "town")]) Orders.ann).any fun run =>
      decide (run.envelope.content.length = 1) && decide (∃ field ∈ run.definition.fields.shown,
        field.name = "title" ∧ run.definition.KeepsClear field)) = true := by decide +kernel
  obtain ⟨run, ran, clear⟩ := (Option.any_eq_true _ _).mp clear
  obtain ⟨one, clear⟩ := Bool.and_eq_true_iff.mp clear
  obtain ⟨field, hfield, title, clear⟩ := of_decide_eq_true clear
  have valid := Orders.valid_of_run ran
  obtain ⟨resolved, page, hresolve, hpage, -, keeps⟩ :=
    fetch_keeps_fields valid.decoded valid.checked valid.made valid.fetch
  refine ⟨run.definition, run.grid, run.envelope, valid.decoded, valid.made, valid.fetch, resolved, page, hresolve, hpage,
    of_decide_eq_true one, keeps.imp fun row shown keeps => ?_⟩
  rw [← title]
  exact keeps field hfield clear

/-- A parameter with the name of a column: the remote's value takes the place of the order's title. -/
theorem item_lost_to_parameter : ∃ definition grid envelope resolved page row shown,
    GridDefinition.decode (Orders.description "item" [("title", .str "name")]) = .ok definition ∧
    definition.check "orders" = .ok () ∧ ofJson definition .null (.obj []) = .ok grid ∧
    outcome (grid.fetch Orders.store.toStore (Orders.customers Orders.ann) "1") = .ok envelope ∧
    outcome (grid.resolve (Orders.customers Orders.ann)) = .ok resolved ∧
    outcome (resolved.primary.fetch Orders.store.toStore) = .ok page ∧
    page.rows = [row] ∧ envelope.content = [shown] ∧
    ∃ field ∈ definition.fields.shown,
      Keyed.get? shown field.name ≠ Keyed.get? (definition.renameRow row) field.name := by
  have lost : ((Orders.run (Orders.description "item" [("title", .str "name")]) Orders.ann).any fun run =>
      decide (∃ row ∈ run.page.rows.head?, run.page.rows = [row] ∧
        ∃ shown ∈ run.envelope.content.head?, run.envelope.content = [shown] ∧
          ∃ field ∈ run.definition.fields.shown,
            Keyed.get? shown field.name ≠ Keyed.get? (run.definition.renameRow row) field.name)) = true := by
    decide +kernel
  obtain ⟨run, ran, lost⟩ := (Option.any_eq_true _ _).mp lost
  obtain ⟨row, -, fetched, shown, -, content, lost⟩ := of_decide_eq_true lost
  have valid := Orders.valid_of_run ran
  exact ⟨run.definition, run.grid, run.envelope, run.resolved, run.page, row, shown, valid.decoded, valid.checked,
    valid.made, valid.fetch, valid.resolve, valid.page, fetched, content, lost⟩

end CompositeGrid

end DataGrid
