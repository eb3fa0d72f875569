-- SUMMARY: Where the shown fields of a remote's record end up in the rows that it is merged into.
import DataGrid.Proofs.Enrichment
import DataGrid.Proofs.Expansion

/-!
# Fields of remotes

A shown parameter is written into the row under its public name and read from there
again. It is lost if the name is a column that the collection shows, since the
projection then refuses it. Otherwise the row shows what the value merges to: the
value itself, unless a longer name writes into it or an object stands there already.
-/

namespace DataGrid

/-! ## Renamed records -/

namespace Row

/-- What a path holds is not taken away by writing at it, below it, or apart from it. -/
theorem isSome_at?_insertAt {row : Row} {path other : List String} (h : (at? row other).isSome = true)
    (above : path <+: other → path = other) (value : Json) : (at? (insertAt row path value) other).isSome = true := by
  have hother : other ≠ [] := by
    rintro rfl
    cases h
  by_cases apart : Apart path other
  · rwa [at?_insertAt_of_apart row apart]
  rcases not_apart_iff.mp apart with leads | ⟨rest, rfl⟩
  · rw [above leads, at?_insertAt_self row hother]
    rfl
  · by_cases last : rest = []
    · rw [last, List.append_nil, at?_insertAt_self row hother]
      rfl
    · rw [at?_insertAt_append row hother last]
      rfl

/-- Only two objects merge; otherwise the incoming value stays. -/
theorem mergeValue_eq_self {value : Json} {held : Option Json}
    (h : (∀ members, value ≠ .obj members) ∨ ∀ members, held ≠ some (.obj members)) : mergeValue value held = value := by
  unfold mergeValue
  split
  · next source =>
    split
    · next target => exact (h.elim (fun plain => plain source rfl) fun plain => plain target rfl).elim
    · rfl
  · rfl

end Row

/-- A row that joins by a scalar is merged with the record that the scalar points to. -/
theorem MergeData.mergeRow_of_isScalar {data : MergeData} {column : String} {row : Row} {key : Json}
    (held : row.lookup column = some key) (scalar : key.isScalar = true) :
    data.mergeRow column row = (data.find? key).elim row row.merge := by
  have single : ∀ items, key ≠ .arr items := by
    rintro items rfl
    cases scalar
  have real : key ≠ .null := by
    rintro rfl
    cases scalar
  rw [mergeRow_eq, held, brought_of_single single real]
  cases data.find? key <;> rfl

namespace RemoteGrid

variable {remote : RemoteGrid} {record : Row} {parameter : Field}

theorem isOrdered_rename (ordered : (Json.obj record).isOrdered = true) :
    (Json.obj (remote.rename record)).isOrdered = true := by
  rw [rename_eq]
  exact publish_induction (p := fun renamed => (Json.obj renamed).isOrdered = true) rfl
    fun field _ value found _ hrenamed => Row.isOrdered_insertAt hrenamed (Row.isOrdered_at? ordered found) _

/-- Publishing the parameters that come after one does not take its value away, and replaces it only if the name of one
of them leads on from its own. -/
theorem lookup_foldl_publish (record : Row) {after : List Field}
    (later : ∀ other ∈ after, parameter.name < other.name) {renamed : Row} {value : Json}
    (held : renamed.lookup parameter.name = some value) :
    ((after.foldl (publish record) renamed).lookup parameter.name).isSome = true ∧
      ((∀ other ∈ after, (record.lookup other.column).isSome = true →
        ¬Text.segments parameter.name <+: Text.segments other.name) →
          (after.foldl (publish record) renamed).lookup parameter.name = some value) := by
  have behind {other : Field} (hother : other ∈ after) : ¬Text.segments other.name <+: Text.segments parameter.name :=
    fun leads => Text.le_of_segments_prefix leads (later other hother)
  constructor
  · refine publish_induction (p := fun renamed => (renamed.lookup parameter.name).isSome = true) (by rw [held]; rfl)
      fun other hother _ _ _ hrenamed => ?_
    exact Row.isSome_at?_insertAt hrenamed (fun leads => absurd leads (behind hother)) _
  · intro free
    refine publish_induction (p := fun renamed => renamed.lookup parameter.name = some value) held
      fun other hother found hfound renamed hrenamed => ?_
    have apart : Row.Apart (Text.segments other.name) (Text.segments parameter.name) :=
      ⟨behind hother, free other hother (by rw [hfound]; rfl)⟩
    exact (Row.at?_insertAt_of_apart renamed apart found).trans hrenamed

/-- A renamed record holds a value under the name of every shown field that the record has: its own, unless a name that
the record has too leads on from it. -/
theorem lookup_rename (names : remote.table.shown.Pairwise fun a b => a.name < b.name)
    (hparameter : parameter ∈ remote.table.shown) {value : Json} (held : record.lookup parameter.column = some value) :
    ∃ written, (remote.rename record).lookup parameter.name = some written ∧
      ((∀ other ∈ remote.table.shown, other.name ≠ parameter.name → (record.lookup other.column).isSome = true →
        ¬Text.segments parameter.name <+: Text.segments other.name) → written = value) := by
  rw [rename_eq]
  obtain ⟨before, after, hshown⟩ := List.append_of_mem hparameter
  rw [hshown] at names ⊢
  have later : ∀ other ∈ after, parameter.name < other.name :=
    (List.pairwise_cons.mp (List.pairwise_append.mp names).2.1).1
  rw [List.foldl_append, List.foldl_cons]
  have published : (publish record (before.foldl (publish record) []) parameter).lookup parameter.name = some value := by
    rw [publish, held]
    exact Row.lookup_insert_self _ _ value
  obtain ⟨some, free⟩ := lookup_foldl_publish record later published
  obtain ⟨written, hwritten⟩ := Option.isSome_iff_exists.mp some
  refine ⟨written, hwritten, fun unextended => ?_⟩
  have kept := free fun other hother present => unextended other
    (List.mem_append_right _ (List.mem_cons_of_mem _ hother)) (fun same => String.lt_irrefl _ (same ▸ later other hother))
    present
  exact Option.some.inj (hwritten.symm.trans kept)

/-! ## Found records -/

/-- Whether a record joins by the key text of a value. -/
def joins (remote : RemoteGrid) (key : Json) (record : Row) : Bool :=
  (record.lookup remote.definition.foreignKey).any (·.keyText = key.keyText)

/-- The record that a value joins: the last one of its key text. -/
def recordOf? (remote : RemoteGrid) (records : List Row) (key : Json) : Option Row :=
  records.reverse.find? (remote.joins key)

theorem joins_eq (remote : RemoteGrid) (key : Json) :
    remote.joins key = fun record => decide (remote.keyOf? record = some key.keyText) := by
  funext record
  unfold joins keyOf?
  cases record.lookup remote.definition.foreignKey <;> simp

/-- A wanted value finds the record that it joins. -/
theorem find?_mergeDataOf {wanted : List String} {key : Json} (hkey : key.keyText ∈ wanted) (records : List Row) :
    (remote.mergeDataOf wanted records).find? key = (remote.recordOf? records key).map remote.rename := by
  rw [MergeData.find?, get?_mergeDataOf, if_pos hkey, recordOf?, joins_eq]

/-- A row that joins by a scalar is merged with the record that serves for it. -/
theorem mergeRow_of_recordOf? {caller : Caller Id} {rows records : List Row} {row : Row} {key : Json}
    (hrow : row ∈ rows) (held : row.lookup remote.definition.primaryKey = some key) (scalar : key.isScalar = true)
    (serves : remote.Serves caller rows records) (found : remote.recordOf? records key = some record) :
    ∃ data, outcome (remote.mergeData caller rows) = .ok data ∧
      data.mergeRow remote.definition.primaryKey row = Row.mergeInto (remote.rename record) row := by
  have own : Join.values (row.lookup remote.definition.primaryKey) = [key] := by
    rw [held]
    exact Join.values_of_scalar scalar
  obtain ⟨wanted, hwanted, same⟩ := Join.exists_key hrow (by rw [own]; exact List.mem_singleton_self key)
  have hkey : key.keyText ∈ (Join.keys rows remote.definition.primaryKey).map Json.keyText :=
    same ▸ List.mem_map_of_mem hwanted
  refine ⟨_, mergeData_eq_ok.mpr (.inr ⟨List.ne_nil_of_mem hwanted, records, serves, rfl⟩), ?_⟩
  rw [MergeData.mergeRow_of_isScalar held scalar, find?_mergeDataOf hkey, found]
  rfl


/-! ## Projections -/

/-- The shown fields of a remote stand in the order of their names. -/
theorem ascending_shown (read : remote.definition.IsRead) (htable : remote.definition.table = .ok remote.table) :
    remote.table.shown.Pairwise fun a b => a.name < b.name := by
  apply (RemoteDefinition.checked_of_table htable).ascending_shown
  rw [RemoteDefinition.keys_of_table htable]
  exact List.pairwise_map.mpr read.parameters

theorem isDiagonal_projection (remote : RemoteGrid) : remote.projection.IsDiagonal := by
  refine Projection.isDiagonal_insertAll (p := .empty) nofun fun pair hpair => ?_
  obtain ⟨field, -, rfl⟩ := List.mem_map.mp hpair
  rfl

theorem isKeyed_projection (remote : RemoteGrid) : remote.projection.IsKeyed :=
  Projection.isKeyed_empty.insertAll _

/-- A remote projects every field that it shows to its own name. -/
theorem column?_projection (names : remote.table.shown.Pairwise fun a b => a.name < b.name)
    (hparameter : parameter ∈ remote.table.shown) : remote.projection.column? parameter.name = some parameter.name := by
  have distinct : (remote.table.shown.map (·.name)).Nodup :=
    List.pairwise_map.mpr (names.imp fun {a b} less (same : a.name = b.name) => String.lt_irrefl _ (same ▸ less))
  rw [projection, Projection.column?_ofPairs (by rw [List.map_map]; exact distinct)
    (by rw [List.map_map]; exact distinct)]
  refine (Keyed.get?_eq_some_iff ?_).mpr (List.mem_map.mpr ⟨parameter, hparameter, rfl⟩)
  rw [Keyed.keys, List.map_map]
  exact distinct

end RemoteGrid

/-! ## Shown values -/

namespace CompositeGrid

/-- No other name under which a record has a value leads on from that of a parameter. -/
def Unextended (remote : RemoteGrid) (record : Row) (parameter : Field) : Prop :=
  ∀ other ∈ remote.table.shown, other.name ≠ parameter.name → (record.lookup other.column).isSome = true →
    ¬Text.segments parameter.name <+: Text.segments other.name

instance (remote : RemoteGrid) (record : Row) (parameter : Field) : Decidable (Unextended remote record parameter) :=
  inferInstanceAs (Decidable (∀ other ∈ remote.table.shown, _ → _ → ¬_))

/-- What is shown of a value that a remote has for a parameter: nothing where the collection shows a column of the
parameter's name; or else what the value, unless a longer name has changed it, merges to with what the row holds. -/
structure ShowsValue (definition : GridDefinition) (remote : RemoteGrid) (record row shown : Row) (parameter : Field)
    (value : Json) : Prop where
  lost : parameter.name ∈ definition.fields.projection.columns → Keyed.get? shown parameter.name = none
  merged : parameter.name ∉ definition.fields.projection.columns → ∃ written,
    Keyed.get? shown parameter.name = some (Row.mergeValue written (row.lookup parameter.name)) ∧
      (Unextended remote record parameter → written = value)
  carried : parameter.name ∉ definition.fields.projection.columns → Unextended remote record parameter →
    ((∀ members, value ≠ .obj members) ∨ ∀ members, row.lookup parameter.name ≠ some (.obj members)) →
      Keyed.get? shown parameter.name = some value

variable {definition : GridDefinition} {grid : CompositeGrid}

/-- No parameter of a checked definition is a field of its collection. -/
theorem get?_parameter (spec : definition.Checked) {remote : RemoteGrid} (known : remote.definition ∈ definition.remotes)
    (htable : remote.definition.table = .ok remote.table) {parameter : Field} (hparameter : parameter ∈ remote.table.shown) :
    definition.fields.get? parameter.name = none := by
  obtain ⟨entry, hentry, rfl⟩ := List.mem_map.mp (FieldTable.mem_shown.mp hparameter).1
  have named := (RemoteDefinition.checked_of_table htable).name_eq hentry
  have own : entry.2.name ∈ Keyed.keys remote.definition.parameters := by
    rw [← RemoteDefinition.keys_of_table htable, named]
    exact List.mem_map_of_mem hentry
  have unknown := spec.disjoint _ (mem_remoteFields.mpr ⟨remote.definition, known, own⟩)
  rwa [FieldTable.contains, Keyed.contains, Option.isSome_eq_false_iff, Option.isNone_iff_eq_none] at unknown

/-- A grid with one remote projects each shown parameter to its own name, unless the collection shows a column of that
name. -/
theorem column?_projection_parameter (spec : definition.Checked) {resolved : CompositeGrid}
    (table : resolved.primary.plan.table = definition.fields) {remote : RemoteGrid} (hremotes : resolved.remotes = [remote])
    (known : remote.definition ∈ definition.remotes) (htable : remote.definition.table = .ok remote.table)
    {parameter : Field} (hparameter : parameter ∈ remote.table.shown) :
    resolved.projection.column? parameter.name =
      if parameter.name ∈ definition.fields.projection.columns then none else some parameter.name := by
  have unknown := get?_parameter spec known htable hparameter
  have fresh : definition.fields.projection.column? parameter.name = none := by
    by_contra some
    obtain ⟨column, hcolumn⟩ := Option.ne_none_iff_exists'.mp some
    obtain ⟨field, hfield, same, -⟩ := spec.fields.column?_projection.mp hcolumn
    have found := spec.fields.get?_eq_some_iff.mpr ⟨(FieldTable.mem_shown.mp hfield).1, same⟩
    rw [unknown] at found
    cases found
  have names := RemoteGrid.ascending_shown (spec.remotes _ known).1 htable
  have extended : resolved.projection = definition.fields.projection.extend remote.projection := by
    rw [projection, hremotes, QueryPlan.projection, table]
    rfl
  rw [extended]
  exact Projection.column?_extend_diagonal remote.isKeyed_projection remote.isDiagonal_projection
    (RemoteGrid.column?_projection names hparameter) fresh

/-- What is shown of a value in a row that its record has been merged into. -/
theorem showsValue_of_merged (spec : definition.Checked) {resolved : CompositeGrid}
    (table : resolved.primary.plan.table = definition.fields) {remote : RemoteGrid} (hremotes : resolved.remotes = [remote])
    (known : remote.definition ∈ definition.remotes) (htable : remote.definition.table = .ok remote.table)
    {record row shown : Row} (ordered : (Json.obj record).isOrdered = true)
    (merged : shown =
      resolved.projection.renameRow (some definition.fields) (Row.mergeInto (remote.rename record) row))
    {parameter : Field} (hparameter : parameter ∈ remote.table.shown) {value : Json}
    (hvalue : record.lookup parameter.column = some value) :
    ShowsValue definition remote record row shown parameter value := by
  obtain ⟨written, hwritten, free⟩ :=
    RemoteGrid.lookup_rename (RemoteGrid.ascending_shown (spec.remotes _ known).1 htable) hparameter hvalue
  have arrived : Row.lookup (Row.mergeInto (remote.rename record) row) parameter.name =
      some (Row.mergeValue written (row.lookup parameter.name)) :=
    Row.at?_mergeInto (RemoteGrid.isOrdered_rename ordered) hwritten row
  have reads : Keyed.get? shown parameter.name =
      if parameter.name ∈ definition.fields.projection.columns then none
      else some (Row.mergeValue written (row.lookup parameter.name)) := by
    rw [merged, Projection.get?_renameRow (isKeyed_projection resolved),
      column?_projection_parameter spec table hremotes known htable hparameter]
    split
    · rfl
    · rw [Option.bind_some, Projection.value?, Option.bind_some, get?_parameter spec known htable hparameter]
      exact arrived
  refine ⟨fun taken => ?_, fun untaken => ⟨written, ?_, free⟩, fun untaken unextended plain => ?_⟩
  · rw [reads, if_pos taken]
  · rw [reads, if_neg untaken]
  · rw [reads, if_neg untaken, free unextended, Row.mergeValue_eq_self plain]

/-- With a single remote, a row whose stored join value is a scalar, and still stands there once joins are expanded, is
merged with the last record of that value among those that serve the page. Each shown parameter that the record has is
then shown under its own name. The value is that of the record, unless the collection shows a column of the same name,
the record has a parameter whose name leads on from this one, or an object is merged into an object. -/
theorem fetch_shows_records {json header body : Json} {name : String} {store : Store Id} {caller : Caller Id}
    {version : String} {envelope : Envelope} {d : RemoteDefinition}
    (decoded : GridDefinition.decode json = .ok definition) (checked : definition.check name = .ok ())
    (single : definition.remotes = [d]) (hgrid : ofJson definition header body = .ok grid)
    (hfetch : outcome (grid.fetch store caller version) = .ok envelope) :
    ∃ (resolved : CompositeGrid) (stored : List Row) (page : Page) (remote : RemoteGrid),
      outcome (grid.resolve caller) = .ok resolved ∧ resolved.remotes = [remote] ∧
      remote.definition = d ∧ d.table = .ok remote.table ∧
      resolved.primary.Finds store stored ∧ outcome (resolved.primary.fetch store) = .ok page ∧
      stored.length = envelope.content.length ∧ page.rows.length = envelope.content.length ∧
      ((∀ field ∈ definition.fields.shown, field.join.isSome = true →
          Row.Apart (Text.segments field.source) (Text.segments d.primaryKey)) →
        page.rows.map (Row.lookup · d.primaryKey) = stored.map (Row.lookup · d.primaryKey)) ∧
      ∀ (i : Nat) (found row shown : Row), stored[i]? = some found → page.rows[i]? = some row →
        envelope.content[i]? = some shown →
        ∀ key records record, found.lookup d.primaryKey = some key → key.isScalar = true →
          row.lookup d.primaryKey = found.lookup d.primaryKey → remote.Serves caller page.rows records →
          remote.recordOf? records key = some record → (Json.obj record).isOrdered = true →
          ∀ parameter ∈ remote.table.shown, ∀ value, record.lookup parameter.column = some value →
            ShowsValue definition remote record row shown parameter value := by
  have spec := GridDefinition.checked_of_decode decoded checked
  have made := made_of_ofJson hgrid
  obtain ⟨resolved, page, hresolve, hpage, table, -, content⟩ := made.content_of_fetch hfetch
  obtain ⟨-, stored, -, hstored, hexpanded, -⟩ := CollectionGrid.exists_of_fetch hpage
  have definitions : resolved.remotes.map (·.definition) = [d] := single ▸ made.resolved_definitions hresolve
  obtain ⟨remote, hremotes, rfl⟩ := List.map_eq_singleton_iff.mp definitions
  obtain ⟨-, htable⟩ := made.resolved_remote hresolve (show remote ∈ resolved.remotes by simp [hremotes])
  have lengths : envelope.content.length = page.rows.length := by rw [content, List.length_map]
  refine ⟨resolved, stored, page, remote, hresolve, hremotes, rfl, htable, hstored, hpage,
    by rw [lengths, Join.length_expandAll hexpanded], lengths.symm,
    fun apart => Join.at?_expandAll (fun field hfield => apart field (table ▸ hfield)) hexpanded, ?_⟩
  intro i found row shown hfound hrow hshown key records record held scalar kept serves hrecord ordered parameter
    hparameter value hvalue
  have known : remote.definition ∈ definition.remotes := single ▸ List.mem_singleton_self _
  obtain ⟨data, provided, merged⟩ := RemoteGrid.mergeRow_of_recordOf? (List.mem_of_getElem? hrow)
    (kept.trans held) scalar serves hrecord
  refine showsValue_of_merged spec table hremotes known htable ordered ?_ hparameter hvalue
  have renamed := List.getElem?_map (f := fun row => resolved.projection.renameRow (some definition.fields)
    (mergeOnto (mergesOf caller page.rows resolved.remotes) row)) (l := page.rows) (i := i)
  rw [← content, hshown, hrow, Option.map_some, Option.some.injEq] at renamed
  rw [renamed, ← merged, hremotes]
  simp only [mergesOf, List.map_cons, List.map_nil, mergeOnto, List.foldl_cons, List.foldl_nil, provided]

/-- A remote that has not been resolved fetches the records to merge. -/
theorem Orders.serves_customers {remote : RemoteGrid} (unresolved : remote.resolved = none) (rows records : List Row) :
    remote.Serves (Orders.customers records) rows records := by
  unfold RemoteGrid.Serves
  rw [RemoteGrid.covering?, unresolved]
  exact ⟨.ofRows records, rfl, Reply.records_ofRows records⟩

/-- The town of a customer is shown as the city of an order. -/
theorem fetch_shows_records_orders : ∃ definition grid envelope shown,
    GridDefinition.decode (Orders.description "title" [("city", .str "town")]) = .ok definition ∧
    ofJson definition .null (.obj []) = .ok grid ∧
    outcome (grid.fetch Orders.store.toStore (Orders.customers Orders.ann) "1") = .ok envelope ∧
    envelope.content = [shown] ∧ Keyed.get? shown "city" = some (.str "Oslo") := by
  have conditions : ((Orders.run (Orders.description "title" [("city", .str "town")]) Orders.ann).any fun run =>
      run.definition.remotes.length == 1 && run.page.rows.length == 1 && run.envelope.content.length == 1 &&
      ((Orders.store.find run.resolved.primary.collection run.resolved.primary.selection).take
        run.resolved.primary.plan.pagination.limit).all (fun found =>
          decide (found.lookup "customer" = some (.str "c1"))) &&
      run.definition.remotes.all (fun d => decide (d.primaryKey = "customer")) &&
      run.page.rows.all (fun row => decide (row.lookup "customer" = some (.str "c1"))) &&
      run.resolved.remotes.all fun remote => remote.resolved.isNone &&
        (remote.recordOf? Orders.ann (.str "c1")).any fun record => (Json.obj record).isOrdered &&
          remote.table.shown.any fun parameter => decide (parameter.name = "city") &&
            decide (Row.lookup record parameter.column = some (.str "Oslo")) &&
            decide (parameter.name ∉ run.definition.fields.projection.columns) &&
            decide (Unextended remote record parameter)) = true := by
    decide +kernel
  obtain ⟨run, ran, conditions⟩ := (Option.any_eq_true _ _).mp conditions
  simp only [Bool.and_eq_true, beq_iff_eq, List.length_eq_one_iff, and_assoc] at conditions
  obtain ⟨⟨d, single⟩, ⟨row, hrow⟩, ⟨shown, hshown⟩, stored, joins, held, remotes⟩ := conditions
  have valid := Orders.valid_of_run ran
  obtain ⟨resolved, found, page, remote, hresolve, hremotes, hd, -, ⟨_, hfind, rfl⟩, hpage, sameLength, -, -, shows⟩ :=
    fetch_shows_records valid.decoded valid.checked single valid.made valid.fetch
  obtain rfl := Except.ok.inj (hresolve.symm.trans valid.resolve)
  obtain rfl := Except.ok.inj (hpage.symm.trans valid.page)
  obtain rfl := Except.ok.inj ((MemoryStore.outcome_find ..).symm.trans hfind)
  rw [hshown, List.length_singleton, List.length_eq_one_iff] at sameLength
  obtain ⟨found, hfound⟩ := sameLength
  simp only [single, hrow, hremotes, hfound, List.all_cons, List.all_nil, Bool.and_true, Bool.and_eq_true,
    decide_eq_true_eq, Option.any_eq_true, List.any_eq_true, Option.isNone_iff_eq_none, and_assoc]
    at stored joins held remotes
  obtain ⟨unresolved, record, hrecord, ordered, parameter, hparameter, named, hvalue, untaken, unextended⟩ := remotes
  have carried := (shows 0 found row shown (by rw [hfound]; rfl) (by rw [hrow]; rfl) (by rw [hshown]; rfl)
    (.str "c1") Orders.ann record (joins ▸ stored) rfl (by rw [joins, held, stored])
    (Orders.serves_customers unresolved _ _) hrecord ordered parameter hparameter (.str "Oslo") hvalue).carried
    untaken unextended (.inl nofun)
  exact ⟨run.definition, run.grid, run.envelope, shown, valid.decoded, valid.made, valid.fetch, hshown, named ▸ carried⟩

/-- A parameter with the name of a column that the collection shows under another name: the remote has a value for it,
and the row shows none. -/
theorem title_lost_to_column : ∃ definition grid envelope resolved page remote row record shown parameter value,
    GridDefinition.decode (Orders.description "item" [("title", .str "name")]) = .ok definition ∧
    definition.check "orders" = .ok () ∧ ofJson definition .null (.obj []) = .ok grid ∧
    outcome (grid.fetch Orders.store.toStore (Orders.customers Orders.ann) "1") = .ok envelope ∧
    outcome (grid.resolve (Orders.customers Orders.ann)) = .ok resolved ∧ resolved.remotes = [remote] ∧
    outcome (resolved.primary.fetch Orders.store.toStore) = .ok page ∧
    page.rows = [row] ∧ row.lookup remote.definition.primaryKey = some (.str "c1") ∧
    remote.Serves (Orders.customers Orders.ann) page.rows Orders.ann ∧
    remote.recordOf? Orders.ann (.str "c1") = some record ∧ parameter ∈ remote.table.shown ∧
    record.lookup parameter.column = some value ∧
    envelope.content = [shown] ∧ Keyed.get? shown parameter.name ≠ some value := by
  have lost : ((Orders.run (Orders.description "item" [("title", .str "name")]) Orders.ann).any fun run =>
      run.resolved.remotes.length == 1 && run.page.rows.length == 1 && run.envelope.content.length == 1 &&
      run.resolved.remotes.all fun remote => remote.resolved.isNone && run.page.rows.all fun row =>
        decide (row.lookup remote.definition.primaryKey = some (.str "c1")) &&
        (remote.recordOf? Orders.ann (.str "c1")).any fun record => remote.table.shown.any fun parameter =>
          (Row.lookup record parameter.column).any fun value => run.envelope.content.all fun shown =>
            decide (Keyed.get? shown parameter.name ≠ some value)) = true := by
    decide +kernel
  obtain ⟨run, ran, lost⟩ := (Option.any_eq_true _ _).mp lost
  simp only [Bool.and_eq_true, beq_iff_eq, List.length_eq_one_iff] at lost
  obtain ⟨⟨⟨⟨remote, hremote⟩, row, hrow⟩, shown, hshown⟩, lost⟩ := lost
  simp only [hremote, hrow, hshown, List.all_cons, List.all_nil, Bool.and_true, Bool.and_eq_true, decide_eq_true_eq,
    Option.any_eq_true, List.any_eq_true, Option.isNone_iff_eq_none] at lost
  obtain ⟨unresolved, held, record, hrecord, parameter, hparameter, value, hvalue, lost⟩ := lost
  have valid := Orders.valid_of_run ran
  exact ⟨run.definition, run.grid, run.envelope, run.resolved, run.page, remote, row, record, shown, parameter, value,
    valid.decoded, valid.checked, valid.made, valid.fetch, valid.resolve, hremote, valid.page, hrow, held,
    Orders.serves_customers unresolved _ _, hrecord, hparameter, hvalue, hshown, lost⟩

end CompositeGrid

end DataGrid
