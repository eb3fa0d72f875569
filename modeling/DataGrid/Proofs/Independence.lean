-- SUMMARY: A shown field has the value that it has in a table of its own, where no other field gets in its way.
import DataGrid.Proofs.Expansion
import DataGrid.Proofs.Projection

/-!
# Independence of fields

Fields are expanded one after the other in one row, so what a field shows may depend
on the others: a join may expand into the column that a field reads its ids from or
into the place where it is shown, and a field without ids shows whatever else has been
fetched for that place. Where the paths are apart, a field shows in its table what it
shows in a table of its own.
-/

namespace DataGrid

/-! ## Projections of one document -/

namespace Row

/-- What a projection holds at a path that leads through one of its columns, or that is apart from all others, is due to
this column alone. -/
theorem at?_project_eq {doc : Row} (ordered : (Json.obj doc).isOrdered = true) {columns : List String}
    (distinct : columns.Nodup) {column : String} (hcolumn : column ∈ columns) {path : List String} (hpath : path ≠ [])
    (own : Text.segments column <+: path ∨ ∀ other ∈ columns, other ≠ column → Apart (Text.segments other) path) :
    at? (doc.project columns) path = at? (doc.project [column]) path := by
  rcases own with ⟨rest, rfl⟩ | apart
  · refine at?_append_congr (Text.segments_ne_nil column) ?_ rest
    exact (lookup_project ordered hcolumn).trans (lookup_project ordered (List.mem_singleton_self column)).symm
  obtain ⟨before, after, rfl⟩ := List.append_of_mem hcolumn
  obtain ⟨-, fresh, separate⟩ := List.nodup_append.mp distinct
  have keeps {others : List String} (hothers : ∀ other ∈ others, Apart (Text.segments other) path) (start : Row) :
      at? (others.foldl (copyInto doc) start) path = at? start path :=
    copyInto_induction (p := fun kept => at? kept path = at? start path) rfl
      fun other hother _ _ kept hkept => (at?_insertAt_of_apart kept (hothers other hother) _).trans hkept
  have apartBefore : ∀ other ∈ before, Apart (Text.segments other) path := fun other hother =>
    apart other (List.mem_append_left _ hother) (separate other hother column List.mem_cons_self)
  have apartAfter : ∀ other ∈ after, Apart (Text.segments other) path := fun other hother =>
    apart other (List.mem_append_right _ (List.mem_cons_of_mem _ hother))
      fun same => (List.nodup_cons.mp fresh).1 (same ▸ hother)
  rw [project_eq, project_eq, List.foldl_append, List.foldl_cons, keeps apartAfter, List.foldl_cons, List.foldl_nil]
  unfold copyInto
  split
  · exact at?_insertAt_congr (Text.segments_ne_nil column) (keeps apartBefore []) _
  · exact keeps apartBefore []

end Row


/-! ## Rows of a table -/

namespace Field

/-- What is shown of a value: a join leaves out what it excludes. -/
def reading (field : Field) (value : Json) : Json :=
  match field.join with
  | some join => value.strip join.exclude
  | none => value

end Field

namespace FieldTable

variable {table : FieldTable}

/-- The rows that are shown of a collection for the empty query. -/
def overview (table : FieldTable) (store : MemoryStore) (collection : String) : Result (List Row) := do
  let grid ← CollectionGrid.ofJson collection table (.obj [])
  let page ← outcome (grid.fetch store.toStore)
  return page.rows.map (table.projection.renameRow (some table))

/-- A document cut to the columns of a table, with its joins expanded. -/
def expanded (table : FieldTable) (store : MemoryStore) (doc : Row) : Row :=
  table.shown.foldl (Join.expandIn store) (doc.project table.projection.columns)

/-- The only document of a collection is shown, without fail. -/
theorem overview_of_single (table : FieldTable) {store : MemoryStore} {collection : String} {doc : Row}
    (single : store.rows collection = [doc]) :
    table.overview store collection = .ok [table.projection.renameRow (some table) (table.expanded store doc)] := by
  let grid := CollectionGrid.ofRequest collection table .empty
  have made : CollectionGrid.ofJson collection table (.obj []) = .ok grid := rfl
  have sorted : store.sorted collection grid.plan.predicate grid.plan.sortKeys = [doc] := by
    have every : grid.plan.predicate.holds doc = true := rfl
    rw [MemoryStore.sorted, MemoryStore.matching, single, List.filter_cons_of_pos every, List.filter_nil,
      List.mergeSort_singleton]
  have found : store.find grid.collection grid.selection = [doc.project table.projection.columns] := by
    have columns : grid.columns = table.projection.columns := List.append_nil _
    rw [← columns]
    exact congrArg (fun rows => (Selection.window 0 (some Pagination.defaultLimit) rows).map grid.selection.shape) sorted
  have page : ∃ page, outcome (grid.fetch store.toStore) = .ok page ∧ page.rows = [table.expanded store doc] := by
    refine ⟨_, outcome_bind_eq_ok.mpr ⟨_, MemoryStore.outcome_count .., outcome_bind_eq_ok.mpr
      ⟨_, MemoryStore.outcome_find .., outcome_bind_eq_ok.mpr ⟨[table.expanded store doc], ?_, outcome_pure _⟩⟩⟩, rfl⟩
    rw [found]
    exact Join.expandAll_singleton store table.shown _
  obtain ⟨page, hpage, hrows⟩ := page
  rw [overview, made]
  change (outcome (grid.fetch store.toStore)).bind _ = _
  rw [hpage]
  change Except.ok (page.rows.map _) = _
  rw [hrows]
  rfl

theorem IsRead.column_mem_projection (read : table.IsRead) {field : Field} (hfield : field ∈ table.shown) :
    field.column ∈ table.projection.columns :=
  isKeyed_projection.mem_columns.mpr ⟨_, read.column?_projection.mpr ⟨field, hfield, rfl, rfl⟩⟩

/-- A shown field is read where its join leaves it. -/
theorem IsRead.get?_renameRow (read : table.IsRead) {field : Field} (hfield : field ∈ table.shown) (row : Row) :
    Keyed.get? (table.projection.renameRow (some table) row) field.name =
      (row.lookup field.source).map field.reading := by
  rw [Projection.get?_renameRow isKeyed_projection, read.column?_projection.mpr ⟨field, hfield, rfl, rfl⟩,
    Option.bind_some, Projection.value?, Option.bind_some, read.get?_eq_some_iff.mpr ⟨(mem_shown.mp hfield).1, rfl⟩]
  rfl

/-- No other field gets in the way of a field: none expands into the place where it is shown, none that comes before it
into the column that it takes its ids from, and unless it is shown at its column or below, none has its column there. -/
structure Clear (table : FieldTable) (field : Field) : Prop where
  shown : ∀ other ∈ table.shown, other.name ≠ field.name → other.join.isSome = true →
    Row.Apart (Text.segments other.source) (Text.segments field.source)
  ids : field.join.isSome = true → ∀ other ∈ table.shown, other.name < field.name → other.join.isSome = true →
    Row.Apart (Text.segments other.source) (Text.segments field.column)
  fetched : Text.segments field.column <+: Text.segments field.source ∨ ∀ other ∈ table.shown,
    other.name ≠ field.name → Row.Apart (Text.segments other.column) (Text.segments field.source)

section

variable {descriptors : Keyed FieldDescriptor}

theorem isRead_of_ofDescriptors (keyed : descriptors.Ascending) (checked : ofDescriptors descriptors = .ok table) :
    table.IsRead where
  checked := ⟨descriptors, checked_of_ofDescriptors checked⟩
  names := by
    rw [(checked_of_ofDescriptors checked).keys_eq]
    exact keyed.nodup_keys

/-- The shown fields of a table stand in the order of their names. -/
theorem ascending_shown (keyed : descriptors.Ascending) (checked : ofDescriptors descriptors = .ok table) :
    table.shown.Pairwise fun a b => a.name < b.name := by
  have stands := checked_of_ofDescriptors checked
  apply stands.ascending_shown
  rw [stands.keys_eq]
  exact List.pairwise_map.mpr keyed

/-- The descriptor of a field makes up a table of its own, which has this field alone. -/
theorem ofDescriptors_single (keyed : descriptors.Ascending) (checked : ofDescriptors descriptors = .ok table)
    {name : String} {descriptor : FieldDescriptor} (hdescriptor : (name, descriptor) ∈ descriptors) {field : Field}
    (hfield : table.get? name = some field) : ofDescriptors [(name, descriptor)] = .ok ⟨[(name, field)]⟩ := by
  obtain ⟨⟨_, own⟩, hown, rfl, made⟩ :=
    Outcome.exists_right_of_mem (checked_of_ofDescriptors checked).stands hdescriptor
  have found := (Keyed.get?_eq_some_iff (isRead_of_ofDescriptors keyed checked).names).mpr hown
  obtain rfl := Option.some.inj (hfield.symm.trans found)
  dsimp only at made
  simp only [ofDescriptors, checkFields, made]
  rfl

/-- The columns of the other fields add nothing where a field is shown. -/
theorem lookup_project_source (read : table.IsRead) {field : Field} (hfield : field ∈ table.shown)
    (clear : table.Clear field) {doc : Row} (ordered : (Json.obj doc).isOrdered = true) :
    (doc.project table.projection.columns).lookup field.source = (doc.project [field.column]).lookup field.source := by
  refine Row.at?_project_eq ordered (Projection.nodup_columns_ofPairs _) (read.column_mem_projection hfield)
    (Text.segments_ne_nil field.source) (clear.fetched.imp_right fun apart column hcolumn distinct => ?_)
  obtain ⟨name, hname⟩ := isKeyed_projection.mem_columns.mp hcolumn
  obtain ⟨other, hother, -, rfl⟩ := read.column?_projection.mp hname
  apply apart other hother
  intro same
  exact distinct (by rw [List.inj_on_of_nodup_map read.nodup_shown.1 hother hfield same])

/-- A row of a table holds a field, where it is shown, as the row of the field alone does. -/
theorem lookup_expanded_eq (read : table.IsRead) (names : table.shown.Pairwise fun a b => a.name < b.name)
    {field : Field} (hfield : field ∈ table.shown) (clear : table.Clear field) {doc : Row}
    (ordered : (Json.obj doc).isOrdered = true) (store : MemoryStore) :
    (table.expanded store doc).lookup field.source =
      (Join.expandIn store (doc.project [field.column]) field).lookup field.source := by
  obtain ⟨before, after, hshown⟩ := List.append_of_mem hfield
  rw [hshown] at names
  obtain ⟨-, names, separate⟩ := List.pairwise_append.mp names
  have earlier : ∀ other ∈ before, other ∈ table.shown ∧ other.name < field.name := fun other h =>
    ⟨hshown ▸ List.mem_append_left _ h, separate other h field List.mem_cons_self⟩
  have later : ∀ other ∈ after, other ∈ table.shown ∧ field.name < other.name := fun other h =>
    ⟨hshown ▸ List.mem_append_right _ (List.mem_cons_of_mem _ h), (List.pairwise_cons.mp names).1 other h⟩
  have apartBefore : ∀ other ∈ before, other.join.isSome = true →
      Row.Apart (Text.segments other.source) (Text.segments field.source) := by
    intro other h
    exact clear.shown other (earlier other h).1 fun same => String.lt_irrefl _ (same ▸ (earlier other h).2)
  have apartAfter : ∀ other ∈ after, other.join.isSome = true →
      Row.Apart (Text.segments other.source) (Text.segments field.source) := by
    intro other h
    exact clear.shown other (later other h).1 fun same => String.lt_irrefl _ (same ▸ (later other h).2)
  rw [expanded, hshown, List.foldl_append, List.foldl_cons]
  refine (Join.at?_foldl_expandIn apartAfter _).trans (Join.lookup_expandIn_congr (fun joins => ?_) ?_)
  · have kept : ∀ other ∈ before, other.join.isSome = true →
        Row.Apart (Text.segments other.source) (Text.segments field.column) := by
      intro other h
      exact clear.ids joins other (earlier other h).1 (earlier other h).2
    refine (Join.at?_foldl_expandIn kept _).trans ?_
    exact (Row.lookup_project ordered (read.column_mem_projection hfield)).trans
      (Row.lookup_project ordered (List.mem_singleton_self field.column)).symm
  · exact (Join.at?_foldl_expandIn apartBefore _).trans (lookup_project_source read hfield clear ordered)

/-- Where nothing gets in the way of a shown field, the only document of a collection shows the same value of it, or none,
in the table and in a table of this field alone, whatever the collections hold that are joined. -/
theorem overview_alone (keyed : descriptors.Ascending) (checked : ofDescriptors descriptors = .ok table) {name : String}
    {descriptor : FieldDescriptor} (hdescriptor : (name, descriptor) ∈ descriptors) {field : Field}
    (hfield : table.get? name = some field) (shown : field.shown = true) (clear : table.Clear field)
    {store : MemoryStore} {collection : String} {doc : Row} (single : store.rows collection = [doc])
    (ordered : (Json.obj doc).isOrdered = true) :
    ∃ alone full part, ofDescriptors [(name, descriptor)] = .ok alone ∧
      table.overview store collection = .ok [full] ∧ alone.overview store collection = .ok [part] ∧
      Keyed.get? full name = Keyed.get? part name := by
  have read := isRead_of_ofDescriptors keyed checked
  obtain ⟨inside, rfl⟩ := read.get?_eq_some_iff.mp hfield
  have made := ofDescriptors_single keyed checked hdescriptor hfield
  have hshown : field ∈ table.shown := mem_shown.mpr ⟨inside, shown⟩
  let alone : FieldTable := ⟨[(field.name, field)]⟩
  have readAlone : alone.IsRead := isRead_of_ofDescriptors (List.pairwise_singleton _ _) made
  have shownAlone : alone.shown = [field] := List.filter_cons_of_pos shown
  refine ⟨alone, _, _, made, overview_of_single table single, overview_of_single alone single, ?_⟩
  have expandedAlone : alone.expanded store doc = Join.expandIn store (doc.project [field.column]) field := by
    have columns : alone.projection.columns = [field.column] := by
      rw [projection, shownAlone]
      rfl
    rw [expanded, shownAlone, columns]
    rfl
  rw [read.get?_renameRow hshown, readAlone.get?_renameRow (shownAlone ▸ List.mem_singleton_self field), expandedAlone,
    lookup_expanded_eq read (ascending_shown keyed checked) hshown clear ordered store]

end

/-! ## Items and their authors -/

namespace Items

/-- A column under a name of its own. -/
def plain (column : String) : FieldDescriptor :=
  { FieldDescriptor.empty with databaseName := some column }

/-- The author of an item, expanded without the token. -/
def author : FieldDescriptor :=
  { plain "author_id" with
    join := some { model := "users", destination := some "author", fields := ["name"], exclude := ["token"], key := none } }

/-- One item, whose author has a token. -/
def store : MemoryStore :=
  ⟨[("items", [[("author_id", .str "u1"), ("title", .str "alpha")]]),
    ("users", [[("id", .str "u1"), ("name", .str "Ann"), ("token", .str "t")]])]⟩

/-- What the items show under a name, in a table of some descriptors. -/
def seen (descriptors : Keyed FieldDescriptor) (name : String) : Option (List (Option Json)) := do
  let table ← (ofDescriptors descriptors).toOption
  let rows ← (table.overview store "items").toOption
  return rows.map (Keyed.get? · name)

theorem exists_of_seen {descriptors : Keyed FieldDescriptor} {name : String} {value : Option Json}
    (h : seen descriptors name = some [value]) : ∃ table row, ofDescriptors descriptors = .ok table ∧
      table.overview store "items" = .ok [row] ∧ Keyed.get? row name = value := by
  simp only [seen, Option.bind_eq_bind, Option.bind_eq_some_iff, Outcome.toOption_eq_some] at h
  obtain ⟨table, made, rows, shown, values⟩ := h
  obtain ⟨row, rfl, hvalue⟩ := List.map_eq_singleton_iff.mp (Option.some.inj values)
  exact ⟨table, row, made, shown, hvalue⟩

end Items

instance (table : FieldTable) (field : Field) : Decidable (table.Clear field) :=
  decidable_of_iff (_ ∧ _ ∧ _) ⟨fun ⟨shown, ids, fetched⟩ => ⟨shown, ids, fetched⟩, fun h => ⟨h.shown, h.ids, h.fetched⟩⟩

/-- The title of an item and its author, expanded without the token, are clear of each other: each is shown as it is
alone. -/
theorem overview_alone_items : ∃ table full,
    ofDescriptors [("author", Items.author), ("title", Items.plain "title")] = .ok table ∧
    table.overview Items.store "items" = .ok [full] ∧
    full = [("author", .obj [("id", .str "u1"), ("name", .str "Ann")]), ("title", .str "alpha")] ∧
    ∀ e ∈ [("author", Items.author), ("title", Items.plain "title")],
      (∃ field, table.get? e.1 = some field ∧ field.shown = true ∧ table.Clear field) ∧
        ∃ alone part, ofDescriptors [e] = .ok alone ∧ alone.overview Items.store "items" = .ok [part] ∧
          Keyed.get? full e.1 = Keyed.get? part e.1 := by
  have keyed : Keyed.Ascending [("author", Items.author), ("title", Items.plain "title")] := by decide
  have seen : ((ofDescriptors [("author", Items.author), ("title", Items.plain "title")]).toOption.any fun table =>
      decide ((table.overview Items.store "items").toOption =
        some [[("author", .obj [("id", .str "u1"), ("name", .str "Ann")]), ("title", .str "alpha")]]) &&
      ["author", "title"].all fun name =>
        (table.get? name).any fun field => decide (field.shown = true ∧ table.Clear field)) = true := by decide +kernel
  obtain ⟨table, made, seen⟩ := (Option.any_eq_true _ _).mp seen
  obtain ⟨shows, clear⟩ := Bool.and_eq_true_iff.mp seen
  have checked := Outcome.toOption_eq_some.mp made
  have shows := Outcome.toOption_eq_some.mp (of_decide_eq_true shows)
  have stored : Items.store.rows "items" = [[("author_id", .str "u1"), ("title", .str "alpha")]] := rfl
  refine ⟨table, _, checked, shows, rfl, fun e he => ?_⟩
  have named : e.1 ∈ ["author", "title"] := List.mem_map_of_mem he
  obtain ⟨field, hfield, clear⟩ := (Option.any_eq_true _ _).mp (List.all_eq_true.mp clear e.1 named)
  obtain ⟨shown, clear⟩ := of_decide_eq_true clear
  obtain ⟨alone, full, part, single, hfull, hpart, same⟩ := overview_alone keyed checked he hfield shown clear stored
    (by decide)
  obtain rfl := List.singleton_inj.mp (Except.ok.inj (hfull.symm.trans shows))
  exact ⟨⟨field, hfield, shown, clear⟩, alone, part, single, hpart, same⟩

/-- A column below the place of the author shows the token that the author excludes; on its own it shows nothing. -/
theorem token_leaks_through_join : ∃ table alone full part,
    ofDescriptors [("author", Items.author), ("leak", Items.plain "author.token")] = .ok table ∧
    ofDescriptors [("leak", Items.plain "author.token")] = .ok alone ∧
    table.overview Items.store "items" = .ok [full] ∧ alone.overview Items.store "items" = .ok [part] ∧
    Keyed.get? full "leak" = some (.str "t") ∧ Keyed.get? part "leak" = none := by
  have leaks : Items.seen [("author", Items.author), ("leak", Items.plain "author.token")] "leak" =
      some [some (.str "t")] := by decide +kernel
  have alone : Items.seen [("leak", Items.plain "author.token")] "leak" = some [none] := by decide +kernel
  obtain ⟨table, full, checked, hfull, leaked⟩ := Items.exists_of_seen leaks
  obtain ⟨alone, part, single, hpart, absent⟩ := Items.exists_of_seen alone
  exact ⟨table, alone, full, part, checked, single, hfull, hpart, leaked, absent⟩

end FieldTable

end DataGrid
