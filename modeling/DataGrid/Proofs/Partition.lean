-- SUMMARY: Every entry of an accepted request is asked for somewhere, and nothing else is.
import DataGrid.Proofs.CompositeRun

/-!
# Splitting a request

The entries of a request without complaints are split between the collection and
the remotes by their names. A remote that has a parameter of some name is sent every
entry of that name; the entries that no remote knows become fragments of the
collection; and neither side asks for anything else.
-/

namespace DataGrid

/-- The kinds of clauses that a remote is sent. -/
def Capability.isSent : Capability → Bool
  | .search | .filter | .range => true
  | .sort | .display => false

namespace RemoteGrid

/-- The exact body of a remote has a member in the clause of a kind. -/
def Sends (remote : RemoteGrid) (kind : Capability) (column : String) (json : Json) : Prop :=
  ∃ exact, remote.rendered.exact = some exact ∧ (column, json) ∈ exact.entries kind

end RemoteGrid

namespace Rendering

/-- An exact body has the share of each kind, member by member. -/
theorem Covers.sends_iff {remote : RemoteGrid} {request : Request} (htable : remote.definition.table = .ok remote.table)
    (covers : Covers remote.table remote.definition.maxKeys request remote.rendered) {kind : Capability}
    (hkind : kind.isSent = true) (hentries : (Keyed.keys (request.entries kind)).Nodup) {column : String} {json : Json} :
    remote.Sends kind column json ↔ (column, json) ∈ share remote.table kind (request.entries kind) := by
  have clause := covers.clause_eq kind (by rintro rfl; cases hkind) (by rintro rfl; cases hkind)
  rw [← Draft.mem_write (nodup_share htable hentries kind), ← clause]
  simp only [RemoteGrid.Sends, Option.bind_eq_some_iff]
  constructor
  · rintro ⟨exact, hexact, hmem⟩
    obtain ⟨row, hrow, hmem⟩ := Request.exists_of_mem_entries hmem
    exact ⟨row, ⟨exact, hexact, hrow⟩, hmem⟩
  · rintro ⟨row, ⟨exact, hexact, hrow⟩, hmem⟩
    exact ⟨exact, hexact, by simpa [Request.entries, hrow] using hmem⟩

end Rendering

namespace CompositeGrid

variable {definition : GridDefinition} {header body : Json} {grid : CompositeGrid}

/-! ## Shares of remotes -/

theorem Made.covers (made : Made definition header body grid) (quiet : grid.complaints = []) {remote : RemoteGrid}
    (hremote : remote ∈ grid.remotes) :
    Rendering.Covers remote.table remote.definition.maxKeys grid.request remote.rendered := by
  have none := (complaints_eq_nil.mp quiet).2 remote hremote
  rw [RemoteGrid.complaints, (made.remote hremote).2.2] at none
  rw [(made.remote hremote).2.2]
  exact Rendering.covers_of_complaints_eq_nil none

/-- A remote accepts a named entry where it has a parameter of that name and the value suits the kind. -/
theorem Made.param_of_accepted (made : Made definition header body grid) {remote : RemoteGrid}
    (hremote : remote ∈ grid.remotes) {kind : Capability} {e : String × Json} {column : String} {fragment : Fragment}
    (h : Clause.accepted? remote.table kind e = some (column, fragment)) :
    Clause.isNamed kind e.1 = true ∧ Keyed.get? remote.definition.parameters e.1 = some column ∧
      Fragment.ofValue? kind e.2 = some fragment := by
  obtain ⟨hnamed, field, hfield, -, hcolumn, hvalue⟩ := Clause.accepted?_eq_some.mp h
  refine ⟨hnamed, ?_, hvalue⟩
  rw [← RemoteDefinition.get?_table (made.remote hremote).2.1, hfield]
  exact congrArg some hcolumn

/-- A remote is sent every named entry that is one of its parameters. -/
theorem Made.sends (made : Made definition header body grid) (hbody : body.isOrdered = true)
    (quiet : grid.complaints = []) {remote : RemoteGrid} (hremote : remote ∈ grid.remotes) {kind : Capability}
    (hkind : kind.isSent = true) {e : String × Json} (he : e ∈ Request.entriesOf body kind)
    (hnamed : Clause.isNamed kind e.1 = true) {column : String}
    (hcolumn : Keyed.get? remote.definition.parameters e.1 = some column) :
    ∃ fragment, Fragment.ofValue? kind e.2 = some fragment ∧ remote.Sends kind column fragment.toJson := by
  have entries : grid.request.entries kind = Request.entriesOf body kind :=
    Request.entries_of_ofJson hbody made.request_eq (by rintro rfl; cases hkind)
  have covers := made.covers quiet hremote
  have htable := (made.remote hremote).2.1
  have known : remote.table.contains e.1 = true :=
    (RemoteDefinition.contains_table htable).mpr (Keyed.mem_keys_iff.mpr ⟨column, hcolumn⟩)
  obtain ⟨⟨column', fragment⟩, accepted⟩ :=
    Option.isSome_iff_exists.mp (covers.accepts kind e (entries ▸ he) hnamed known)
  obtain ⟨-, hcolumn', hvalue⟩ := made.param_of_accepted hremote accepted
  obtain rfl := Option.some.inj (hcolumn.symm.trans hcolumn')
  refine ⟨fragment, hvalue, (covers.sends_iff htable hkind ?_).mpr ?_⟩
  · rw [entries]
    exact (Request.ascending_entriesOf hbody kind).nodup_keys
  · rw [entries]
    exact Rendering.mem_share.mpr ⟨e, he, fragment, accepted, rfl⟩

/-- A remote is sent nothing but entries of the request. -/
theorem Made.sent (made : Made definition header body grid) (hbody : body.isOrdered = true)
    (quiet : grid.complaints = []) {remote : RemoteGrid} (hremote : remote ∈ grid.remotes) {kind : Capability}
    {column : String} {json : Json} (h : remote.Sends kind column json) :
    kind.isSent = true ∧ ∃ e ∈ Request.entriesOf body kind, Clause.isNamed kind e.1 = true ∧
      Keyed.get? remote.definition.parameters e.1 = some column ∧
        ∃ fragment, Fragment.ofValue? kind e.2 = some fragment ∧ fragment.toJson = json := by
  have covers := made.covers quiet hremote
  have hkind : kind.isSent = true := by
    obtain ⟨exact, hexact, hmem⟩ := h
    obtain ⟨row, hrow, -⟩ := Request.exists_of_mem_entries hmem
    cases kind with
    | sort => exact absurd ((covers.exact_eq exact hexact).1.symm.trans hrow) nofun
    | display => cases hrow
    | _ => rfl
  have entries : grid.request.entries kind = Request.entriesOf body kind :=
    Request.entries_of_ofJson hbody made.request_eq (by rintro rfl; cases hkind)
  rw [covers.sends_iff (made.remote hremote).2.1 hkind
    (by rw [entries]; exact (Request.ascending_entriesOf hbody kind).nodup_keys), entries, Rendering.mem_share] at h
  obtain ⟨e, he, fragment, accepted, rfl⟩ := h
  obtain ⟨hnamed, hcolumn, hvalue⟩ := made.param_of_accepted hremote accepted
  exact ⟨hkind, e, he, hnamed, hcolumn, fragment, hvalue, rfl⟩


/-! ## The share of the collection -/

theorem Made.planCovers (made : Made definition header body grid) (quiet : grid.complaints = []) :
    QueryPlan.Covers definition.fields (grid.request.without definition.remoteFields) grid.primary.plan := by
  have none := (complaints_eq_nil.mp quiet).1
  rw [CollectionGrid.complaints, made.plan_eq] at none
  rw [made.plan_eq]
  exact QueryPlan.covers_of_complaints_eq_nil none

/-- No entry of the sort clause is left to a remote. -/
theorem Made.sort_local (made : Made definition header body grid) (quiet : grid.complaints = []) {e : String × Json}
    (he : e ∈ grid.request.entries .sort) : e.1 ∉ definition.remoteFields := by
  rw [mem_remoteFields, ← made.definitions]
  rintro ⟨d, hd, hname⟩
  obtain ⟨remote, hremote, rfl⟩ := List.mem_map.mp hd
  have unknown := (made.covers quiet hremote).unsorted e he
  rw [(RemoteDefinition.contains_table (made.remote hremote).2.1).mpr hname] at unknown
  cases unknown

/-- The collection has a fragment for every named entry that no remote answers for. -/
theorem Made.keeps (made : Made definition header body grid) (hbody : body.isOrdered = true)
    (quiet : grid.complaints = []) {kind : Capability} (hkind : kind ≠ .display) {e : String × Json}
    (he : e ∈ Request.entriesOf body kind) (hnamed : Clause.isNamed kind e.1 = true)
    (kept : e.1 ∉ definition.remoteFields) :
    ∃ field fragment, definition.fields.get? e.1 = some field ∧ field.grants kind = true ∧
      Fragment.ofValue? kind e.2 = some fragment ∧
      (field.column, fragment) ∈ grid.primary.plan.criteria.fragments kind := by
  have covers := made.planCovers quiet
  rw [← Request.entries_of_ofJson hbody made.request_eq hkind] at he
  have inside := mem_entries_without.mpr ⟨he, kept⟩
  obtain ⟨⟨column, fragment⟩, accepted⟩ := Option.isSome_iff_exists.mp (covers.accepts kind e inside hnamed)
  obtain ⟨-, field, hfield, hgrants, rfl, hvalue⟩ := Clause.accepted?_eq_some.mp accepted
  refine ⟨field, fragment, hfield, hgrants, hvalue, ?_⟩
  rw [covers.fragments_eq kind hkind]
  exact List.mem_filterMap.mpr ⟨e, inside, accepted⟩

/-- The collection has no fragment but those of entries. -/
theorem Made.kept (made : Made definition header body grid) (hbody : body.isOrdered = true)
    (quiet : grid.complaints = []) {kind : Capability} {f : String × Fragment}
    (hf : f ∈ grid.primary.plan.criteria.fragments kind) :
    ∃ e ∈ Request.entriesOf body kind, Clause.isNamed kind e.1 = true ∧ e.1 ∉ definition.remoteFields ∧
      ∃ field, definition.fields.get? e.1 = some field ∧ field.grants kind = true ∧ field.column = f.1 ∧
        Fragment.ofValue? kind e.2 = some f.2 := by
  by_cases hkind : kind = .display
  · subst hkind
    cases hf
  rw [(made.planCovers quiet).fragments_eq kind hkind] at hf
  obtain ⟨e, inside, accepted⟩ := List.mem_filterMap.mp hf
  obtain ⟨he, kept⟩ := mem_entries_without.mp inside
  rw [Request.entries_of_ofJson hbody made.request_eq hkind] at he
  obtain ⟨hnamed, rest⟩ := Clause.accepted?_eq_some.mp accepted
  exact ⟨e, he, hnamed, kept, rest⟩

/-- The collection looks for nothing but the free text of the request. -/
theorem Made.query (made : Made definition header body grid) (hbody : body.isOrdered = true)
    (quiet : grid.complaints = []) {place : String × String} (hplace : place ∈ grid.primary.plan.criteria.query) :
    ∃ s, (Request.freeTextKey, .str s) ∈ Request.entriesOf body .search ∧ place.2 = Text.trim s ∧
      Text.isBlank s = false ∧ ∃ field ∈ definition.fields.toList, field.searchable = true ∧ field.column = place.1 := by
  rw [(made.planCovers quiet).query_eq] at hplace
  obtain ⟨text, htext, hplace⟩ := List.mem_flatMap.mp hplace
  obtain ⟨column, hcolumn, rfl⟩ := List.mem_map.mp hplace
  obtain ⟨s, hs, some, rfl⟩ := Clause.mem_freeTexts.mp htext
  have inside := (mem_entries_without.mp hs).1
  rw [Request.entries_of_ofJson hbody made.request_eq (by nofun)] at inside
  obtain ⟨field, hfield, rfl⟩ := List.mem_map.mp hcolumn
  obtain ⟨listed, searchable⟩ := List.mem_filter.mp hfield
  exact ⟨s, inside, rfl, some, field, listed, searchable, rfl⟩

/-- A request without complaints is split without loss and without addition. A remote is sent each named search, filter
and range entry that is one of its parameters, under its own name and with the validated value, and nothing else. The
collection has a fragment, on the column of its field, for each other named entry, a sort key for each sort entry, the
free text at its searchable columns, and nothing else. -/
theorem entries_split (hbody : body.isOrdered = true) (hgrid : ofJson definition header body = .ok grid)
    (quiet : grid.complaints = []) :
    grid.remotes.map (·.definition) = definition.remotes ∧
    (∀ remote ∈ grid.remotes, ∀ kind, kind.isSent = true → ∀ e ∈ Request.entriesOf body kind,
      Clause.isNamed kind e.1 = true → ∀ column, Keyed.get? remote.definition.parameters e.1 = some column →
        ∃ fragment, Fragment.ofValue? kind e.2 = some fragment ∧ remote.Sends kind column fragment.toJson) ∧
    (∀ remote ∈ grid.remotes, ∀ kind column json, remote.Sends kind column json →
      kind.isSent = true ∧ ∃ e ∈ Request.entriesOf body kind, Clause.isNamed kind e.1 = true ∧
        Keyed.get? remote.definition.parameters e.1 = some column ∧
        ∃ fragment, Fragment.ofValue? kind e.2 = some fragment ∧ fragment.toJson = json) ∧
    (∀ kind, kind ≠ .display → ∀ e ∈ Request.entriesOf body kind, Clause.isNamed kind e.1 = true →
      e.1 ∉ definition.remoteFields →
        ∃ field fragment, definition.fields.get? e.1 = some field ∧ field.grants kind = true ∧
          Fragment.ofValue? kind e.2 = some fragment ∧
          (field.column, fragment) ∈ grid.primary.plan.criteria.fragments kind) ∧
    (∀ e ∈ Request.entriesOf body .sort, ∃ field direction, definition.fields.get? e.1 = some field ∧
      Fragment.ofValue? .sort e.2 = some (.sorted direction) ∧
        ⟨field.column, direction⟩ ∈ grid.primary.plan.sortKeys) ∧
    (∀ kind, ∀ f ∈ grid.primary.plan.criteria.fragments kind, ∃ e ∈ Request.entriesOf body kind,
      Clause.isNamed kind e.1 = true ∧ e.1 ∉ definition.remoteFields ∧
        ∃ field, definition.fields.get? e.1 = some field ∧ field.grants kind = true ∧ field.column = f.1 ∧
          Fragment.ofValue? kind e.2 = some f.2) ∧
    (∀ place ∈ grid.primary.plan.criteria.query, ∃ s, (Request.freeTextKey, .str s) ∈ Request.entriesOf body .search ∧
      place.2 = Text.trim s ∧ Text.isBlank s = false ∧
        ∃ field ∈ definition.fields.toList, field.searchable = true ∧ field.column = place.1) ∧
    grid.primary.plan.criteria.queryKeys = [] := by
  have made := made_of_ofJson hgrid
  refine ⟨made.definitions, fun remote hremote kind hkind e he hnamed column hcolumn =>
      made.sends hbody quiet hremote hkind he hnamed hcolumn,
    fun remote hremote kind column json h => made.sent hbody quiet hremote h,
    fun kind hkind e he hnamed kept => made.keeps hbody quiet hkind he hnamed kept, fun e he => ?_,
    fun kind f hf => made.kept hbody quiet hf, fun place hplace => made.query hbody quiet hplace,
    (made.planCovers quiet).queryKeys_eq⟩
  have kept : e.1 ∉ definition.remoteFields := by
    rw [← Request.entries_of_ofJson hbody made.request_eq (by nofun)] at he
    exact made.sort_local quiet he
  have sorts : Capability.sort ≠ .display := nofun
  obtain ⟨field, fragment, hfield, -, hvalue, hmem⟩ := made.keeps hbody quiet sorts he rfl kept
  obtain ⟨⟨column, direction⟩, hf, same⟩ := List.mem_map.mp hmem
  obtain ⟨rfl, rfl⟩ := Prod.mk.inj same
  exact ⟨field, direction, hfield, hvalue, List.mem_map.mpr ⟨_, hf, rfl⟩⟩

namespace Orders

/-- A field of orders that can be sorted by and grants clauses of one more kind. -/
def granting (name : String) (kind : Capability) : String × Field :=
  (name, {
    name
    column := name
    displayName := name
    shown := true
    searchable := kind = .search
    filterable := kind = .filter
    rangeable := kind = .range
    sortable := true
    join := none })

/-- Orders with a date, a state and a title, and a remote that knows the age, the city and the tier of a customer. -/
def ledger : GridDefinition where
  collection := "orders"
  fields := ⟨[granting "placed" .range, granting "state" .filter, granting "title" .search]⟩
  remotes := [{
    address := ⟨"crm", "customers"⟩
    primaryKey := "customer"
    foreignKey := "id"
    parameters := [("age", "years"), ("city", "town"), ("tier", "level")]
    fields := [("age", { FieldDescriptor.empty with rangeable := some true })]
    maxKeys := RemoteDefinition.defaultMaxKeys }]

/-- A request with entries for both sides in each clause but the last. -/
def mixed : Json :=
  .obj [
    ("filter", .obj [("state", .arr [.str "open", .str "held"]), ("tier", .str "gold")]),
    ("range", .obj [
      ("age", .obj [("max", .ofNat 65), ("min", .ofNat 18)]),
      ("placed", .obj [("max", .str "2025"), ("min", .str "2024")])]),
    ("searchKeyword", .obj [("city", .str "Oslo"), ("query", .str " blue "), ("title", .str "alpha")]),
    ("sort", .obj [("placed", .str "descending")])]

end Orders

/-- The remote is asked for the age, the city and the tier under its own names for them, and the collection for the date,
the state, the title and the free text; the collection alone sorts. -/
theorem entries_split_orders : ∃ grid,
    Orders.mixed.isOrdered = true ∧ ofJson Orders.ledger .null Orders.mixed = .ok grid ∧ grid.complaints = [] ∧
    grid.remotes.length = 1 ∧
    (∀ remote ∈ grid.remotes,
      remote.Sends .search "town" (.str "Oslo") ∧
      remote.Sends .filter "level" (.arr [.str "gold"]) ∧
      remote.Sends .range "years" (.obj [("max", .ofNat 65), ("min", .ofNat 18)]) ∧
      ∀ json, ¬remote.Sends .search "title" json) ∧
    ("title", Fragment.term (.str "alpha")) ∈ grid.primary.plan.criteria.fragments .search ∧
    ("state", Fragment.among [.str "open", .str "held"]) ∈ grid.primary.plan.criteria.fragments .filter ∧
    ("placed", Fragment.within ⟨.str "2024", .str "2025"⟩) ∈ grid.primary.plan.criteria.fragments .range ∧
    ⟨"placed", .descending⟩ ∈ grid.primary.plan.sortKeys ∧
    grid.primary.plan.criteria.query = [("title", "blue")] := by
  have ordered : Orders.mixed.isOrdered = true := by decide +kernel
  have seen : ((ofJson Orders.ledger .null Orders.mixed).toOption.map fun grid =>
      (grid.complaints, grid.primary.plan.criteria.query)) = some ([], [("title", "blue")]) := by
    decide +kernel
  obtain ⟨grid, hgrid, seen⟩ := Option.map_eq_some_iff.mp seen
  obtain ⟨quiet, query⟩ := Prod.mk.inj seen
  rw [Outcome.toOption_eq_some] at hgrid
  obtain ⟨definitions, sends, sent, keeps, sorts, -⟩ := entries_split ordered hgrid quiet
  have parameters {remote : RemoteGrid} (hremote : remote ∈ grid.remotes) :
      remote.definition.parameters = [("age", "years"), ("city", "town"), ("tier", "level")] := by
    have known : remote.definition ∈ Orders.ledger.remotes := definitions ▸ List.mem_map_of_mem hremote
    rw [List.mem_singleton.mp known]
  -- what the theorem gives for an entry whose column and fragment are known
  have sending {remote : RemoteGrid} (hremote : remote ∈ grid.remotes) (kind : Capability) (hkind : kind.isSent = true)
      (e : String × Json) (he : e ∈ Request.entriesOf Orders.mixed kind) (named : Clause.isNamed kind e.1 = true)
      {column : String} (hcolumn : Keyed.get? [("age", "years"), ("city", "town"), ("tier", "level")] e.1 = some column)
      {fragment : Fragment} (value : Fragment.ofValue? kind e.2 = some fragment) :
      remote.Sends kind column fragment.toJson := by
    obtain ⟨found, hfound, hsends⟩ := sends remote hremote kind hkind e he named column (parameters hremote ▸ hcolumn)
    obtain rfl := Option.some.inj (hfound.symm.trans value)
    exact hsends
  have keeping (kind : Capability) (hkind : kind ≠ .display) (e : String × Json)
      (he : e ∈ Request.entriesOf Orders.mixed kind) (named : Clause.isNamed kind e.1 = true)
      (kept : e.1 ∉ Orders.ledger.remoteFields) {field : Field} (known : Orders.ledger.fields.get? e.1 = some field)
      {fragment : Fragment} (value : Fragment.ofValue? kind e.2 = some fragment) :
      (field.column, fragment) ∈ grid.primary.plan.criteria.fragments kind := by
    obtain ⟨found, found', hfound, -, hfound', hmem⟩ := keeps kind hkind e he named kept
    obtain rfl := Option.some.inj (hfound.symm.trans known)
    obtain rfl := Option.some.inj (hfound'.symm.trans value)
    exact hmem
  refine ⟨grid, ordered, hgrid, quiet, ?_, fun remote hremote => ⟨?_, ?_, ?_, fun json sends => ?_⟩, ?_, ?_, ?_, ?_, query⟩
  · exact (List.length_map _).symm.trans (congrArg List.length definitions)
  · exact sending hremote .search rfl ("city", .str "Oslo") (by decide +kernel) (by decide +kernel) rfl
      (Fragment.ofValue?_search_of_not_blank (by decide +kernel))
  · exact sending hremote .filter rfl ("tier", .str "gold") (by decide +kernel) rfl rfl rfl
  · exact sending hremote .range rfl ("age", .obj [("max", .ofNat 65), ("min", .ofNat 18)]) (by decide +kernel) rfl rfl
      (Fragment.ofValue?_range_of_lt (by decide +kernel))
  · obtain ⟨-, e, -, -, parameter, -⟩ := sent remote hremote .search "title" json sends
    have names := Keyed.mem_of_get?_eq_some (parameters hremote ▸ parameter)
    simp at names
  · exact keeping .search (by decide) ("title", .str "alpha") (by decide +kernel) (by decide +kernel)
      (by decide +kernel) rfl (Fragment.ofValue?_search_of_not_blank (by decide +kernel))
  · exact keeping .filter (by decide) ("state", .arr [.str "open", .str "held"]) (by decide +kernel) rfl
      (by decide +kernel) rfl rfl
  · exact keeping .range (by decide) ("placed", .obj [("max", .str "2025"), ("min", .str "2024")]) (by decide +kernel) rfl
      (by decide +kernel) rfl (Fragment.ofValue?_range_of_lt (by decide +kernel))
  · obtain ⟨field, direction, known, value, hmem⟩ := sorts ("placed", .str "descending") (by decide +kernel)
    obtain rfl := Option.some.inj (known.symm.trans rfl)
    obtain rfl := Fragment.sorted.inj (Option.some.inj value)
    exact hmem

end CompositeGrid

end DataGrid
