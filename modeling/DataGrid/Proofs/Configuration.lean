-- SUMMARY: Which requests have no complaints, and what the told configuration says about it.
import DataGrid.Proofs.Gating
import DataGrid.Proofs.Partition
import DataGrid.Proofs.Startup

/-!
# Told capabilities

A request has no complaints where each of its entries stands up to the collection, or to
every remote that answers for it. Callers are told one capability per field and kind,
that of the first grid which knows the field. So a single entry is accepted where its
capability is told, provided that the other remotes which know the field grant it too.
Sorting is left to the collection, and free text is no field.
-/

namespace DataGrid

/-! ## Requests without complaints -/

namespace Rendering

namespace Draft

/-- A clause adds no complaint where the entries that the remote answers for are not to be sorted by and stand up to its
table. -/
theorem Takes.complaints_eq_nil_iff {draft next : Draft} {table : FieldTable} {text : Option Json} {kind : Capability}
    {entries : Row} (h : draft.Takes table text kind entries next) (hkind : kind ≠ .display) :
    next.complaints = [] ↔
      draft.complaints = [] ∧ ∀ e ∈ owned table kind entries, kind ≠ .sort ∧ Clause.Stands table kind e := by
  cases h with
  | unowned none => simp [none]
  | sorted sort =>
    rw [Complaints.foldl_eq_nil (fun _ => False) fun all b => by simp [Complaints.add_ne_nil]]
    simp [sort]
  | @checked clause unsorted ok =>
    have stand := (Clause.check_isOk_iff hkind).mp ⟨clause, ok⟩
    rw [complaints_absorb, and_iff_left fun e he => ⟨unsorted, stand e he⟩]
  | @refused complaints unsorted error =>
    have falls : ¬∀ e ∈ owned table kind entries, Clause.Stands table kind e := by
      rw [← Clause.check_isOk_iff hkind, error]
      simp
    rw [Complaints.merge_eq_nil]
    refine iff_of_false (fun quiet => Clause.complaints_ne_nil_of_check error quiet.2) fun stand => ?_
    exact falls fun e he => (stand.2 e he).2

theorem complaints_takeAll {draft : Draft} {table : FieldTable} {text : Option Json} {clauses : List (Capability × Row)}
    (kinds : ∀ c ∈ clauses, c.1 ≠ .display) :
    (draft.takeAll table text clauses).complaints = [] ↔
      draft.complaints = [] ∧ ∀ c ∈ clauses, ∀ e ∈ owned table c.1 c.2, c.1 ≠ .sort ∧ Clause.Stands table c.1 e := by
  induction clauses generalizing draft with
  | nil => simp [takeAll]
  | cons c rest ih =>
    obtain ⟨here, later⟩ := List.forall_mem_cons.mp kinds
    refine (ih later).trans ?_
    rw [(draft.takes_takeClause table text c.1 c.2).complaints_eq_nil_iff here, List.forall_mem_cons, and_assoc]

end Draft

/-- A remote has no complaints exactly when no entry that it answers for is to be sorted by, and each stands up to its
table. -/
theorem complaints_eq_nil_iff {table : FieldTable} {maxKeys : Nat} {request : Request} :
    (render table maxKeys request).complaints = [] ↔
      ∀ c ∈ request.clauses, ∀ e ∈ owned table c.1 c.2, c.1 ≠ .sort ∧ Clause.Stands table c.1 e :=
  (Draft.complaints_takeAll fun _ => Request.ne_display_of_mem_clauses).trans (and_iff_right rfl)

end Rendering

namespace CompositeGrid

variable {definition : GridDefinition} {header body : Json} {grid : CompositeGrid}

/-- A grid has no complaints exactly when every entry that is left to the collection stands up to its fields, and every
entry that a remote answers for stands up to the remote and is not to be sorted by. -/
theorem Made.complaints_eq_nil_iff (made : Made definition header body grid) :
    grid.complaints = [] ↔
      (∀ c ∈ (grid.request.without definition.remoteFields).clauses, ∀ e ∈ c.2,
        Clause.Stands definition.fields c.1 e) ∧
      ∀ remote ∈ grid.remotes, ∀ c ∈ grid.request.clauses, ∀ e ∈ Rendering.owned remote.table c.1 c.2,
        c.1 ≠ .sort ∧ Clause.Stands remote.table c.1 e := by
  rw [complaints_eq_nil, CollectionGrid.complaints, made.plan_eq, QueryPlan.complaints_eq_nil_iff]
  refine and_congr_right fun _ => forall₂_congr fun remote hremote => ?_
  rw [RemoteGrid.complaints, (made.remote hremote).2.2, Rendering.complaints_eq_nil_iff]


/-! ## Told capabilities -/

/-- What holds of the tables of all remotes holds of the tables of their definitions. -/
theorem Made.forall_tables (made : Made definition header body grid) {p : FieldTable → Prop} :
    (∀ remote ∈ grid.remotes, p remote.table) ↔
      ∀ remote ∈ definition.remotes, ∀ table, remote.table = .ok table → p table := by
  rw [← made.definitions, List.forall_mem_map]
  refine forall₂_congr fun remote hremote => ⟨fun h table htable => ?_, fun h => h _ (made.remote hremote).2.1⟩
  obtain rfl := Except.ok.inj (htable.symm.trans (made.remote hremote).2.1)
  exact h

/-- The told configuration has the field of the collection under a name, or else that of the first remote which has
one, whatever the request. -/
theorem Made.get?_configuration (made : Made definition header body grid) (name : String) :
    Keyed.get? grid.configuration name =
      ((definition.fields.get? name).or (definition.remotes.findSome? fun remote =>
        remote.table.toOption.bind (·.get? name))).map Field.toPublic := by
  have told (table : FieldTable) : Keyed.get? table.toPublic name = (table.get? name).map Field.toPublic :=
    Keyed.get?_mapValues Field.toPublic table.fields name
  have tables : ∀ remote ∈ grid.remotes, remote.definition.table = .ok remote.table :=
    fun remote hremote => (made.remote hremote).2.1
  unfold configuration
  rw [← made.definitions, made.plan_eq, QueryPlan.table_ofRequest, Option.map_or, ← told]
  generalize grid.remotes = remotes at tables
  generalize definition.fields.toPublic = start
  induction remotes generalizing start with
  | nil => simp
  | cons remote rest ih =>
    obtain ⟨here, later⟩ := List.forall_mem_cons.mp tables
    rw [List.foldl_cons, ih later, Keyed.get?_foldl_insertNew, told, List.map_cons, List.findSome?_cons, here]
    cases hfield : remote.table.get? name <;> simp [Except.toOption, hfield]

end CompositeGrid

/-- Whether callers are told that a field may be used for something. -/
def PublicField.tells (field : PublicField) : Capability → Bool
  | .search => field.searchable
  | .filter => field.filterable
  | .range => field.rangeable
  | .sort => field.sortable
  | .display => field.shown

/-- Callers are told what a field grants. -/
theorem Field.tells_toPublic (field : Field) (kind : Capability) : field.toPublic.tells kind = field.grants kind := by
  cases kind <;> rfl


/-! ## Single entries -/

/-- A value of the form that the clauses of a kind have: a text that is not blank, a scalar, two numbers of which the
least is below the greatest, or a direction. -/
def Capability.Suits : Capability → Json → Prop
  | .search, value => ∃ s, value = .str s ∧ Text.isBlank s = false
  | .filter, value => value.isScalar = true
  | .range, value => ∃ least greatest : Number, value.member? "min" = some (.num least) ∧
      value.member? "max" = some (.num greatest) ∧ least.order greatest = .lt
  | .sort, value => ∃ direction : Direction, value = .str direction.text
  | .display, _ => False

theorem Capability.Suits.ne_display {kind : Capability} {value : Json} (suits : kind.Suits value) : kind ≠ .display := by
  rintro rfl
  exact suits

theorem Fragment.isSome_ofValue? {kind : Capability} {value : Json} (suits : kind.Suits value) :
    (ofValue? kind value).isSome = true := by
  cases kind with
  | search =>
    obtain ⟨s, rfl, some⟩ := suits
    simp [ofValue?, some]
  | filter =>
    have scalar : value.isScalar = true := suits
    cases value <;> simp_all [ofValue?, Json.isScalar]
  | range =>
    obtain ⟨least, greatest, hleast, hgreatest, below⟩ := suits
    simp [ofValue?, hleast, hgreatest, Json.order?, below]
  | sort =>
    obtain ⟨direction, rfl⟩ := suits
    simp [ofValue?_sort, Json.str?]
  | display => exact suits.elim

namespace Request

/-- The body of a request with one entry in one clause. -/
def asking (kind : Capability) (name : String) (value : Json) : Json :=
  .obj [(kind.key, .obj [(name, value)])]

theorem ofJson_asking {kind : Capability} (hkind : kind ≠ .display) (name : String) (value : Json) :
    ∃ request, ofJson (asking kind name value) = .ok request ∧ request.clauses = [(kind, [(name, value)])] ∧
      ∀ names, (request.without names).clauses = [(kind, strip names [(name, value)])] := by
  cases kind with
  | display => exact absurd rfl hkind
  | _ => exact ⟨_, rfl, rfl, fun _ => rfl⟩

end Request

namespace CompositeGrid

variable {definition : GridDefinition} {header : Json} {grid : CompositeGrid} {kind : Capability} {name : String}
  {value : Json}

/-- A single entry is accepted exactly when the side that it is left to accepts it. -/
theorem Made.single_accepted_iff (made : Made definition header (Request.asking kind name value) grid)
    (hkind : kind ≠ .display) :
    grid.complaints = [] ↔
      (name ∉ definition.remoteFields → Clause.Stands definition.fields kind (name, value)) ∧
      ∀ remote ∈ grid.remotes, Rendering.owns remote.table kind name = true →
        kind ≠ .sort ∧ Clause.Stands remote.table kind (name, value) := by
  obtain ⟨request, hrequest, clauses, local_⟩ := Request.ofJson_asking hkind name value
  obtain rfl := Except.ok.inj (made.request_eq.symm.trans hrequest)
  rw [made.complaints_eq_nil_iff, clauses, local_]
  simp [Request.strip, Rendering.owned, List.mem_filter]

/-- A free text is accepted, whatever the fields. -/
theorem stands_of_unnamed {table : FieldTable} (unnamed : Clause.isNamed kind name = false) (suits : kind.Suits value) :
    kind ≠ .sort ∧ Clause.Stands table kind (name, value) := by
  obtain ⟨rfl, rfl⟩ : kind = .search ∧ name = Request.freeTextKey := by simpa [Clause.isNamed] using unnamed
  exact ⟨by decide, Clause.stands_freeText_iff.mpr suits⟩

/-- A remote that knows a field under a name has a parameter of this name. -/
theorem mem_remoteFields_of_get? {remote : RemoteDefinition} (hremote : remote ∈ definition.remotes) {table : FieldTable}
    (htable : remote.table = .ok table) {field : Field} (hfield : table.get? name = some field) :
    name ∈ definition.remoteFields :=
  mem_remoteFields.mpr ⟨_, hremote,
    (RemoteDefinition.contains_table htable).mp (Option.isSome_iff_exists.mpr ⟨field, hfield⟩)⟩

/-- A named entry is accepted exactly when the collection grants its kind, or every remote that knows its field and it is
not to be sorted by. -/
theorem Made.named_accepted_iff (made : Made definition header (Request.asking kind name value) grid)
    (named : Clause.isNamed kind name = true) (suits : kind.Suits value) :
    grid.complaints = [] ↔
      (name ∉ definition.remoteFields → ∃ field, definition.fields.get? name = some field ∧ field.grants kind = true) ∧
      ∀ remote ∈ definition.remotes, ∀ table, remote.table = .ok table → ∀ field, table.get? name = some field →
        kind ≠ .sort ∧ field.grants kind = true := by
  have usable := Fragment.isSome_ofValue? suits
  rw [← made.forall_tables (p := fun table => ∀ field, table.get? name = some field → kind ≠ .sort ∧ field.grants kind)]
  simp only [made.single_accepted_iff suits.ne_display, Clause.stands_named named, usable, and_true,
    Rendering.owns_named named]
  refine and_congr_right fun _ => forall₂_congr fun remote _ => ?_
  rw [FieldTable.contains, Keyed.contains, ← FieldTable.get?, Option.isSome_iff_exists]
  constructor
  · intro h field hfield
    obtain ⟨unsorted, found, hfound, grants⟩ := h ⟨field, hfield⟩
    obtain rfl := Option.some.inj (hfield.symm.trans hfound)
    exact ⟨unsorted, grants⟩
  · rintro h ⟨field, hfield⟩
    obtain ⟨unsorted, grants⟩ := h field hfield
    exact ⟨unsorted, field, hfield, grants⟩

/-- A name that is told stands for a field of the collection, which no remote knows, or for fields of remotes, of which
the first is told. -/
theorem Made.told_cases {body : Json} (made : Made definition header body grid) (checked : definition.Checked)
    {told : PublicField} (htold : Keyed.get? grid.configuration name = some told) :
    ∃ field, told = field.toPublic ∧
      (definition.fields.get? name = some field ∧ name ∉ definition.remoteFields ∨
        definition.fields.get? name = none ∧ ∃ remote ∈ definition.remotes, ∃ table, remote.table = .ok table ∧
          table.get? name = some field) := by
  rw [made.get?_configuration] at htold
  obtain ⟨field, hfield, rfl⟩ := Option.map_eq_some_iff.mp htold
  refine ⟨field, rfl, ?_⟩
  rcases Option.or_eq_some_iff.mp hfield with own | ⟨foreign, first⟩
  · refine .inl ⟨own, fun claimed => ?_⟩
    have absent := checked.disjoint name claimed
    rw [FieldTable.contains, Keyed.contains, ← FieldTable.get?, own] at absent
    cases absent
  · obtain ⟨remote, hremote, known⟩ := List.exists_of_findSome?_eq_some first
    obtain ⟨table, htable, known⟩ := Option.bind_eq_some_iff.mp known
    exact .inr ⟨foreign, remote, hremote, table, Outcome.toOption_eq_some.mp htable, known⟩

/-- Where a checked definition tells a configuration, every request with a single entry that suits its kind can be made.
It has no complaints exactly if the entry is a free text, or the configuration tells the kind for its field, every remote
that knows the field grants it, and the field belongs to the collection where it is to be sorted by. -/
theorem single_accepted_iff_told {json body : Json} {description : String}
    (decoded : GridDefinition.decode json = .ok definition) (checked : definition.check description = .ok ())
    (hgrid : ofJson definition header body = .ok grid) {told : PublicField}
    (htold : Keyed.get? grid.configuration name = some told) (suits : kind.Suits value) (header' : Json) :
    ∃ asked, ofJson definition header' (Request.asking kind name value) = .ok asked ∧
      (asked.complaints = [] ↔ Clause.isNamed kind name = false ∨
        told.tells kind = true ∧ (kind = .sort → definition.fields.contains name = true) ∧
          ∀ remote ∈ definition.remotes, ∀ table, remote.table = .ok table → ∀ field, table.get? name = some field →
            field.grants kind = true) := by
  have made := made_of_ofJson hgrid
  obtain ⟨request, hrequest, -⟩ := Request.ofJson_asking suits.ne_display name value
  have tables : definition.HasTables := by
    intro remote hremote
    obtain ⟨_, -, hmade⟩ := Outcome.exists_right_of_mem made.remotes hremote
    obtain ⟨rfl, htable, -⟩ := RemoteGrid.spec_of_ofRequest hmade
    exact ⟨_, htable⟩
  obtain ⟨asked, hasked⟩ := exists_ofJson_eq_ok tables header' hrequest
  refine ⟨asked, hasked, ?_⟩
  replace hasked := made_of_ofJson hasked
  cases named : Clause.isNamed kind name with
  | false =>
    refine iff_of_true ((hasked.single_accepted_iff suits.ne_display).mpr ⟨fun _ => ?_, fun _ _ _ => ?_⟩) (.inl rfl)
    · exact (stands_of_unnamed named suits).2
    · exact stands_of_unnamed named suits
  | true =>
    rw [or_iff_right (by simp), hasked.named_accepted_iff named suits]
    obtain ⟨field, rfl, ⟨own, unclaimed⟩ | ⟨foreign, first, hfirst, table, htable, known⟩⟩ :=
      made.told_cases (GridDefinition.checked_of_decode decoded checked) htold
    · have unknown {remote : RemoteDefinition} (hremote : remote ∈ definition.remotes) {table : FieldTable}
          (htable : remote.table = .ok table) {other : Field} : table.get? name ≠ some other :=
        fun h => unclaimed (mem_remoteFields_of_get? hremote htable h)
      rw [Field.tells_toPublic, FieldTable.contains, Keyed.contains, ← FieldTable.get?, own]
      constructor
      · rintro ⟨accepted, -⟩
        obtain ⟨_, ⟨⟩, grants⟩ := accepted unclaimed
        exact ⟨grants, fun _ => rfl, fun remote hremote table htable other h => absurd h (unknown hremote htable)⟩
      · rintro ⟨grants, -, -⟩
        exact ⟨fun _ => ⟨field, rfl, grants⟩,
          fun remote hremote table htable other h => absurd h (unknown hremote htable)⟩
    · have claimed := mem_remoteFields_of_get? hfirst htable known
      rw [Field.tells_toPublic, FieldTable.contains, Keyed.contains, ← FieldTable.get?, foreign]
      constructor
      · rintro ⟨-, accepted⟩
        obtain ⟨unsorted, grants⟩ := accepted first hfirst table htable field known
        refine ⟨grants, fun sort => absurd sort unsorted, fun remote hremote table htable other h => ?_⟩
        exact (accepted remote hremote table htable other h).2
      · rintro ⟨-, unsorted, grants⟩
        refine ⟨fun unclaimed => absurd claimed unclaimed, fun remote hremote table htable other h => ⟨fun sort => ?_, ?_⟩⟩
        · exact absurd (unsorted sort) Bool.false_ne_true
        · exact grants remote hremote table htable other h


/-! ## Orders and their customers -/

namespace Orders

/-- A description of orders with a field called `query`, whose customers two remotes know. The first lets their city be
sorted by, and only the second has no filter for their zip. -/
def offered : Json :=
  .obj [
    ("apis", .arr [
      .obj [
        ("apiCall", .obj [("cmd", .str "customers"), ("role", .str "crm")]),
        ("fields", .obj [("city", .obj [("sort", .bool true)])]),
        ("foreignKey", .str "id"),
        ("inputParameters", .obj [("city", .str "town"), ("zip", .str "zip")]),
        ("primaryKey", .str "customer")],
      .obj [
        ("apiCall", .obj [("cmd", .str "places"), ("role", .str "crm")]),
        ("fields", .obj [("zip", .obj [("search", .bool true)])]),
        ("foreignKey", .str "id"),
        ("inputParameters", .obj [("zip", .str "zip")]),
        ("primaryKey", .str "customer")]]),
    ("collection", .str "orders"),
    ("fields", .obj [("query", .obj [("databaseName", .str "title")])])]

/-- Whether a kind is told for a field, and whether its single entry has no complaints. -/
def offers (definition : GridDefinition) (kind : Capability) (name : String) (value : Json) : Option (Bool × Bool) := do
  let grid ← (ofJson definition .null (.obj [])).toOption
  let told ← Keyed.get? grid.configuration name
  let asked ← (ofJson definition .null (Request.asking kind name value)).toOption
  return (told.tells kind, asked.complaints.isEmpty)

theorem offers_eq_some {definition : GridDefinition} {kind : Capability} {name : String} {value : Json}
    {tells accepted : Bool} :
    offers definition kind name value = some (tells, accepted) ↔ ∃ grid told asked,
      ofJson definition .null (.obj []) = .ok grid ∧ Keyed.get? grid.configuration name = some told ∧
        ofJson definition .null (Request.asking kind name value) = .ok asked ∧
        told.tells kind = tells ∧ asked.complaints.isEmpty = accepted := by
  simp [offers, Option.bind_eq_some_iff, Outcome.toOption_eq_some]

end Orders

/-- The zip may be searched, as told and as both remotes grant. -/
theorem single_accepted_iff_told_orders : ∃ definition grid told asked,
    GridDefinition.decode Orders.offered = .ok definition ∧ definition.check "orders" = .ok () ∧
    ofJson definition .null (.obj []) = .ok grid ∧ Keyed.get? grid.configuration "zip" = some told ∧
    told.tells .search = true ∧ Capability.search.Suits (.str "0150") ∧
    ofJson definition .null (Request.asking .search "zip" (.str "0150")) = .ok asked ∧ asked.complaints = [] := by
  have offers : ((GridDefinition.decode Orders.offered).toOption.any fun definition =>
      (definition.check "orders").toOption.isSome &&
        (decide (Orders.offers definition .search "zip" (.str "0150") = some (true, true)) &&
          definition.remotes.all fun remote => remote.table.toOption.all fun table =>
            (table.get? "zip").all fun field => field.grants .search)) = true := by decide +kernel
  obtain ⟨definition, decoded, offers⟩ := (Option.any_eq_true _ _).mp offers
  rw [Bool.and_eq_true, Bool.and_eq_true, decide_eq_true_eq] at offers
  obtain ⟨checked, offers, grants⟩ := offers
  obtain ⟨grid, told, -, hgrid, htold, -, tells, -⟩ := Orders.offers_eq_some.mp offers
  obtain ⟨_, checked⟩ := Option.isSome_iff_exists.mp checked
  have decoded := Outcome.toOption_eq_some.mp decoded
  have checked := Outcome.toOption_eq_some.mp checked
  have suits : Capability.search.Suits (.str "0150") := ⟨_, rfl, by decide +kernel⟩
  obtain ⟨asked, hasked, accepted⟩ := single_accepted_iff_told decoded checked hgrid htold suits .null
  refine ⟨definition, grid, told, asked, decoded, checked, hgrid, htold, tells, suits, hasked,
    accepted.mpr (.inr ⟨tells, nofun, fun remote hremote table htable field hfield => ?_⟩)⟩
  have granted := List.all_eq_true.mp grants remote hremote
  rwa [Outcome.toOption_eq_some.mpr htable, Option.all_some, hfield, Option.all_some] at granted

/-- The told configuration can differ from what is accepted: the city is told to be sorted by, which no remote can, the zip
to have a filter, which the second remote has not, and `query` not to be searched, although a free text is. -/
theorem told_apart_from_accepted : ∃ definition grid,
    GridDefinition.decode Orders.offered = .ok definition ∧ definition.check "orders" = .ok () ∧
    ofJson definition .null (.obj []) = .ok grid ∧
    (∃ told asked, Keyed.get? grid.configuration "city" = some told ∧ told.tells .sort = true ∧
      Capability.sort.Suits (.str "ascending") ∧
      ofJson definition .null (Request.asking .sort "city" (.str "ascending")) = .ok asked ∧ asked.complaints ≠ []) ∧
    (∃ told asked, Keyed.get? grid.configuration "zip" = some told ∧ told.tells .filter = true ∧
      Capability.filter.Suits (.str "0150") ∧
      ofJson definition .null (Request.asking .filter "zip" (.str "0150")) = .ok asked ∧ asked.complaints ≠ []) ∧
    ∃ told asked, Keyed.get? grid.configuration "query" = some told ∧ told.tells .search = false ∧
      Capability.search.Suits (.str "alpha") ∧
      ofJson definition .null (Request.asking .search "query" (.str "alpha")) = .ok asked ∧ asked.complaints = [] := by
  have offers : ((GridDefinition.decode Orders.offered).toOption.any fun definition =>
      (definition.check "orders").toOption.isSome &&
        decide (Orders.offers definition .sort "city" (.str "ascending") = some (true, false) ∧
          Orders.offers definition .filter "zip" (.str "0150") = some (true, false) ∧
          Orders.offers definition .search "query" (.str "alpha") = some (false, true))) = true := by decide +kernel
  obtain ⟨definition, decoded, offers⟩ := (Option.any_eq_true _ _).mp offers
  rw [Bool.and_eq_true, decide_eq_true_eq] at offers
  obtain ⟨checked, sorts, filters, searches⟩ := offers
  obtain ⟨_, checked⟩ := Option.isSome_iff_exists.mp checked
  obtain ⟨grid, city, sorting, hgrid, hcity, hsorting, sorts, refused⟩ := Orders.offers_eq_some.mp sorts
  obtain ⟨_, zip, filtering, same, hzip, hfiltering, filters, dropped⟩ := Orders.offers_eq_some.mp filters
  obtain rfl := Except.ok.inj (hgrid.symm.trans same)
  obtain ⟨_, query, searching, same, hquery, hsearching, searches, accepted⟩ := Orders.offers_eq_some.mp searches
  obtain rfl := Except.ok.inj (hgrid.symm.trans same)
  exact ⟨definition, grid, Outcome.toOption_eq_some.mp decoded, Outcome.toOption_eq_some.mp checked, hgrid,
    ⟨city, sorting, hcity, sorts, ⟨.ascending, rfl⟩, hsorting, List.isEmpty_eq_false_iff.mp refused⟩,
    ⟨zip, filtering, hzip, filters, rfl, hfiltering, List.isEmpty_eq_false_iff.mp dropped⟩,
    query, searching, hquery, searches, ⟨_, rfl, by decide +kernel⟩, hsearching, List.isEmpty_iff.mp accepted⟩

end CompositeGrid

end DataGrid
