-- SUMMARY: A grid whose remote is another grid of the same host selects a semi-join of their collections.
import DataGrid.Proofs.Partition
import DataGrid.Proofs.Path
import DataGrid.Proofs.Projection
import DataGrid.Proofs.RequestShape
import DataGrid.Service.Host

/-!
# Semi-joins

Let the single remote of a grid be another grid of the same host. Its exact body is read
back as it was sent, asks for the first page with the whole key budget, and brings in
the rows of that page under their public names. If the reply has room left, its keys
are therefore the values that all matching documents of the other grid hold at the
joined column, and the page of the asking grid counts a semi-join: the documents that
meet the local criteria and join one of these. Without matching documents there is no
output.
-/

namespace DataGrid

/-! ## Calls in process -/

namespace Host

variable {host : Host} {store : MemoryStore}

/-- The grid that answers a body in process. -/
def answering (other : GridDefinition) (exact : Request) : CollectionGrid :=
  .ofRequest other.collection other.fields exact

/-- A row of the answering grid as it is replied. -/
def replied (other : GridDefinition) (exact : Request) (row : Row) : Row :=
  (answering other exact).plan.projection.renameRow (some other.fields) row

/-- A body that is read back brings in the rows of the page that the hosted grid fetches for it. -/
theorem brings_iff (store : MemoryStore) {remote : RemoteGrid} {other : GridDefinition} {exact : Request}
    (service : remote.definition.address.role = host.service)
    (hosted : Keyed.get? host.grids remote.definition.address.cmd = some other)
    (readBack : Request.ofJson exact.toJson = .ok exact) (records : List Row) :
    remote.Brings (host.dispatch store.toStore) exact records ↔
      ∃ page, outcome ((answering other exact).fetch store.toStore) = .ok page ∧
        records = page.rows.map (replied other exact) := by
  have made : CollectionGrid.ofJson other.collection other.fields exact.toJson = .ok (answering other exact) := by
    rw [CollectionGrid.ofJson, readBack]
    rfl
  unfold RemoteGrid.Brings dispatch
  dsimp only
  rw [if_neg (by simp [service]), hosted]
  simp only [outcome_bind_eq_ok, outcome_adapt, Outcome.mapError_eq_ok, rows, outcome_mk, made, outcome_pure,
    Except.ok.injEq]
  constructor
  · rintro ⟨_, ⟨_, ⟨_, rfl, page, hpage, rfl⟩, rfl⟩, hrecords⟩
    rw [Reply.records_ofRows, Except.ok.injEq] at hrecords
    exact ⟨page, hpage, hrecords.symm⟩
  · rintro ⟨page, hpage, rfl⟩
    exact ⟨_, ⟨_, ⟨_, rfl, page, hpage, rfl⟩, rfl⟩, Reply.records_ofRows _⟩

/-- A grid and its single remote, which is another grid of the same host over the same documents: without joins, joined
at the column of a field that it shows, by texts on both sides. -/
structure Links (host : Host) (store : MemoryStore) (definition : GridDefinition) (remote : RemoteDefinition)
    (other : GridDefinition) (key : Field) : Prop where
  single : definition.remotes = [remote]
  service : remote.address.role = host.service
  hosted : Keyed.get? host.grids remote.address.cmd = some other
  plain : ∀ field ∈ other.fields.toList, field.join = none
  undotted : '.' ∉ remote.foreignKey.toList
  named : other.fields.get? remote.foreignKey = some key
  shown : key.shown = true
  ordered : ∀ doc ∈ store.rows other.collection, (Json.obj doc).isOrdered = true
  textsHere : ∀ doc ∈ store.rows definition.collection, ∀ value, doc.lookup remote.primaryKey = some value →
    ∃ s, value = .str s
  textsThere : ∀ doc ∈ store.rows other.collection, ∀ value, doc.lookup key.column = some value → ∃ s, value = .str s

section

variable {definition : GridDefinition} {remote : RemoteDefinition} {other : GridDefinition} {key : Field}
  {exact : Request} {page : Page}

@[simp] theorem table_answering : (answering other exact).plan.table = other.fields :=
  QueryPlan.table_ofRequest ..

theorem Links.plain_shown (links : host.Links store definition remote other key) :
    ∀ field ∈ (answering other exact).plan.table.shown, field.join = none := by
  intro field hfield
  rw [table_answering] at hfield
  exact links.plain field (FieldTable.mem_shown.mp hfield).1

/-- The rows of the answering grid are cut from its documents, and their records hold under the foreign key what the
documents hold at the column of the field. -/
theorem Links.lookup_replied (links : host.Links store definition remote other key) (read : other.fields.IsRead)
    {doc : Row} (hdoc : doc ∈ store.rows other.collection) :
    (replied other exact (doc.project (answering other exact).columns)).lookup remote.foreignKey =
      doc.lookup key.column := by
  obtain ⟨inside, named⟩ := read.get?_eq_some_iff.mp links.named
  have projected : (answering other exact).plan.projection.column? remote.foreignKey = some key.column := by
    rw [QueryPlan.projection, table_answering]
    exact read.column?_projection.mpr ⟨key, FieldTable.mem_shown.mpr ⟨inside, links.shown⟩, named, rfl⟩
  have keyed : (answering other exact).plan.projection.IsKeyed := FieldTable.isKeyed_projection
  have fetched : key.column ∈ (answering other exact).columns :=
    List.mem_append_left _ (keyed.mem_columns.mpr ⟨_, projected⟩)
  have plain := links.plain key inside
  have source : key.source = key.column := by
    rw [Field.source, plain]
    rfl
  rw [Row.lookup, Text.segments_of_undotted links.undotted]
  refine (Projection.get?_renameRow keyed ..).trans ?_
  rw [projected, Option.bind_some, Projection.value?, Option.bind_some, links.named]
  dsimp only
  rw [plain, source, Row.lookup_project (links.ordered doc hdoc) fetched]
  exact Option.map_id'

/-- Where the reply is not full, its keys are the values at the joined column of all documents that the answering grid
lets through. -/
theorem Links.mem_keys (links : host.Links store definition remote other key) (read : other.fields.IsRead)
    {limit : Nat} (hpage : (answering other exact).plan.pagination = .window limit 1)
    (fetched : outcome ((answering other exact).fetch store.toStore) = .ok page)
    (room : page.rows.length < limit) {value : Json} :
    value ∈ Join.keys (page.rows.map (replied other exact)) remote.foreignKey ↔
      ∃ doc ∈ store.rows other.collection, (answering other exact).plan.predicate.holds doc = true ∧
        doc.lookup key.column = some value := by
  have rows := CollectionGrid.rows_of_plain links.plain_shown fetched
  rw [rows, CollectionGrid.cut, List.length_map] at room
  have documents := CollectionGrid.mem_documents_of_lt hpage room
  rw [rows, CollectionGrid.cut, List.map_map]
  rw [Join.mem_keys_iff_of_texts]
  · simp only [List.mem_map, exists_exists_and_eq_and, Function.comp_apply]
    constructor
    · rintro ⟨doc, hdoc, held⟩
      obtain ⟨stored, holds⟩ := (documents _).mp hdoc
      rw [links.lookup_replied read stored] at held
      exact ⟨doc, stored, holds, held⟩
    · rintro ⟨doc, stored, holds, held⟩
      exact ⟨doc, (documents doc).mpr ⟨stored, holds⟩, by rw [links.lookup_replied read stored]; exact held⟩
  · intro record hrecord value held
    obtain ⟨doc, hdoc, rfl⟩ := List.mem_map.mp hrecord
    obtain ⟨stored, -⟩ := (documents _).mp hdoc
    rw [Function.comp_apply, links.lookup_replied read stored] at held
    exact links.textsThere doc stored value held

/-- A document joins, by a value that both sides hold, some document that the answering grid lets through for a body. -/
def SemiJoins (store : MemoryStore) (remote : RemoteDefinition) (other : GridDefinition) (key : Field) (exact : Request)
    (doc : Row) : Prop :=
  ∃ partner ∈ store.rows other.collection, (answering other exact).plan.predicate.holds partner = true ∧
    ∃ value, doc.lookup remote.primaryKey = some value ∧ partner.lookup key.column = some value

/-- The keys of a reply that is not full let through the documents that join one of the answering grid. -/
theorem Links.holds_oneOf (links : host.Links store definition remote other key) (read : other.fields.IsRead)
    {limit : Nat} (hpage : (answering other exact).plan.pagination = .window limit 1)
    (fetched : outcome ((answering other exact).fetch store.toStore) = .ok page)
    (room : page.rows.length < limit) {doc : Row} (hdoc : doc ∈ store.rows definition.collection) :
    (Predicate.oneOf remote.primaryKey (Join.keys (page.rows.map (replied other exact)) remote.foreignKey)).holds doc =
      true ↔ SemiJoins store remote other key exact doc := by
  cases held : doc.lookup remote.primaryKey with
  | none => simp [Predicate.holds, Predicate.someValue, SemiJoins, held]
  | some value =>
    obtain ⟨s, rfl⟩ := links.textsHere doc hdoc value held
    rw [Predicate.holds_oneOf_of_text held, links.mem_keys read hpage fetched room]
    refine exists_congr fun partner => and_congr_right fun _ => and_congr_right fun _ => ?_
    rw [held]
    simp

end

end Host


/-! ## Grids over grids -/

namespace CompositeGrid

variable {definition : GridDefinition} {header body : Json} {grid : CompositeGrid}

/-- A request has no free text: no entry of that name, or only a blank one or one that is no text. -/
def Textless (body : Json) : Prop :=
  Clause.freeTexts (Request.entriesOf body .search) = []

theorem phase_of_ofJson (h : ofJson definition header body = .ok grid) : grid.phase = .init := by
  simp only [ofJson, Outcome.bind_eq_ok, Outcome.pure_eq_ok] at h
  obtain ⟨_, -, _, -, rfl⟩ := h
  rfl

/-- A named entry for a remote makes it send an exact body. -/
theorem Made.exists_exact (made : Made definition header body grid) (hbody : body.isOrdered = true)
    (quiet : grid.complaints = []) {remote : RemoteGrid} (hremote : remote ∈ grid.remotes) {kind : Capability}
    (hkind : kind.isSent = true) {e : String × Json} (he : e ∈ Request.entriesOf body kind)
    (hnamed : Clause.isNamed kind e.1 = true) (own : e.1 ∈ Keyed.keys remote.definition.parameters) :
    ∃ exact, remote.rendered.exact = some exact := by
  obtain ⟨column, hcolumn⟩ := Keyed.mem_keys_iff.mp own
  obtain ⟨_, -, exact, hexact, -⟩ := made.sends hbody quiet hremote hkind he hnamed hcolumn
  exact ⟨exact, hexact⟩

theorem Made.freeTexts_eq_nil (made : Made definition header body grid) (hbody : body.isOrdered = true)
    (textless : Textless body) : Clause.freeTexts (grid.request.entries .search) = [] := by
  rw [Request.entries_of_ofJson hbody made.request_eq (by nofun)]
  exact textless

/-- Without a free text no remote is sent one. -/
theorem Made.freeText_eq_none (made : Made definition header body grid) (hbody : body.isOrdered = true)
    (quiet : grid.complaints = []) (textless : Textless body) {remote : RemoteGrid} (hremote : remote ∈ grid.remotes) :
    remote.rendered.freeText = none := by
  have owned : Rendering.ownedTexts remote.table (grid.request.entries .search) = [] :=
    Clause.freeTexts_eq_nil_of_subset (made.freeTexts_eq_nil hbody textless) fun _ he => (Rendering.mem_owned.mp he).1
  rw [(made.covers quiet hremote).freeText_eq, owned]
  rfl

/-- Without a free text the rows are those that meet the local criteria and join the keys of the exact calls. -/
theorem Ran.holds_predicate_of_textless {store : MemoryStore} {caller : Caller Id} {resolved : CompositeGrid}
    {found : Found} {envelope : Envelope} (ran : Ran definition store caller version grid resolved found envelope)
    (made : Made definition header body grid) (hbody : body.isOrdered = true) (textless : Textless body) (row : Row) :
    resolved.primary.plan.predicate.holds row = true ↔
      MeetsLocal definition grid.request row ∧ JoinsExact caller grid row := by
  have noTexts : localTexts definition grid.request = [] :=
    Clause.freeTexts_eq_nil_of_subset (made.freeTexts_eq_nil hbody textless) fun _ he => (mem_entries_without.mp he).1
  have noKeys : constraintsOf .freeText found = [] := by
    refine List.eq_nil_iff_forall_not_mem.mpr fun c hc => ?_
    obtain ⟨remote, hremote, text, hcall, -⟩ := ran.resolution.mem_constraintsOf.mp hc
    have asked := Rendered.mem_calls_freeText.mp hcall
    rw [made.freeText_eq_none hbody ran.quiet textless hremote] at asked
    cases asked
  rw [ran.holds_predicate, noTexts, noKeys]
  simp

variable {host : Host} {store : MemoryStore} {remote : RemoteDefinition} {other : GridDefinition} {key : Field}

/-- The exact body of a grid's single remote asks for the first page with the whole key budget, and is read back. -/
theorem Made.exact_paged (made : Made definition header body grid) (quiet : grid.complaints = [])
    (spec : definition.Checked) (other : GridDefinition) {asks : RemoteGrid} (hasks : asks ∈ grid.remotes)
    {exact : Request} (hexact : asks.rendered.exact = some exact) :
    Request.ofJson exact.toJson = .ok exact ∧
      (Host.answering other exact).plan.pagination = .window asks.definition.maxKeys 1 := by
  obtain ⟨-, hpage, hlimit⟩ := (made.covers quiet hasks).exact_eq exact hexact
  have known := (made.remote hasks).1
  obtain ⟨read, sound⟩ := spec.remotes _ known
  refine ⟨(Request.isReadable_of_numbers hpage hlimit).ofJson_toJson, QueryPlan.pagination_ofRequest ?_ ?_⟩
  · rw [hlimit]
    exact Pagination.positive?_ofNat (RemoteDefinition.spec_of_check sound).2.2.2 read.budget
  · rw [hpage]
    exact Pagination.positive?_ofNat Nat.one_pos (by decide)

/-- Without matching documents the reply has no keys, and the grid has no output. -/
theorem fetch_eq_noOutput (hgrid : ofJson definition header body = .ok grid) (quiet : grid.complaints = [])
    {caller : Caller Id} {version : String} {asks : RemoteGrid} (hremotes : grid.remotes = [asks]) {exact : Request}
    (hexact : asks.rendered.exact = some exact) (textless : asks.rendered.freeText = none)
    (brings : asks.Brings caller exact []) :
    outcome (grid.fetch store.toStore caller version) = .error .noOutput := by
  have calls : asks.rendered.calls = [(.exact, exact)] := by
    rw [Rendered.calls, hexact, textless]
    rfl
  have mem : asks ∈ grid.remotes := hremotes ▸ List.mem_singleton_self asks
  have replies : outcome (RemoteGrid.callAll caller asks [(.exact, exact)]) = .ok [(.exact, [])] :=
    RemoteGrid.callAll_eq_ok.mpr (.cons ⟨rfl, brings⟩ .nil)
  have asked : outcome (asks.fetch caller) = .ok ([(.exact, .empty)], asks.takeRecords [(.exact, [])]) := by
    unfold RemoteGrid.fetch
    rw [(complaints_eq_nil.mp quiet).2 asks mem, calls]
    exact outcome_bind_eq_ok.mpr ⟨_, replies, rfl⟩
  have resolved : outcome (grid.resolve caller) = .error .noOutput := by
    rw [outcome_resolve, hremotes, List.map_singleton, asked]
    rfl
  unfold fetch
  rw [phase_of_ofJson hgrid]
  dsimp only
  unfold run
  rw [quiet]
  exact outcome_bind_of_eq_error resolved

/-- With a single remote, a document joins the exact calls if it joins a key of the records that its call brings in. -/
theorem joinsExact_iff_of_single {caller : Caller Id} {asks : RemoteGrid} (hremotes : grid.remotes = [asks])
    {exact : Request} (hexact : asks.rendered.exact = some exact) {records : List Row}
    (brings : asks.Brings caller exact records) (row : Row) :
    JoinsExact caller grid row ↔
      (Predicate.oneOf asks.definition.primaryKey (asks.keysOf records)).holds row = true := by
  unfold JoinsExact
  rw [hremotes, List.forall_mem_singleton]
  constructor
  · intro joins
    obtain ⟨records', brings', holds⟩ := joins exact hexact
    obtain rfl := brings.unique brings'
    exact holds
  · intro holds exact' hexact'
    obtain rfl := Option.some.inj (hexact.symm.trans hexact')
    exact ⟨records, brings, holds⟩

open Classical in
/-- A grid over another grid of its host selects a semi-join. Let a request without complaints and without a free text
ask the remote by name. If the run succeeds and the reply has room left, the page counts the documents that meet the
local criteria and join a document that the other grid, asked with the exact body, lets through. If the other grid
accepts the body and lets no document through, the run has no output. -/
theorem fetch_semiJoins (version : String) {json json' : Json} {name : String}
    (decoded : GridDefinition.decode json = .ok definition) (checked : definition.check name = .ok ())
    (decoded' : GridDefinition.decode json' = .ok other)
    (links : host.Links store definition remote other key) (hbody : body.isOrdered = true)
    (hgrid : ofJson definition header body = .ok grid) (quiet : grid.complaints = []) (textless : Textless body)
    {kind : Capability} (hkind : kind.isSent = true) {e : String × Json} (he : e ∈ Request.entriesOf body kind)
    (hnamed : Clause.isNamed kind e.1 = true) (own : e.1 ∈ Keyed.keys remote.parameters) :
    ∃ asks exact, grid.remotes = [asks] ∧ asks.rendered.exact = some exact ∧
      CollectionGrid.ofJson other.collection other.fields exact.toJson = .ok (Host.answering other exact) ∧
      (∀ envelope, outcome (grid.fetch store.toStore (host.dispatch store.toStore) version) = .ok envelope →
        ∃ records, asks.Brings (host.dispatch store.toStore) exact records ∧
          (records.length < remote.maxKeys →
            envelope.pagination?.map (·.total) = some ((store.rows definition.collection).countP fun doc =>
              decide (MeetsLocal definition grid.request doc ∧ Host.SemiJoins store remote other key exact doc)))) ∧
      ((Host.answering other exact).complaints = [] →
        (∀ doc ∈ store.rows other.collection, (Host.answering other exact).plan.predicate.holds doc = false) →
        outcome (grid.fetch store.toStore (host.dispatch store.toStore) version) = .error .noOutput) := by
  have spec := GridDefinition.checked_of_decode decoded checked
  have read := (GridDefinition.isRead_of_decode decoded').1
  have made := made_of_ofJson hgrid
  obtain ⟨asks, hremotes, rfl⟩ := List.map_eq_singleton_iff.mp (made.definitions.trans links.single)
  have mem : asks ∈ grid.remotes := hremotes ▸ List.mem_singleton_self asks
  obtain ⟨exact, hexact⟩ := made.exists_exact hbody quiet mem hkind he hnamed own
  obtain ⟨readBack, window⟩ := made.exact_paged quiet spec other mem hexact
  have brings (records : List Row) :=
    Host.brings_iff store links.service links.hosted readBack records
  refine ⟨asks, exact, hremotes, hexact, by rw [CollectionGrid.ofJson, readBack]; rfl, fun envelope hfetch => ?_,
    fun accepted missed => ?_⟩
  · obtain ⟨-, resolved, page, hresolve, hpage, rfl⟩ := fetch_eq_ok hfetch
    obtain ⟨resolved', found, ran⟩ := ran_of_fetch hgrid hfetch
    -- The remotes are asked once: both readings of the run speak of the same resolved grid.
    obtain rfl := Except.ok.inj (hresolve.symm.trans ran.resolve_eq)
    obtain ⟨records, hbrings, -⟩ := ran.resolution.exact_keys mem hexact
    refine ⟨records, hbrings, fun room => ?_⟩
    obtain ⟨replied, hreplied, rfl⟩ := (brings records).mp hbrings
    rw [List.length_map] at room
    have total := CollectionGrid.total_of_fetch hpage
    rw [ran.collection_eq] at total
    refine congrArg some (total.trans (List.countP_congr fun doc hdoc => ?_))
    rw [ran.holds_predicate_of_textless made hbody textless, decide_eq_true_eq]
    refine and_congr_right fun _ => ?_
    rw [joinsExact_iff_of_single hremotes hexact hbrings]
    exact links.holds_oneOf read window hreplied room hdoc
  · obtain ⟨page, hpage⟩ := CollectionGrid.exists_page_of_plain store rfl accepted links.plain_shown
    -- The page exists but shows no document, so the call brings in no keys.
    have none : page.rows = [] := by
      rw [CollectionGrid.rows_of_plain links.plain_shown hpage, CollectionGrid.cut, List.map_eq_nil_iff]
      refine List.eq_nil_iff_forall_not_mem.mpr fun doc hdoc => ?_
      obtain ⟨stored, holds⟩ := CollectionGrid.mem_documents hdoc
      rw [missed doc stored] at holds
      cases holds
    exact fetch_eq_noOutput hgrid quiet hremotes hexact (made.freeText_eq_none hbody quiet textless mem)
      ((brings []).mpr ⟨page, hpage, by rw [none]; rfl⟩)

namespace Orders

/-- A description of the grid of customers, which shows their ids and can search their towns. -/
def customersDescription : Json :=
  .obj [
    ("collection", .str "customers"),
    ("fields", .obj [("id", .obj []), ("town", .obj [("search", .bool true)])])]

/-- Two orders of customers in two towns. -/
def shop : MemoryStore :=
  ⟨[("customers", [[("id", .str "c1"), ("town", .str "Oslo")], [("id", .str "c2"), ("town", .str "Bergen")]]),
    ("orders",
      [[("customer", .str "c1"), ("title", .str "alpha")], [("customer", .str "c2"), ("title", .str "beta")]])]⟩

/-- The host of the grid of customers. -/
def hostOf (customers : GridDefinition) : Host :=
  ⟨"crm", [("customers", customers)], "1"⟩

/-- The conditions on a grid of orders over a grid of customers, as far as they are computed. -/
def linked (orders customers : GridDefinition) (remote : RemoteDefinition) (key : Field) : Bool :=
  decide (orders.remotes = [remote]) && decide (remote.address = ⟨"crm", "customers"⟩) &&
    customers.fields.toList.all (fun field => field.join.isNone) && decide ('.' ∉ remote.foreignKey.toList) &&
    decide (customers.fields.get? remote.foreignKey = some key) && key.shown &&
    (shop.rows customers.collection).all (fun doc => (Json.obj doc).isOrdered) &&
    (shop.rows orders.collection).all (fun doc => (doc.lookup remote.primaryKey).all fun value => value.str?.isSome) &&
    (shop.rows customers.collection).all (fun doc => (doc.lookup key.column).all fun value => value.str?.isSome)

theorem links_of_linked {orders customers : GridDefinition} {remote : RemoteDefinition} {key : Field}
    (h : linked orders customers remote key = true) : (hostOf customers).Links shop orders remote customers key := by
  have texts {doc : Row} {column : String} (h : (doc.lookup column).all (fun value => value.str?.isSome) = true)
      (value : Json) (held : doc.lookup column = some value) : ∃ s, value = .str s := by
    rw [held] at h
    cases value with
    | str s => exact ⟨s, rfl⟩
    | _ => cases h
  simp only [linked, Bool.and_eq_true, decide_eq_true_eq, List.all_eq_true, Option.isNone_iff_eq_none] at h
  obtain ⟨⟨⟨⟨⟨⟨⟨⟨single, address⟩, plain⟩, undotted⟩, named⟩, shown⟩, ordered⟩, here⟩, there⟩ := h
  exact ⟨single, by rw [address]; rfl, by rw [address]; rfl, plain, undotted, named, shown, ordered,
    fun doc hdoc => texts (here doc hdoc), fun doc hdoc => texts (there doc hdoc)⟩

/-- A grid of orders over a grid of customers, made for a request. -/
structure Linked where
  definition : GridDefinition
  other : GridDefinition
  grid : CompositeGrid

/-- Ask for the orders of customers in a town. -/
def linkedTo (town : String) : Option Linked := do
  let definition ← (GridDefinition.decode (description "title" [("city", .str "town")])).toOption
  let other ← (GridDefinition.decode customersDescription).toOption
  let grid ← (ofJson definition .null (Orders.body [("city", .str town)])).toOption
  return ⟨definition, other, grid⟩

theorem linkedTo_eq_some {town : String} {run : Linked} :
    linkedTo town = some run ↔
      GridDefinition.decode (description "title" [("city", .str "town")]) = .ok run.definition ∧
        GridDefinition.decode customersDescription = .ok run.other ∧
        ofJson run.definition .null (Orders.body [("city", .str town)]) = .ok run.grid := by
  obtain ⟨definition, other, grid⟩ := run
  simp [linkedTo, Option.bind_eq_some_iff, Outcome.toOption_eq_some]

namespace Linked

/-- Who answers the calls of a grid of orders. -/
def caller (run : Linked) : Caller Id :=
  (hostOf run.other).dispatch shop.toStore

def fetch (run : Linked) : Result Envelope :=
  outcome (run.grid.fetch shop.toStore run.caller "1")

/-- The conditions on a request for the orders of customers in a town, with a remote that can be asked for towns. -/
structure Ready (run : Linked) (remote : RemoteDefinition) (key : Field) : Prop where
  checked : run.definition.check "orders" = .ok ()
  quiet : run.grid.complaints = []
  links : (hostOf run.other).Links shop run.definition remote run.other key
  own : "city" ∈ Keyed.keys remote.parameters
  budget : 1 < remote.maxKeys

end Linked

/-- The single customer in Oslo is found, and one order is counted. -/
theorem linkedTo_oslo : ∃ run remote key envelope, linkedTo "Oslo" = some run ∧ run.Ready remote key ∧
    run.fetch = .ok envelope ∧ envelope.pagination?.map (·.total) = some 1 ∧
    ∀ asks ∈ run.grid.remotes, ∀ exact, asks.rendered.exact = some exact →
      exact.search = some [("town", .str "Oslo")] ∧
        asks.Brings run.caller exact [[("id", .str "c1"), ("town", .str "Oslo")]] := by
  have found : ((linkedTo "Oslo").any fun run => (run.definition.check "orders").toOption.isSome &&
      run.grid.complaints.isEmpty &&
      run.fetch.toOption.any (fun envelope => decide (envelope.pagination?.map (·.total) = some 1)) &&
      run.definition.remotes.any (fun remote => (run.other.fields.get? "id").any fun key =>
        linked run.definition run.other remote key && decide ("city" ∈ Keyed.keys remote.parameters) &&
          decide (1 < remote.maxKeys)) &&
      run.grid.remotes.all fun asks => asks.rendered.exact.all fun exact =>
        decide (exact.search = some [("town", .str "Oslo")]) &&
          decide ((outcome (RemoteGrid.call run.caller asks exact)).toOption =
            some [[("id", .str "c1"), ("town", .str "Oslo")]])) = true := by
    decide +kernel
  obtain ⟨run, made, found⟩ := (Option.any_eq_true _ _).mp found
  simp only [Bool.and_eq_true, decide_eq_true_eq, List.any_eq_true, Option.any_eq_true, List.all_eq_true,
    Option.isSome_iff_exists, Outcome.toOption_eq_some, List.isEmpty_iff, Option.all_eq_true] at found
  obtain ⟨⟨⟨⟨⟨_, checked⟩, quiet⟩, envelope, fetched, one⟩, remote, -, key, -, ⟨linked, own⟩, budget⟩, sent⟩ := found
  refine ⟨run, remote, key, envelope, made, ⟨checked, quiet, links_of_linked linked, own, budget⟩, fetched, one, ?_⟩
  intro asks hasks exact hexact
  exact (sent asks hasks exact hexact).imp_right RemoteGrid.call_eq_ok.mp

/-- No customer is found in Rome. -/
theorem linkedTo_rome : ∃ run, linkedTo "Rome" = some run ∧ run.grid.complaints = [] ∧
    ∀ asks ∈ run.grid.remotes, ∀ exact, asks.rendered.exact = some exact →
      (Host.answering run.other exact).complaints = [] ∧
        ∀ doc ∈ shop.rows run.other.collection, (Host.answering run.other exact).plan.predicate.holds doc = false := by
  have missed : ((linkedTo "Rome").any fun run => run.grid.complaints.isEmpty &&
      run.grid.remotes.all fun asks => asks.rendered.exact.all fun exact =>
        (Host.answering run.other exact).complaints.isEmpty &&
          (shop.rows run.other.collection).all fun doc =>
            !(Host.answering run.other exact).plan.predicate.holds doc) = true := by
    decide +kernel
  obtain ⟨run, made, missed⟩ := (Option.any_eq_true _ _).mp missed
  simp only [Bool.and_eq_true, List.all_eq_true, Option.all_eq_true, List.isEmpty_iff, Bool.not_eq_true'] at missed
  exact ⟨run, made, missed⟩

end Orders

open Classical in
/-- Of two orders the one whose customer is found in Oslo is counted, and with no customer in Rome there is no output. -/
theorem fetch_semiJoins_orders : ∃ oslo rome remote key asks exact envelope,
    Orders.linkedTo "Oslo" = some oslo ∧ oslo.Ready remote key ∧ Textless (Orders.body [("city", .str "Oslo")]) ∧
    oslo.grid.remotes = [asks] ∧ asks.rendered.exact = some exact ∧ exact.search = some [("town", .str "Oslo")] ∧
    asks.Brings oslo.caller exact [[("id", .str "c1"), ("town", .str "Oslo")]] ∧
    oslo.fetch = .ok envelope ∧ envelope.pagination?.map (·.total) = some 1 ∧
    ((Orders.shop.rows oslo.definition.collection).countP fun doc => decide
      (MeetsLocal oslo.definition oslo.grid.request doc ∧
        Host.SemiJoins Orders.shop remote oslo.other key exact doc)) = 1 ∧
    Orders.linkedTo "Rome" = some rome ∧ rome.Ready remote key ∧ rome.fetch = .error .noOutput := by
  obtain ⟨oslo, remote, key, envelope, holds, ready, fetched, one, sent⟩ := Orders.linkedTo_oslo
  obtain ⟨⟨definition, other, rome⟩, holds', quiet, missed⟩ := Orders.linkedTo_rome
  obtain ⟨decoded, decoded', made⟩ := Orders.linkedTo_eq_some.mp holds
  obtain ⟨again, again', makes⟩ := Orders.linkedTo_eq_some.mp holds'
  -- both towns are asked for in the same grids
  obtain rfl : definition = oslo.definition := Except.ok.inj (again.symm.trans decoded)
  obtain rfl : other = oslo.other := Except.ok.inj (again'.symm.trans decoded')
  have searches : Capability.search.isSent = true := rfl
  have textless : Textless (Orders.body [("city", .str "Oslo")]) := by unfold Textless; decide +kernel
  obtain ⟨asks, exact, hremotes, hexact, -, counts, -⟩ := fetch_semiJoins "1" decoded ready.checked decoded' ready.links
    (by decide +kernel) made ready.quiet textless searches (e := ("city", .str "Oslo")) (by decide +kernel)
    (by decide +kernel) ready.own
  obtain ⟨asks', exact', hremotes', hexact', -, -, misses⟩ := fetch_semiJoins "1" decoded ready.checked decoded'
    ready.links (by decide +kernel) makes quiet (by unfold Textless; decide +kernel) searches (e := ("city", .str "Rome"))
    (by decide +kernel) (by decide +kernel) ready.own
  obtain ⟨named, brings⟩ := sent asks (hremotes ▸ List.mem_singleton_self asks) exact hexact
  obtain ⟨accepted, unmatched⟩ := missed asks' (hremotes' ▸ List.mem_singleton_self asks') exact' hexact'
  obtain ⟨records, brings', total⟩ := counts envelope fetched
  obtain rfl := brings.unique brings'
  have total := total ready.budget
  rw [one, Option.some.injEq] at total
  exact ⟨oslo, ⟨_, _, rome⟩, remote, key, asks, exact, envelope, holds, ready, textless, hremotes, hexact, named, brings,
    fetched, one, total.symm, holds', { ready with quiet := quiet }, misses accepted unmatched⟩

end CompositeGrid

end DataGrid
