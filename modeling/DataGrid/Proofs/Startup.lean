-- SUMMARY: Which checked definitions can be served: those whose remotes' parameters make tables.
import DataGrid.Proofs.Always
import DataGrid.Proofs.CompositeRun
import DataGrid.Proofs.GridDefinition
import DataGrid.Service.Host
import DataGrid.Store.Sql.Documents

/-!
# Serving checked definitions

Definitions are checked once, before requests are answered. The check looks at the
names of parameters only to keep them apart from fields; a grid that is made for a
request needs more, namely a field table of the parameters of each remote. Where
these make tables no answer blames the definition. Where they do not, every answer does.
-/

namespace DataGrid

namespace RemoteDefinition

/-- The parameters of a remote make a table: no name is blank, each name of the remote is a column path, and no two
parameters have one. -/
structure MakesTable (remote : RemoteDefinition) : Prop where
  named : ∀ p ∈ remote.parameters, Text.isBlank p.1 = false
  paths : ∀ p ∈ remote.parameters, Text.isColumnPath p.2 = true
  distinct : (Keyed.values remote.parameters).Nodup

/-- A description without faults has parameters. -/
theorem parameters_ne_nil {remote : RemoteDefinition} (checked : remote.check = .ok ()) : remote.parameters ≠ [] := by
  intro none
  simp only [check, none, List.isEmpty_nil, if_true] at checked
  split at checked
  · cases checked
  split at checked <;> cases checked

/-- A remote without faults has a table exactly if its parameters make one. -/
theorem table_isOk_iff {remote : RemoteDefinition} (checked : remote.check = .ok ()) :
    (∃ table, remote.table = .ok table) ↔ remote.MakesTable := by
  constructor
  · rintro ⟨table, htable⟩
    simp only [RemoteDefinition.table, Outcome.bind_eq_ok, FieldTable.ofDescriptors_eq_ok, List.forall_mem_map,
      List.map_map] at htable
    obtain ⟨-, -, -, sound, distinct, -⟩ := htable
    exact ⟨fun p hp => (sound p hp).named, fun p hp => (sound p hp).column, distinct⟩
  · rintro ⟨named, paths, distinct⟩
    refine ⟨⟨_⟩, Outcome.bind_eq_ok.mpr ⟨(), checked, FieldTable.ofDescriptors_eq_ok.mpr ⟨?_, ?_, ?_, rfl⟩⟩⟩
    · exact fun none => parameters_ne_nil checked (List.map_eq_nil_iff.mp none)
    · refine List.forall_mem_map.mpr fun p hp => ⟨named p hp, paths p hp, ?_⟩
      rintro join ⟨⟩
    · rw [List.map_map]
      exact distinct

end RemoteDefinition


/-! ## Making grids -/

theorem RemoteGrid.ofRequest_eq_error {definition : RemoteDefinition} {header : Json} {request : Request}
    {e : GridError} :
    ofRequest definition header request = .error e ↔ ∃ fault, definition.table = .error fault ∧ e = .config fault := by
  unfold ofRequest
  cases definition.table <;> simp [eq_comm]

namespace GridDefinition

/-- Every remote of a grid has parameters that make a table. -/
def MakesTables (definition : GridDefinition) : Prop :=
  ∀ remote ∈ definition.remotes, remote.MakesTable

/-- Every remote of a grid has a table. -/
def HasTables (definition : GridDefinition) : Prop :=
  ∀ remote ∈ definition.remotes, ∃ table, remote.table = .ok table

theorem makesTables_iff {definition : GridDefinition} {name : String} (checked : definition.check name = .ok ()) :
    definition.MakesTables ↔ definition.HasTables :=
  forall₂_congr fun remote hremote => (RemoteDefinition.table_isOk_iff (spec_of_check checked remote hremote).1).symm

end GridDefinition

namespace CompositeGrid

/-- A request out of shape is refused before the description is looked at. -/
theorem ofJson_of_request_eq_error {definition : GridDefinition} {header body : Json} {fault : InputFault}
    (h : Request.ofJson body = .error fault) : ofJson definition header body = .error (.input fault) := by
  simp only [ofJson, h]
  rfl

/-- A request in shape makes a grid if every remote has a table; otherwise the fault of a remote is told. -/
theorem ofJson_of_request_eq_ok (definition : GridDefinition) (header : Json) {body : Json} {request : Request}
    (h : Request.ofJson body = .ok request) :
    (definition.HasTables ∧ ∃ grid, ofJson definition header body = .ok grid) ∨
      (¬definition.HasTables ∧ ∃ fault, ofJson definition header body = .error (.config fault)) := by
  cases hremotes : definition.remotes.mapM fun remote => RemoteGrid.ofRequest remote header request with
  | ok remotes =>
    refine .inl ⟨fun remote hremote => ?_, ?_⟩
    · obtain ⟨grid, -, hgrid⟩ := Outcome.exists_right_of_mem (Outcome.mapM_eq_ok.mp hremotes) hremote
      obtain ⟨rfl, htable, -⟩ := RemoteGrid.spec_of_ofRequest hgrid
      exact ⟨_, htable⟩
    · unfold ofJson
      exact ⟨_, Outcome.bind_eq_ok.mpr ⟨request, by rw [h]; rfl, Outcome.bind_eq_ok.mpr ⟨remotes, hremotes, rfl⟩⟩⟩
  | error e =>
    obtain ⟨remote, hremote, hfail⟩ := Outcome.exists_of_mapM_eq_error hremotes
    obtain ⟨fault, hfault, rfl⟩ := RemoteGrid.ofRequest_eq_error.mp hfail
    refine .inr ⟨fun tables => ?_, fault, ?_⟩
    · obtain ⟨table, htable⟩ := tables remote hremote
      rw [hfault] at htable
      cases htable
    · unfold ofJson
      exact Outcome.bind_eq_error.mpr (.inr ⟨request, by rw [h]; rfl, Outcome.bind_eq_error.mpr (.inl hremotes)⟩)

theorem exists_ofJson_eq_ok {definition : GridDefinition} (tables : definition.HasTables) (header : Json) {body : Json}
    {request : Request} (h : Request.ofJson body = .ok request) : ∃ grid, ofJson definition header body = .ok grid := by
  rcases ofJson_of_request_eq_ok definition header h with ⟨-, made⟩ | ⟨missing, -⟩
  · exact made
  · exact absurd tables missing

theorem exists_ofJson_eq_error {definition : GridDefinition} (missing : ¬definition.HasTables) (header : Json)
    {body : Json} {request : Request} (h : Request.ofJson body = .ok request) :
    ∃ fault, ofJson definition header body = .error (.config fault) := by
  rcases ofJson_of_request_eq_ok definition header h with ⟨tables, -⟩ | ⟨-, failed⟩
  · exact absurd tables missing
  · exact failed

/-- Where every remote has a table, no request fails for the description, in shape or not. -/
theorem ofJson_ne_config {definition : GridDefinition} (tables : definition.HasTables) (header body : Json)
    (fault : ConfigFault) : ofJson definition header body ≠ .error (.config fault) := by
  intro failed
  cases hrequest : Request.ofJson body with
  | error cause =>
    rw [ofJson_of_request_eq_error hrequest] at failed
    cases failed
  | ok request =>
    obtain ⟨grid, hgrid⟩ := exists_ofJson_eq_ok tables header hrequest
    rw [hgrid] at failed
    cases failed

end CompositeGrid


/-! ## Runs -/

/-- The kind of an error is told by its identifier. -/
theorem GridError.config_of_id_eq {e : GridError} (fault : ConfigFault) (h : e.id = (GridError.config fault).id) :
    ∃ cause, e = .config cause := by
  cases e with
  | config cause => exact ⟨cause, rfl⟩
  | _ => simp [GridError.id] at h

section

variable {m : Type → Type} [Monad m]

/-- A store that never answers with a fault of a description. -/
structure Store.IsConfigFree (store : Store m) : Prop where
  count : ∀ collection predicate, ConfigFree (store.count collection predicate)
  find : ∀ collection selection, ConfigFree (store.find collection selection)

variable [LawfulMonad m]

theorem MemoryStore.isConfigFree (store : MemoryStore) : (store.toStore : Store m).IsConfigFree :=
  ⟨fun _ _ => .pure trivial, fun _ _ => .pure trivial⟩

theorem SqlStore.isConfigFree [MonadStateOf SqlStore m] : (SqlStore.carried : Store m).IsConfigFree := by
  have send {α : Type} (statement : Except StoreFault Sql.Statement) (answer : SqlStore → Except StoreFault α) :
      ConfigFree (SqlStore.send statement answer : ExceptT GridError m α) := by
    refine (Always.trivial _).bind fun store _ => (Always.trivial _).bind fun _ _ => Always.pure ?_
    cases answer store <;> simp [Except.mapError, IsFair]
  exact ⟨fun _ _ => send .., fun _ _ => send ..⟩

theorem Join.configFree_expandAll {store : Store m} (quiet : store.IsConfigFree) (fields : List Field) (rows : List Row) :
    ConfigFree (Join.expandAll store fields rows) := by
  induction fields generalizing rows with
  | nil => exact .pure trivial
  | cons field rest ih =>
    unfold expandAll
    split
    · refine .bind (p := fun _ => True) ?_ fun rows _ => ih rows
      unfold expand
      split
      · exact .pure trivial
      · exact .bind (quiet.find _ _) fun records _ => .pure trivial
    · exact ih rows

theorem CollectionGrid.configFree_fetch {store : Store m} (quiet : store.IsConfigFree) (grid : CollectionGrid) :
    ConfigFree (grid.fetch store) := by
  unfold fetch
  split
  · exact .throw nofun
  split
  · next rejected =>
    unfold QueryPlan.rejection? at rejected
    split at rejected
    · cases rejected
    · obtain rfl := Option.some.inj rejected
      exact .throw nofun
  · exact .bind (quiet.count _ _) fun _ _ => .bind (quiet.find _ _) fun _ _ =>
      .bind (Join.configFree_expandAll quiet _ _) fun _ _ => .pure trivial

namespace RemoteGrid

theorem configFree_call (caller : Caller m) (remote : RemoteGrid) (body : Request) : ConfigFree (call caller remote body) := by
  refine .bind (.adapt fun e fault => ?_) fun reply _ => ?_
  · cases e <;> simp [unavailable]
  · split
    · exact .pure trivial
    · exact .throw nofun

theorem configFree_callAll (caller : Caller m) (remote : RemoteGrid) (calls : List (CallShape × Request)) :
    ConfigFree (callAll caller remote calls) := by
  induction calls with
  | nil => exact .pure trivial
  | cons call rest ih => exact .bind (configFree_call ..) fun _ _ => .bind ih fun _ _ => .pure trivial

/-- However a caller fails, the remote is unavailable. -/
theorem configFree_fetch (caller : Caller m) (remote : RemoteGrid) : ConfigFree (fetch caller remote) := by
  unfold fetch
  split
  · exact .throw nofun
  split
  · exact .pure trivial
  · exact .bind (configFree_callAll ..) fun _ _ => .pure trivial

end RemoteGrid

namespace CompositeGrid

theorem contributionsOf_ne_config (column : String) (parts : List (CallShape × Contribution)) (fault : ConfigFault) :
    contributionsOf column parts ≠ .error (.config fault) := by
  induction parts with
  | nil => exact nofun
  | cons part rest ih =>
    obtain ⟨shape, contribution⟩ := part
    have later (entry : String × Contribution) :
        (contributionsOf column rest).map (entry :: ·) ≠ .error (.config fault) := by
      cases h : contributionsOf column rest with
      | ok list => exact nofun
      | error e => exact fun same => ih (h.trans (congrArg _ (Except.error.inj same)))
    cases contribution with
    | filter keys => cases shape <;> exact later (column, .filter keys)
    | queryTerms keys => cases shape <;> exact later (column, .queryTerms keys)
    | empty =>
      cases shape with
      | exact => exact nofun
      | freeText => exact ih

theorem gather_ne_config {outcomes : List Outcome} {fault : ConfigFault}
    (h : ∀ outcome ∈ outcomes, outcome ≠ .error (.config fault)) : gather outcomes ≠ .error (.config fault) := by
  induction outcomes with
  | nil => exact nofun
  | cons outcome rest ih =>
    obtain ⟨here, later⟩ := List.forall_mem_cons.mp h
    intro failed
    simp only [gather, Outcome.bind_eq_error] at failed
    rcases failed with failed | ⟨⟨parts, remote⟩, -, failed | ⟨_, -, failed | ⟨_, -, failed⟩⟩⟩
    · exact here failed
    · exact contributionsOf_ne_config _ _ fault failed
    · exact ih later failed
    · cases failed

theorem configFree_resolve (caller : Caller m) (grid : CompositeGrid) : ConfigFree (grid.resolve caller) := by
  refine .lift_bind (Always.mapM fun remote _ => RemoteGrid.configFree_fetch caller remote) fun outcomes h => .mk ?_
  refine isFair_iff.mpr fun fault failed => ?_
  simp only [resolved, Outcome.bind_eq_error] at failed
  rcases failed with failed | ⟨_, -, failed⟩
  · exact gather_ne_config (fun outcome houtcome => isFair_iff.mp (h outcome houtcome) fault) failed
  · split at failed <;> cases failed

/-- A grid that is made never fails for its description, and an envelope that it yields is that of a page. -/
theorem yields_fetch {store : Store m} (quiet : store.IsConfigFree) (caller : Caller m) (version : String)
    (grid : CompositeGrid) : Yields (fun envelope => envelope.success = true) (grid.fetch store caller version) := by
  have answers : Yields (fun envelope => envelope.success = true) (do
      let grid ← grid.resolve caller
      let page ← grid.primary.fetch store
      let merges ← ExceptT.lift (askMerges caller page.rows grid.remotes)
      return grid.envelope version (mergeAll page.rows merges) page.pagination) :=
    .bind (configFree_resolve caller grid) fun _ _ => .bind (CollectionGrid.configFree_fetch quiet _) fun _ _ =>
      .lift_bind (.trivial _) fun _ _ => .pure rfl
  unfold fetch
  split
  · unfold run
    split
    · exact .bind (p := fun _ => True) (.throw nofun) fun _ _ => answers
    · exact answers
  · exact .throw nofun

end CompositeGrid

namespace Host

variable {host : Host} {store : Store m} {name : String} {definition : GridDefinition}

/-- A grid that cannot be made answers with the error alone. -/
theorem run_of_ofJson_eq_error (hosted : Keyed.get? host.grids name = some definition) {header body : Json}
    {e : GridError} (h : CompositeGrid.ofJson definition header body = .error e) :
    host.run store name header body = pure (status e, .ofError host.version e) := by
  have answered : (host.answer store definition header body).run = pure (.error e) := by
    simp only [answer, h, ExceptT.run_bind, ExceptT.run_mk, pure_bind]
  simp only [run, hosted, answered, pure_bind]

theorem configuration?_eq_none (hosted : Keyed.get? host.grids name = some definition) {e : GridError}
    (h : CompositeGrid.ofJson definition (.obj []) (.obj []) = .error e) : host.configuration? name = none := by
  simp [configuration?, hosted, h]

theorem configuration?_eq_some (hosted : Keyed.get? host.grids name = some definition) {grid : CompositeGrid}
    (h : CompositeGrid.ofJson definition (.obj []) (.obj []) = .ok grid) :
    host.configuration? name = some grid.configuration := by
  simp [configuration?, hosted, h]

/-- A grid whose making does not fail for its description is not answered for with such a fault. -/
theorem always_run (hosted : Keyed.get? host.grids name = some definition) (quiet : store.IsConfigFree)
    {header body : Json} (made : ∀ fault, CompositeGrid.ofJson definition header body ≠ .error (.config fault)) :
    Always (fun answer => ∀ fault, answer.2 ≠ .ofError host.version (.config fault)) (host.run store name header body) := by
  have answers : Yields (fun envelope => envelope.success = true) (host.answer store definition header body) :=
    .bind (.mk (isFair_iff.mpr made)) fun grid _ => CompositeGrid.yields_fetch quiet _ _ grid
  unfold run
  rw [hosted]
  refine Always.bind answers fun result hresult => ?_
  cases result with
  | ok envelope =>
    -- A page is an envelope of success, and that of an error is not.
    refine Always.pure fun fault same => ?_
    have success : envelope.success = true := hresult
    rw [show envelope = _ from same] at success
    cases success
  | error e =>
    refine Always.pure fun fault same => ?_
    obtain ⟨cause, rfl⟩ := GridError.config_of_id_eq fault (congrArg Envelope.messageId same)
    exact hresult cause rfl

/-- A grid without faults can be served exactly if the parameters of each of its remotes make a table. If they do, every
remote has its table, no request is answered with a fault of the description, and the capabilities are told. If they do
not, every request in shape is answered with such a fault, and no capabilities are told. -/
theorem served_iff_makesTables (hosted : Keyed.get? host.grids name = some definition)
    (checked : definition.check name = .ok ()) (quiet : store.IsConfigFree) :
    (definition.MakesTables →
      definition.HasTables ∧
      (∀ header body fault, CompositeGrid.ofJson definition header body ≠ .error (.config fault)) ∧
      (∀ header body, Always (fun answer => ∀ fault, answer.2 ≠ .ofError host.version (.config fault))
        (host.run store name header body)) ∧
      ∃ configuration, host.configuration? name = some configuration) ∧
    (¬definition.MakesTables →
      (∀ header body request, Request.ofJson body = .ok request →
        ∃ fault, host.run store name header body = pure (500, .ofError host.version (.config fault))) ∧
      host.configuration? name = none) := by
  have empty : Request.ofJson (.obj []) = .ok .empty := rfl
  rw [GridDefinition.makesTables_iff checked]
  constructor
  · intro tables
    obtain ⟨grid, hgrid⟩ := CompositeGrid.exists_ofJson_eq_ok tables (.obj []) empty
    exact ⟨tables, CompositeGrid.ofJson_ne_config tables,
      fun header body => always_run hosted quiet (CompositeGrid.ofJson_ne_config tables header body),
      grid.configuration, configuration?_eq_some hosted hgrid⟩
  · intro missing
    constructor
    · intro header body request hrequest
      obtain ⟨fault, hfault⟩ := CompositeGrid.exists_ofJson_eq_error missing header hrequest
      exact ⟨fault, run_of_ofJson_eq_error hosted hfault⟩
    · obtain ⟨fault, hfault⟩ := CompositeGrid.exists_ofJson_eq_error missing (.obj []) empty
      exact configuration?_eq_none hosted hfault

end Host

end

/-! ## Orders and their customers -/

namespace Host

/-- A host of the grid of orders. -/
def ofOrders (parameters : Keyed String) : Host :=
  ⟨"grid", [("orders", CompositeGrid.Orders.definition parameters)], "1"⟩

/-- The grid of orders, whose only parameter has a table, is served. -/
theorem served_iff_makesTables_orders :
    (∀ body fault,
      ((ofOrders [("city", "town")]).run (CompositeGrid.Orders.store.toStore : Store Id) "orders" .null body).run.2 ≠
        .ofError "1" (.config fault)) ∧
    ∃ configuration, (ofOrders [("city", "town")]).configuration? "orders" = some configuration := by
  have makes : (CompositeGrid.Orders.definition [("city", "town")]).MakesTables := by
    intro remote hremote
    obtain rfl := List.mem_singleton.mp hremote
    exact ⟨by decide +kernel, by decide +kernel, by decide +kernel⟩
  have quiet : (CompositeGrid.Orders.store.toStore : Store Id).IsConfigFree := MemoryStore.isConfigFree _
  have hosted : Keyed.get? (ofOrders [("city", "town")]).grids "orders" =
      some (CompositeGrid.Orders.definition [("city", "town")]) := rfl
  obtain ⟨-, -, answers, told⟩ := (served_iff_makesTables hosted
    (Outcome.toOption_eq_some.mp (by decide +kernel)) quiet).1 makes
  exact ⟨fun body => always_id.mp (answers .null body), told⟩

/-- A definition without faults can have two parameters under one name of the remote. Then even the empty request is
answered with a fault of the definition, and no capabilities are told. -/
theorem checked_and_unserved : ∃ definition fault,
    GridDefinition.decode
      (CompositeGrid.Orders.description "title" [("city", .str "town"), ("place", .str "town")]) = .ok definition ∧
    definition.check "orders" = .ok () ∧
    CompositeGrid.ofJson definition .null (.obj []) = .error (.config fault) ∧
    (⟨"grid", [("orders", definition)], "1"⟩ : Host).run (CompositeGrid.Orders.store.toStore : Store Id) "orders"
      .null (.obj []) = (500, .ofError "1" (.config fault)) ∧
    (⟨"grid", [("orders", definition)], "1"⟩ : Host).configuration? "orders" = none := by
  have faulty : ((GridDefinition.decode (CompositeGrid.Orders.description "title"
      [("city", .str "town"), ("place", .str "town")])).toOption.any fun definition =>
        (definition.check "orders").toOption.isSome &&
          definition.remotes.any fun remote => remote.table.toOption.isNone) = true := by decide +kernel
  obtain ⟨definition, decoded, faulty⟩ := (Option.any_eq_true _ _).mp faulty
  rw [Bool.and_eq_true, List.any_eq_true] at faulty
  obtain ⟨checked, remote, hremote, missing⟩ := faulty
  have lacks : ¬definition.HasTables := by
    intro tables
    obtain ⟨table, htable⟩ := tables remote hremote
    rw [htable] at missing
    cases missing
  have empty : Request.ofJson (.obj []) = .ok .empty := rfl
  obtain ⟨fault, hfault⟩ := CompositeGrid.exists_ofJson_eq_error lacks .null empty
  obtain ⟨_, told⟩ := CompositeGrid.exists_ofJson_eq_error lacks (.obj []) empty
  obtain ⟨_, passed⟩ := Option.isSome_iff_exists.mp checked
  exact ⟨definition, fault, Outcome.toOption_eq_some.mp decoded, Outcome.toOption_eq_some.mp passed, hfault,
    run_of_ofJson_eq_error rfl hfault, configuration?_eq_none rfl told⟩

end Host

end DataGrid
