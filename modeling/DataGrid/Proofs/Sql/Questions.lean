-- SUMMARY: Every question that a run puts to a store can be put into a statement.
import DataGrid.Proofs.GridDefinition
import DataGrid.Proofs.Phases
import DataGrid.Proofs.Sql.PlanTests
import DataGrid.Proofs.Sql.Rendering

/-!
# Questions of a run

A checked definition names its collection, its columns and its joins well. Requests add
names of fields only, and remotes add keys on their join columns, so every question that
a run puts to a store is well formed, whatever the remotes answer.
-/

namespace DataGrid

/-- A question to a store is well formed, and so is the statement that it is put into: no store of documents complains
about a name in it, and its text has no empty group. -/
def Effect.IsSafe : Effect → Prop
  | .count collection predicate _ =>
    Sql.WellFormed collection predicate [] ∧
    (∃ statement, Sql.countStatement collection predicate = .ok statement ∧
      Sql.emptyGroup? statement.text.toList = none) ∧
    ∀ (store : SqlStore) fault, store.count collection predicate = .error fault → fault.isName = false
  | .find collection selection _ =>
    Sql.WellFormed collection selection.predicate selection.sort ∧
    (∃ statement, Sql.findStatement collection selection = .ok statement ∧
      Sql.emptyGroup? statement.text.toList = none) ∧
    ∀ (store : SqlStore) fault, store.find collection selection = .error fault → fault.isName = false
  | .call .. => True

theorem Effect.isSafe_count {collection : String} {predicate : Predicate} (h : Sql.WellFormed collection predicate [])
    (answer : Result Nat) : (Effect.count collection predicate answer).IsSafe :=
  ⟨h, h.countStatement_eq_ok, fun _ _ => h.isName_of_count⟩

theorem Effect.isSafe_find {collection : String} {selection : Selection}
    (h : Sql.WellFormed collection selection.predicate selection.sort) (answer : Result (List Row)) :
    (Effect.find collection selection answer).IsSafe :=
  ⟨h, h.findStatement_eq_ok, fun _ _ => h.isName_of_find⟩


/-! ## Pages -/

/-- A join is on a collection that has a name, by a column path. -/
def JoinDescriptor.IsNamed (join : JoinDescriptor) : Prop :=
  Text.isIdentifier join.model = true ∧ Text.isColumnPath join.keyColumn = true

theorem Join.Expands.isSafe {fields : List Field} {rows : List Row} {result : Result (List Row)} {effects : List Effect}
    (h : Join.Expands fields rows result effects) (named : ∀ field ∈ fields, ∀ join ∈ field.join, join.IsNamed) :
    ∀ e ∈ effects, e.IsSafe := by
  have safe {join : JoinDescriptor} (isNamed : join.IsNamed) (keys : List Json)
      (answer : Result (List Row)) : (Effect.find join.model (selection join keys) answer).IsSafe := by
    obtain ⟨model, key⟩ := isNamed
    refine Effect.isSafe_find ⟨⟨_, if_pos model⟩, fun t ht => ?_, List.forall_mem_nil _, .oneOf ..⟩ answer
    obtain rfl := List.mem_singleton.mp ht
    exact ⟨_, if_pos key⟩
  induction h with
  | done => exact List.forall_mem_nil _
  | plain _ _ ih => exact ih (List.forall_mem_cons.mp named).2
  | unneeded _ _ _ ih => exact ih (List.forall_mem_cons.mp named).2
  | failed joins =>
    obtain ⟨here, -⟩ := List.forall_mem_cons.mp named
    exact List.forall_mem_singleton.mpr (safe (here _ joins) _ _)
  | next joins _ _ ih =>
    obtain ⟨here, later⟩ := List.forall_mem_cons.mp named
    exact List.forall_mem_cons.mpr ⟨safe (here _ joins) _ _, ih later⟩

/-- A grid that names its collection, the columns that it asks for, and its joins well. -/
structure CollectionGrid.IsNamed (grid : CollectionGrid) : Prop where
  collection : Text.isIdentifier grid.collection = true
  columns : ∀ column ∈ grid.plan.criteria.columns, Text.isColumnPath column = true
  sort : ∀ key ∈ grid.plan.sortKeys, Text.isColumnPath key.column = true
  joins : ∀ field ∈ grid.plan.table.shown, ∀ join ∈ field.join, join.IsNamed

namespace CollectionGrid

variable {grid : CollectionGrid}

/-- What a page asks for in some order is well formed. -/
theorem IsNamed.wellFormed (named : grid.IsNamed) {sort : List SortKey}
    (sorted : ∀ key ∈ sort, Text.isColumnPath key.column = true) :
    Sql.WellFormed grid.collection grid.plan.predicate sort where
  table := ⟨_, if_pos named.collection⟩
  tests t ht := ⟨_, if_pos (named.columns t.1 (Criteria.mem_tests_predicate ht))⟩
  sort key hkey := ⟨_, if_pos (sorted key hkey)⟩
  grouped := grid.plan.criteria.grouped_predicate

theorem IsNamed.isSafe_count (named : grid.IsNamed) (answer : Result Nat) :
    (Effect.count grid.collection grid.plan.predicate answer).IsSafe :=
  Effect.isSafe_count (named.wellFormed (List.forall_mem_nil _)) answer

theorem IsNamed.isSafe_find (named : grid.IsNamed) (answer : Result (List Row)) :
    (Effect.find grid.collection grid.selection answer).IsSafe :=
  Effect.isSafe_find (named.wellFormed named.sort) answer

/-- Every question of a page is well formed. -/
theorem Reads.isSafe {page : Result Page} {effects : List Effect} (h : grid.Reads page effects) (named : grid.IsNamed) :
    ∀ e ∈ effects, e.IsSafe := by
  cases h with
  | again => exact List.forall_mem_nil _
  | refused => exact List.forall_mem_nil _
  | uncounted => exact List.forall_mem_singleton.mpr (named.isSafe_count _)
  | unfound =>
    exact List.forall_mem_cons.mpr ⟨named.isSafe_count _, List.forall_mem_singleton.mpr (named.isSafe_find _)⟩
  | found _ expands =>
    exact List.forall_mem_cons.mpr
      ⟨named.isSafe_count _, List.forall_mem_cons.mpr ⟨named.isSafe_find _, expands.isSafe named.joins⟩⟩

end CollectionGrid


/-! ## Resolution -/

/-- Resolving does not change the definition of a remote. -/
theorem RemoteGrid.Resolves.definition_eq {remote next : RemoteGrid} {parts : List (CallShape × Contribution)}
    {effects : List Effect} (h : remote.Resolves (.ok (parts, next)) effects) : next.definition = remote.definition := by
  generalize houtcome : (Except.ok (parts, next) : CompositeGrid.Outcome) = outcome at h
  cases h with
  | refused => cases houtcome
  | idle =>
    obtain ⟨-, rfl⟩ := Prod.mk.inj (Except.ok.inj houtcome)
    rfl
  | asked =>
    obtain ⟨replies, -, heq⟩ := Outcome.map_eq_ok.mp houtcome.symm
    obtain ⟨-, rfl⟩ := Prod.mk.inj heq
    rfl

namespace CompositeGrid

theorem column_of_mem_contributionsOf {column : String} {parts : List (CallShape × Contribution)}
    {list : List (String × Contribution)} (h : contributionsOf column parts = .ok list) :
    ∀ entry ∈ list, entry.1 = column := by
  induction parts generalizing list with
  | nil =>
    obtain rfl := Except.ok.inj h
    exact List.forall_mem_nil _
  | cons part rest ih =>
    have kept {contribution : Contribution} (h : (contributionsOf column rest).map ((column, contribution) :: ·) = .ok list) :
        ∀ entry ∈ list, entry.1 = column := by
      obtain ⟨others, hothers, rfl⟩ := Outcome.map_eq_ok.mp h
      exact List.forall_mem_cons.mpr ⟨rfl, ih hothers⟩
    obtain ⟨shape, contribution⟩ := part
    cases contribution with
    | filter keys => cases shape <;> exact kept h
    | queryTerms keys => cases shape <;> exact kept h
    | empty =>
      cases shape with
      | exact => cases h
      | freeText => exact ih h

/-- Each contribution is on the join column of a remote that has been resolved. -/
theorem column_of_mem_gather {outcomes : List Outcome} {contributions : List (String × Contribution)}
    {remotes : List RemoteGrid} (h : gather outcomes = .ok (contributions, remotes)) :
    ∀ entry ∈ contributions, ∃ parts next, .ok (parts, next) ∈ outcomes ∧ entry.1 = next.definition.primaryKey := by
  induction outcomes generalizing contributions remotes with
  | nil =>
    obtain ⟨rfl, -⟩ := Prod.mk.inj (Except.ok.inj h)
    exact List.forall_mem_nil _
  | cons outcome rest ih =>
    simp only [gather, Outcome.bind_eq_ok, Outcome.pure_eq_ok] at h
    obtain ⟨⟨parts, next⟩, rfl, first, hfirst, ⟨others, grids⟩, hothers, heq⟩ := h
    obtain ⟨rfl, -⟩ := Prod.mk.inj heq
    intro entry hentry
    rcases List.mem_append.mp hentry with here | later
    · exact ⟨parts, next, List.mem_cons_self, column_of_mem_contributionsOf hfirst entry here⟩
    · obtain ⟨parts', next', hmem, column⟩ := ih hothers entry later
      exact ⟨parts', next', List.mem_cons_of_mem _ hmem, column⟩

theorem isNamed_restrict {primary : CollectionGrid} (named : primary.IsNamed) {entry : String × Contribution}
    (path : Text.isColumnPath entry.1 = true) : (restrict primary entry).IsNamed where
  collection := named.collection
  columns column hcolumn := by
    rcases QueryPlan.mem_columns_constrain hcolumn with held | ⟨constraint, hconstraint, rfl⟩
    · exact named.columns column held
    · have own : constraint.column = entry.1 := by
        obtain ⟨_, contribution⟩ := entry
        cases contribution <;> simp at hconstraint <;> rw [hconstraint]
      rw [own]
      exact path
  sort := named.sort
  joins := named.joins

theorem isNamed_foldl_restrict {contributions : List (String × Contribution)} {primary : CollectionGrid}
    (named : primary.IsNamed) (paths : ∀ entry ∈ contributions, Text.isColumnPath entry.1 = true) :
    (contributions.foldl restrict primary).IsNamed := by
  induction contributions generalizing primary with
  | nil => exact named
  | cons entry rest ih =>
    obtain ⟨here, later⟩ := List.forall_mem_cons.mp paths
    exact ih (isNamed_restrict named here) later

/-- Whatever the remotes answer, a resolved grid names what it asks for well if the grid does. -/
theorem Resolves.isNamed {grid resolved : CompositeGrid} {asked : List (List Effect)}
    (h : grid.Resolves (.ok resolved) asked) (named : grid.primary.IsNamed)
    (keys : ∀ remote ∈ grid.remotes, Text.isColumnPath remote.definition.primaryKey = true) :
    resolved.primary.IsNamed := by
  obtain ⟨parts, hparts, hresolved, -⟩ := h
  obtain ⟨contributions, remotes, hgather, -, rfl⟩ := resolved_eq_ok.mp hresolved.symm
  refine isNamed_foldl_restrict named fun entry hentry => ?_
  obtain ⟨list, next, hmem, column⟩ := column_of_mem_gather hgather entry hentry
  obtain ⟨part, hpart, outcome⟩ := List.mem_map.mp hmem
  obtain ⟨remote, hremote, resolves⟩ := Outcome.exists_left_of_mem hparts hpart
  rw [outcome] at resolves
  rw [column, resolves.definition_eq]
  exact keys remote hremote


/-! ## Runs -/

section

variable {definition : GridDefinition} {header body : Json} {grid : CompositeGrid}

/-- A grid of a checked definition names its collection, columns and joins well, if its request has no complaints. -/
theorem Made.isNamed (made : Made definition header body grid) (checked : definition.Checked)
    (named : Text.isIdentifier definition.collection = true) (quiet : grid.complaints = []) :
    grid.primary.IsNamed := by
  obtain ⟨descriptors, fields⟩ := checked.fields.checked
  have quiet := (complaints_eq_nil.mp quiet).1
  rw [CollectionGrid.complaints, made.plan_eq] at quiet
  have covers := QueryPlan.covers_of_complaints_eq_nil quiet
  have path {column : String} (h : ∃ f ∈ definition.fields.fields, f.2.column = column) :
      Text.isColumnPath column = true := by
    obtain ⟨f, hf, rfl⟩ := h
    obtain ⟨descriptor, -, hfield⟩ := fields.spec hf
    exact (Field.spec_of_ofDescriptor hfield).2.2
  refine ⟨by rw [made.collection_eq]; exact named, ?_, ?_, ?_⟩
  · rw [made.plan_eq]
    exact fun column hcolumn => path (covers.mem_table hcolumn)
  · rw [made.plan_eq]
    exact fun key hkey => path (covers.mem_table_of_sort hkey)
  · rw [made.plan_eq, covers.table_eq]
    intro field hfield join joins
    obtain ⟨f, hf, rfl⟩ := List.mem_map.mp (List.mem_of_mem_filter hfield)
    obtain ⟨descriptor, -, hfield⟩ := fields.spec hf
    have sound := Field.isSound_join_of_ofDescriptor hfield joins
    exact ⟨sound.model, sound.key⟩

/-- Calls put no question to a store. -/
theorem isSafe_of_asked {R : RemoteGrid → List Effect → Prop} {remotes : List RemoteGrid} {asked : List (List Effect)}
    (h : List.Forall₂ R remotes asked) (calls : ∀ remote effects, R remote effects →
      ∀ e ∈ effects, ∃ body answer, e = remote.asked body answer) : ∀ e ∈ asked.flatten, e.IsSafe := by
  intro e he
  obtain ⟨effects, heffects, he⟩ := List.mem_flatten.mp he
  obtain ⟨remote, -, hremote⟩ := Outcome.exists_left_of_mem h heffects
  obtain ⟨body, answer, rfl⟩ := calls remote effects hremote e he
  exact True.intro

theorem isSafe_of_askedToResolve {remotes : List RemoteGrid} {asked : List (List Effect)}
    (h : List.Forall₂ RemoteGrid.AskedToResolve remotes asked) : ∀ e ∈ asked.flatten, e.IsSafe := by
  refine isSafe_of_asked h fun remote effects asked e he => ?_
  obtain ⟨call, -, answer, heq⟩ := asked.calls e he
  exact ⟨call.2, answer, heq⟩

theorem isSafe_of_askedToMerge {remotes : List RemoteGrid} {merged : List (List Effect)}
    (h : List.Forall₂ RemoteGrid.AskedToMerge remotes merged) : ∀ e ∈ merged.flatten, e.IsSafe :=
  isSafe_of_asked h fun _ _ asked => asked.calls

/-- Every question of a step is safe. -/
theorem Steps.isSafe {version : String} {result : Result Envelope × CompositeGrid} {effects : List Effect}
    (h : Steps version grid result effects) (named : grid.complaints = [] → grid.primary.IsNamed)
    (keys : ∀ remote ∈ grid.remotes, Text.isColumnPath remote.definition.primaryKey = true) :
    ∀ e ∈ effects, e.IsSafe := by
  cases h with
  | again => exact List.forall_mem_nil _
  | rejected => exact List.forall_mem_nil _
  | unresolved _ _ resolves => exact isSafe_of_askedToResolve resolves.asked_to
  | unread _ quiet resolves reads =>
    exact List.forall_mem_append.mpr
      ⟨isSafe_of_askedToResolve resolves.asked_to, reads.isSafe (resolves.isNamed (named quiet) keys)⟩
  | answered _ quiet resolves reads joins =>
    exact List.forall_mem_append.mpr ⟨isSafe_of_askedToResolve resolves.asked_to, List.forall_mem_append.mpr
      ⟨reads.isSafe (resolves.isNamed (named quiet) keys), isSafe_of_askedToMerge joins.asked_to⟩⟩

variable {m : Type → Type} [Monad m] [LawfulMonad m]

/-- Whatever is asked of a grid with a checked definition, and whatever its remotes and its store answer, every question
that a run puts to a store is well formed. Its names pass, so that no store of documents complains about one, and its
statement has no empty group. -/
theorem observe_isSafe {json : Json} {name : String} (decoded : GridDefinition.decode json = .ok definition)
    (checked : definition.check name = .ok ()) (hgrid : ofJson definition header body = .ok grid) (store : Store m)
    (caller : Caller m) (version : String) :
    Always (fun seen => ∀ e ∈ seen.1.effects, e.IsSafe) (observe store caller version grid) := by
  have made := made_of_ofJson hgrid
  have sound := GridDefinition.checked_of_decode decoded checked
  refine (observe_always store caller version grid).mono fun seen h => h.1.isSafe (fun quiet => ?_) ?_
  · exact made.isNamed sound (GridDefinition.isIdentifier_of_check checked) quiet
  · intro remote hremote
    exact (RemoteDefinition.spec_of_check (sound.remotes _ (made.remote hremote).1).2).1

end


/-! ## Items and their authors -/

namespace Items

/-- Items have a title, and an author among the users. -/
def description : Json :=
  .obj [
    ("collection", .str "items"),
    ("fields", .obj [
      ("author", .obj [
        ("databaseName", .str "author_id"),
        ("join", .obj [("as", .str "author"), ("fields", Json.ofStrings ["name"]), ("model", .str "users")])]),
      ("title", .obj [("search", .bool true), ("sort", .bool true)])])]

/-- One item and its author. -/
def store : MemoryStore :=
  ⟨[("items", [[("author_id", .str "u1"), ("title", .str "alpha")]]),
    ("users", [[("id", .str "u1"), ("name", .str "Ann")]])]⟩

/-- The items whose title has an `a`, and those with a free text, in the order of their titles. -/
def body : Json :=
  .obj [
    (Capability.search.key, .obj [(Request.freeTextKey, .str "alp"), ("title", .str "a")]),
    (Capability.sort.key, .obj [("title", .str "descending")])]

end Items

/-- The items are counted and found, and then their authors: three questions, all of them well formed. -/
theorem observe_isSafe_items : ∃ definition grid seen,
    GridDefinition.decode Items.description = .ok definition ∧ definition.check "items" = .ok () ∧
    ofJson definition .null Items.body = .ok grid ∧
    (observe Items.store.toStore Orders.caller "1" grid).run = seen ∧
    seen.1.effects.map Effect.isAccess = [true, true, true] ∧ ∀ e ∈ seen.1.effects, e.IsSafe := by
  have made : ((GridDefinition.decode Items.description).toOption.any fun definition =>
      (definition.check "items").toOption.isSome && (ofJson definition .null Items.body).toOption.any fun grid =>
        decide ((observe Items.store.toStore Orders.caller "1" grid).run.1.effects.map Effect.isAccess =
          [true, true, true])) = true := by decide +kernel
  obtain ⟨definition, decoded, made⟩ := (Option.any_eq_true _ _).mp made
  obtain ⟨checked, made⟩ := Bool.and_eq_true_iff.mp made
  obtain ⟨grid, hgrid, asked⟩ := (Option.any_eq_true _ _).mp made
  have decoded := Outcome.toOption_eq_some.mp decoded
  have hgrid := Outcome.toOption_eq_some.mp hgrid
  obtain ⟨_, checked⟩ := Option.isSome_iff_exists.mp checked
  have checked := Outcome.toOption_eq_some.mp checked
  have safe := observe_isSafe decoded checked hgrid Items.store.toStore Orders.caller "1"
  exact ⟨definition, grid, _, decoded, checked, hgrid, rfl, of_decide_eq_true asked, always_id.mp safe⟩

end CompositeGrid

end DataGrid
