-- SUMMARY: What a composite grid is made from, and what resolving its remotes does to it.
import DataGrid.Grid.Composite
import DataGrid.Proofs.CollectionGrid
import DataGrid.Proofs.RemoteGrid

/-!
# Composite grids

A composite grid splits a request between its collection and its remotes. Resolving
it asks every remote, and restricts the collection by one constraint for every call
that has brought in keys.
-/

namespace DataGrid

namespace Request

theorem entries_without (request : Request) (names : List String) (kind : Capability) :
    (request.without names).entries kind = (request.entries kind).filter fun e => !names.contains e.1 := by
  obtain ⟨search, filter, range, sort, page, limit⟩ := request
  cases kind with
  | display => rfl
  | search => cases search <;> rfl
  | filter => cases filter <;> rfl
  | range => cases range <;> rfl
  | sort => cases sort <;> rfl

end Request

namespace CompositeGrid

/-! ## Making a grid -/

/-- How a grid stands to the definition and the body that it is made from. -/
structure Made (definition : GridDefinition) (header body : Json) (grid : CompositeGrid) : Prop where
  request_eq : Request.ofJson body = .ok grid.request
  remotes : List.Forall₂ (fun d remote => RemoteGrid.ofRequest d header grid.request = .ok remote)
    definition.remotes grid.remotes
  plan_eq : grid.primary.plan = .ofRequest definition.fields (grid.request.without definition.remoteFields)
  collection_eq : grid.primary.collection = definition.collection

private theorem requireColumns (columns : List RemoteDefinition) (primary : CollectionGrid) :
    (columns.foldl (fun primary remote => primary.requireColumn remote.primaryKey) primary).plan = primary.plan ∧
      (columns.foldl (fun primary remote => primary.requireColumn remote.primaryKey) primary).collection =
        primary.collection := by
  induction columns generalizing primary with
  | nil => exact ⟨rfl, rfl⟩
  | cons remote rest ih =>
    rw [List.foldl_cons]
    have kept : (primary.requireColumn remote.primaryKey).plan = primary.plan ∧
        (primary.requireColumn remote.primaryKey).collection = primary.collection := by
      unfold CollectionGrid.requireColumn
      split <;> exact ⟨rfl, rfl⟩
    exact ⟨(ih _).1.trans kept.1, (ih _).2.trans kept.2⟩

theorem made_of_ofJson {definition : GridDefinition} {header body : Json} {grid : CompositeGrid}
    (h : ofJson definition header body = .ok grid) : Made definition header body grid := by
  simp only [ofJson, Outcome.bind_eq_ok, Outcome.mapError_eq_ok, Outcome.mapM_eq_ok, Outcome.pure_eq_ok] at h
  obtain ⟨request, hrequest, remotes, hremotes, rfl⟩ := h
  obtain ⟨plan, collection⟩ := requireColumns definition.remotes
    (CollectionGrid.ofRequest definition.collection definition.fields (request.without definition.remoteFields))
  exact ⟨hrequest, hremotes, plan, collection⟩

/-- A grid has no complaints exactly when neither its collection nor any of its remotes has. -/
theorem complaints_eq_nil {grid : CompositeGrid} :
    grid.complaints = [] ↔ grid.primary.complaints = [] ∧ ∀ remote ∈ grid.remotes, remote.complaints = [] :=
  Complaints.foldl_eq_nil (fun remote => RemoteGrid.complaints remote = [])
    (fun _ _ => Complaints.merge_eq_nil) _ _

section

variable {definition : GridDefinition} {header body : Json} {grid : CompositeGrid}

/-- Every remote of a grid renders its share of the request under a definition of its own. -/
theorem Made.remote (made : Made definition header body grid) {remote : RemoteGrid} (h : remote ∈ grid.remotes) :
    remote.definition ∈ definition.remotes ∧ remote.definition.table = .ok remote.table ∧
      remote.rendered = Rendering.render remote.table remote.definition.maxKeys grid.request := by
  obtain ⟨d, hd, hremote⟩ := Outcome.exists_left_of_mem made.remotes h
  obtain ⟨rfl, htable, hrendered⟩ := RemoteGrid.spec_of_ofRequest hremote
  exact ⟨hd, htable, hrendered⟩

theorem Made.definitions (made : Made definition header body grid) :
    grid.remotes.map (·.definition) = definition.remotes := by
  have remotes := made.remotes
  generalize definition.remotes = definitions at remotes
  generalize grid.remotes = grids at remotes
  induction remotes with
  | nil => rfl
  | cons hremote _ ih => rw [List.map_cons, (RemoteGrid.spec_of_ofRequest hremote).1, ih]

theorem mem_remoteFields {name : String} :
    name ∈ definition.remoteFields ↔ ∃ d ∈ definition.remotes, name ∈ Keyed.keys d.parameters := by
  simp [GridDefinition.remoteFields, List.mem_flatMap]

end


/-! ## Contributions -/

/-- A constraint as a column and its keys, if there is one. -/
def constraintList (constraint : Option Constraint) : List (String × List Json) :=
  (constraint.map fun c => (c.column, c.keys)).toList

/-- The constraint that rows must meet for a contribution, if there is one. -/
def filterPart (entry : String × Contribution) : List (String × List Json) :=
  constraintList (entry.2.constraints entry.1).1

/-- The place for the free text that a contribution adds, if there is one. -/
def queryPart (entry : String × Contribution) : List (String × List Json) :=
  constraintList (entry.2.constraints entry.1).2

/-- Restricting a grid by some contributions adds their constraints and nothing else. -/
theorem foldl_restrict (contributions : List (String × Contribution)) (primary : CollectionGrid) :
    contributions.foldl restrict primary = { primary with
      plan := { primary.plan with
        criteria := { primary.plan.criteria with
          filters := primary.plan.criteria.filters ++ contributions.flatMap filterPart
          queryKeys := primary.plan.criteria.queryKeys ++ contributions.flatMap queryPart } } } := by
  induction contributions generalizing primary with
  | nil => simp
  | cons entry rest ih =>
    rw [List.foldl_cons, ih]
    simp [restrict, CollectionGrid.constrain, QueryPlan.constrain, filterPart, queryPart, constraintList]

private theorem contributionsOf_cons (column : String) (shape : CallShape) (keys : List Json)
    (rest : List (CallShape × Contribution)) :
    contributionsOf column ((shape, .ofKeys shape keys) :: rest) =
      if keys = [] then (if shape = .exact then .error .noOutput else contributionsOf column rest)
      else (contributionsOf column rest).map ((column, .ofKeys shape keys) :: ·) := by
  cases keys <;> cases shape <;> rfl

/-- A contribution of keys is a constraint that rows must meet if the call is an exact one. -/
theorem filterPart_ofKeys {keys : List Json} (some : keys ≠ []) (column : String) (shape : CallShape) :
    filterPart (column, .ofKeys shape keys) = if shape = .exact then [(column, keys)] else [] := by
  cases shape <;> simp [filterPart, some, Contribution.ofKeys, Contribution.constraints, constraintList]

/-- A contribution of keys is a place for the free text if the call is a free-text one. -/
theorem queryPart_ofKeys {keys : List Json} (some : keys ≠ []) (column : String) (shape : CallShape) :
    queryPart (column, .ofKeys shape keys) = if shape = .freeText then [(column, keys)] else [] := by
  cases shape <;> simp [queryPart, some, Contribution.ofKeys, Contribution.constraints, constraintList]

/-- The contributions of one remote: every exact call has keys, and each call with keys adds its constraint. -/
theorem contributionsOf_eq_ok {remote : RemoteGrid} {replies : List (CallShape × List Row)}
    {list : List (String × Contribution)}
    (h : contributionsOf remote.definition.primaryKey (remote.contributions replies) = .ok list) :
    (∀ records, (CallShape.exact, records) ∈ replies → remote.keysOf records ≠ []) ∧
      list.flatMap filterPart = remote.constraintsOf .exact replies ∧
      list.flatMap queryPart = remote.constraintsOf .freeText replies ∧
      ∀ entry ∈ list, filterPart entry ++ queryPart entry ≠ [] := by
  induction replies generalizing list with
  | nil =>
    obtain rfl := Except.ok.inj h
    exact ⟨by simp, rfl, rfl, by simp⟩
  | cons reply rest ih =>
    obtain ⟨shape, records⟩ := reply
    rw [RemoteGrid.contributions, List.map_cons, contributionsOf_cons] at h
    rw [RemoteGrid.constraintsOf_cons, RemoteGrid.constraintsOf_cons]
    by_cases none : remote.keysOf records = []
    · rw [if_pos none] at h
      cases shape with
      | exact => cases h
      | freeText =>
        rw [if_neg nofun] at h
        obtain ⟨exact, filters, queries, real⟩ := ih h
        exact ⟨by simpa using exact, by simp [none, filters], by simp [none, queries], real⟩
    · rw [if_neg none] at h
      obtain ⟨others, hothers, rfl⟩ := Outcome.map_eq_ok.mp h
      obtain ⟨exact, filters, queries, real⟩ := ih hothers
      refine ⟨fun rs hrs => ?_, ?_, ?_, List.forall_mem_cons.mpr ⟨?_, real⟩⟩
      · rcases List.mem_cons.mp hrs with same | hrs
        · rw [(Prod.mk.inj same).2]
          exact none
        · exact exact rs hrs
      · rw [List.flatMap_cons, filters, filterPart_ofKeys none]
        simp [none]
      · rw [List.flatMap_cons, queries, queryPart_ofKeys none]
        simp [none]
      · rw [filterPart_ofKeys none, queryPart_ofKeys none]
        cases shape <;> simp


/-! ## Resolution -/

/-- What the calls of each remote have brought in. -/
abbrev Found := List (RemoteGrid × List (CallShape × List Row))

/-- The constraints that the calls of one shape put on the page. -/
def constraintsOf (shape : CallShape) (found : Found) : List (String × List Json) :=
  found.flatMap fun f => f.1.constraintsOf shape f.2

/-- How a grid is resolved: every call of every remote has succeeded, each exact one with keys, and the collection is
restricted by the keys of all calls. -/
structure Resolved (caller : Caller Id) (grid resolved : CompositeGrid) (found : Found) : Prop where
  remotes_eq : found.map (·.1) = grid.remotes
  answers : ∀ f ∈ found, f.1.Answers caller f.1.rendered.calls f.2
  exact : ∀ f ∈ found, ∀ records, (CallShape.exact, records) ∈ f.2 → f.1.keysOf records ≠ []
  contributes : (∃ remote ∈ grid.remotes, remote.isApplicable = true) →
    constraintsOf .exact found ++ constraintsOf .freeText found ≠ []
  primary_eq : resolved.primary = { grid.primary with
    plan := { grid.primary.plan with
      criteria := { grid.primary.plan.criteria with
        filters := grid.primary.plan.criteria.filters ++ constraintsOf .exact found
        queryKeys := grid.primary.plan.criteria.queryKeys ++ constraintsOf .freeText found } } }

/-- Gathering the outcomes of some remotes. -/
theorem gather_eq_ok {caller : Caller Id} {remotes next : List RemoteGrid} {contributions : List (String × Contribution)}
    (h : gather (remotes.map fun remote => outcome (remote.fetch caller)) = .ok (contributions, next)) :
    ∃ found : Found, found.map (·.1) = remotes ∧
      (∀ f ∈ found, f.1.Answers caller f.1.rendered.calls f.2) ∧
      (∀ f ∈ found, ∀ records, (CallShape.exact, records) ∈ f.2 → f.1.keysOf records ≠ []) ∧
      contributions.flatMap filterPart = constraintsOf .exact found ∧
      contributions.flatMap queryPart = constraintsOf .freeText found ∧
      ∀ entry ∈ contributions, filterPart entry ++ queryPart entry ≠ [] := by
  induction remotes generalizing contributions next with
  | nil =>
    obtain ⟨rfl, rfl⟩ := Prod.mk.inj (Except.ok.inj h)
    exact ⟨[], by simp [constraintsOf]⟩
  | cons remote rest ih =>
    simp only [List.map_cons, gather, Outcome.bind_eq_ok, Outcome.pure_eq_ok] at h
    obtain ⟨⟨parts, asked⟩, hfetch, first, hfirst, ⟨others, grids⟩, hothers, heq⟩ := h
    obtain ⟨rfl, rfl⟩ := Prod.mk.inj heq
    obtain ⟨replies, answers, rfl, -⟩ := RemoteGrid.fetch_eq_ok hfetch
    rw [(RemoteGrid.kept_of_fetch hfetch).1] at hfirst
    obtain ⟨exact, filters, queries, real⟩ := contributionsOf_eq_ok hfirst
    obtain ⟨found, hremotes, allAnswers, allExact, allFilters, allQueries, allReal⟩ := ih hothers
    refine ⟨(remote, replies) :: found, by rw [List.map_cons, hremotes], ?_, ?_, ?_, ?_, ?_⟩
    · exact List.forall_mem_cons.mpr ⟨answers, allAnswers⟩
    · exact List.forall_mem_cons.mpr ⟨exact, allExact⟩
    · simp [constraintsOf, filters, allFilters]
    · simp [constraintsOf, queries, allQueries]
    · intro entry hentry
      rcases List.mem_append.mp hentry with hentry | hentry
      · exact real entry hentry
      · exact allReal entry hentry

/-- Gathering hands on every remote with its definition and its table. -/
theorem remotes_of_gather {caller : Caller Id} {remotes next : List RemoteGrid}
    {contributions : List (String × Contribution)}
    (h : gather (remotes.map fun remote => outcome (remote.fetch caller)) = .ok (contributions, next)) :
    List.Forall₂ (fun remote next => next.definition = remote.definition ∧ next.table = remote.table) remotes next := by
  induction remotes generalizing contributions next with
  | nil =>
    obtain ⟨rfl, rfl⟩ := Prod.mk.inj (Except.ok.inj h)
    exact .nil
  | cons remote rest ih =>
    simp only [List.map_cons, gather, Outcome.bind_eq_ok, Outcome.pure_eq_ok] at h
    obtain ⟨⟨parts, asked⟩, hfetch, first, -, ⟨others, grids⟩, hothers, heq⟩ := h
    obtain ⟨rfl, rfl⟩ := Prod.mk.inj heq
    exact .cons (RemoteGrid.kept_of_fetch hfetch) (ih hothers)

theorem resolved_nil {grid : CompositeGrid} (none : grid.remotes = []) : grid.resolved [] = .ok grid := by
  obtain ⟨phase, request, primary, remotes⟩ := grid
  obtain rfl : remotes = [] := none
  rfl

/-- Without remotes there is nothing to resolve and nobody to ask. -/
theorem run_resolve_of_alone {m : Type → Type} [Monad m] [LawfulMonad m] (caller : Caller m) {grid : CompositeGrid}
    (alone : grid.remotes = []) : (grid.resolve caller).run = pure (.ok grid) := by
  unfold resolve
  rw [ExceptT.run_bind_lift, alone, List.mapM_nil, pure_bind]
  exact congrArg pure (resolved_nil alone)

/-- Resolving asks every remote and gathers the outcomes. -/
theorem outcome_resolve (caller : Caller Id) (grid : CompositeGrid) :
    outcome (grid.resolve caller) = grid.resolved (grid.remotes.map fun remote => outcome (remote.fetch caller)) := by
  have asked : (grid.remotes.mapM fun remote => (remote.fetch caller).run : Id (List Outcome)).run =
      grid.remotes.map fun remote => outcome (remote.fetch caller) := List.idRun_mapM
  rw [← asked]
  rfl

/-- Outcomes of the remotes resolve a grid where they are gathered and a remote that was asked has contributed. -/
theorem resolved_eq_ok {grid resolved : CompositeGrid} {outcomes : List Outcome} :
    grid.resolved outcomes = .ok resolved ↔ ∃ contributions remotes,
      gather outcomes = .ok (contributions, remotes) ∧
      ¬(grid.remotes.any (·.isApplicable) && contributions.isEmpty) = true ∧
      { grid with primary := contributions.foldl restrict grid.primary, remotes } = resolved := by
  simp only [CompositeGrid.resolved, Outcome.bind_eq_ok, Outcome.guard_eq_ok, Outcome.pure_eq_ok, Prod.exists]

/-- What resolving has gone through. -/
theorem gather_of_resolve {caller : Caller Id} {grid resolved : CompositeGrid}
    (h : outcome (grid.resolve caller) = .ok resolved) : ∃ contributions remotes,
      gather (grid.remotes.map fun remote => outcome (remote.fetch caller)) = .ok (contributions, remotes) ∧
      ¬(grid.remotes.any (·.isApplicable) && contributions.isEmpty) = true ∧
      { grid with primary := contributions.foldl restrict grid.primary, remotes } = resolved := by
  rw [outcome_resolve] at h
  exact resolved_eq_ok.mp h

theorem remotes_of_resolve {caller : Caller Id} {grid resolved : CompositeGrid}
    (h : outcome (grid.resolve caller) = .ok resolved) :
    List.Forall₂ (fun remote next => next.definition = remote.definition ∧ next.table = remote.table)
      grid.remotes resolved.remotes := by
  obtain ⟨contributions, remotes, hgather, -, rfl⟩ := gather_of_resolve h
  exact remotes_of_gather hgather

theorem resolve_eq_ok {caller : Caller Id} {grid resolved : CompositeGrid}
    (h : outcome (grid.resolve caller) = .ok resolved) : ∃ found, Resolved caller grid resolved found := by
  obtain ⟨contributions, remotes, hgather, some, rfl⟩ := gather_of_resolve h
  obtain ⟨found, hremotes, answers, exact, filters, queries, real⟩ := gather_eq_ok hgather
  refine ⟨found, hremotes, answers, exact, fun ⟨remote, hremote, applicable⟩ => ?_, ?_⟩
  · intro none
    obtain ⟨noFilters, noQueries⟩ := List.append_eq_nil_iff.mp none
    rw [← filters, List.flatMap_eq_nil_iff] at noFilters
    rw [← queries, List.flatMap_eq_nil_iff] at noQueries
    have asked : grid.remotes.any (·.isApplicable) = true := List.any_eq_true.mpr ⟨remote, hremote, applicable⟩
    rw [asked, Bool.true_and, List.isEmpty_iff] at some
    obtain ⟨entry, hentry⟩ := List.exists_mem_of_ne_nil _ some
    exact real entry hentry (by rw [noFilters entry hentry, noQueries entry hentry]; rfl)
  · rw [← filters, ← queries, ← foldl_restrict]

end CompositeGrid

end DataGrid
