-- SUMMARY: The effects of resolving a remote, of fetching a page, and of asking for records to merge.
import DataGrid.Proofs.Effects
import DataGrid.Grid.Collection
import DataGrid.Remote.Grid

/-!
# Traces

What a remote is asked, and what a store is asked for a page, is a relation between
the result of a step and its effects, with one case for each way the step may end.
Every recorded run of the step is in this relation.
-/

namespace DataGrid

variable {m : Type → Type} [Monad m] [LawfulMonad m]


/-! ## Remotes -/

namespace RemoteGrid

/-- A remote has been sent a body. -/
def asked (remote : RemoteGrid) (body : Request) (answer : Result Reply) : Effect :=
  .call ⟨remote.definition.address, body.toJson, remote.header⟩ answer

/-- The records in the answer of a remote. -/
def reading (remote : RemoteGrid) : Result Reply → Result (List Row)
  | .ok reply => reply.records.mapError .store
  | .error error => .error (unavailable remote.definition.address error)

/-- A call is one question, and its result is read off the answer. -/
theorem run_call (caller : Caller m) (remote : RemoteGrid) (body : Request) :
    (call caller remote body).run =
      remote.reading <$> (caller ⟨remote.definition.address, body.toJson, remote.header⟩).run := by
  unfold call
  rw [ExceptT.run_bind, ExceptT.run_adapt, bind_map_left, map_eq_pure_bind]
  refine congrArg _ (funext fun answer => ?_)
  cases answer with
  | error error => rfl
  | ok reply =>
    simp only [Except.mapError, reading]
    cases reply.records <;> rfl

theorem records_call (caller : Caller m) (remote : RemoteGrid) (body : Request) :
    Records (fun records effects => ∃ answer, records = remote.reading answer ∧ effects = [remote.asked body answer])
      (call caller.recorded remote body).run (call caller remote body).run := by
  rw [run_call, run_call]
  refine (Records.noted _ _).map fun answer effects noted => ?_
  exact ⟨answer, rfl, noted⟩

/-- Calls are made one after the other, up to the first that fails. -/
inductive Asks (remote : RemoteGrid) :
    List (CallShape × Request) → Result (List (CallShape × List Row)) → List Effect → Prop
  | done : Asks remote [] (.ok []) []
  | failed {shape body rest answer error} (failure : remote.reading answer = .error error) :
    Asks remote ((shape, body) :: rest) (.error error) [remote.asked body answer]
  | next {shape body rest answer records replies effects} (success : remote.reading answer = .ok records)
    (others : Asks remote rest replies effects) :
    Asks remote ((shape, body) :: rest) (replies.map ((shape, records) :: ·)) (remote.asked body answer :: effects)

/-- The answers tell the result. -/
theorem Asks.unique {remote : RemoteGrid} {calls : List (CallShape × Request)}
    {replies replies' : Result (List (CallShape × List Row))} {effects : List Effect}
    (h : remote.Asks calls replies effects) (h' : remote.Asks calls replies' effects) : replies = replies' := by
  induction h generalizing replies' with
  | done =>
    cases h'
    rfl
  | failed failure =>
    cases h' with
    | failed failure' => exact congrArg Except.error (Except.error.inj (failure.symm.trans failure'))
    | next success => exact nomatch failure.symm.trans success
  | next success _ ih =>
    cases h' with
    | failed failure => exact nomatch failure.symm.trans success
    | next success' others =>
      obtain rfl := Except.ok.inj (success.symm.trans success')
      rw [ih others]

theorem records_callAll (caller : Caller m) (remote : RemoteGrid) (calls : List (CallShape × Request)) :
    Records (Asks remote calls) (callAll caller.recorded remote calls).run (callAll caller remote calls).run := by
  induction calls with
  | nil => exact .pure .done
  | cons c rest ih =>
    obtain ⟨shape, body⟩ := c
    apply (records_call caller remote body).bindExcept
    · rintro records _ ⟨answer, success, rfl⟩
      apply ih.bindExcept
      · intro replies effects others
        exact .stop (Asks.next success.symm others)
      · intro error effects others
        exact .next success.symm others
    · rintro error _ ⟨answer, failure, rfl⟩
      exact .failed failure.symm

/-- The outcome of resolving a remote, with its effects: nothing is asked of a remote whose share is bad or empty. -/
inductive Resolves (remote : RemoteGrid) :
    Result (List (CallShape × Contribution) × RemoteGrid) → List Effect → Prop
  | refused (complaints : remote.complaints ≠ []) : Resolves remote (.error (.rejected remote.complaints)) []
  | idle (quiet : remote.complaints = []) (none : remote.rendered.calls = []) : Resolves remote (.ok ([], remote)) []
  | asked {replies effects} (quiet : remote.complaints = []) (some : remote.rendered.calls ≠ [])
    (asks : remote.Asks remote.rendered.calls replies effects) :
    Resolves remote (replies.map fun replies =>
      (replies.map fun (shape, records) => (shape, .ofKeys shape (remote.keysOf records)), remote.takeRecords replies))
      effects

theorem records_fetch (caller : Caller m) (remote : RemoteGrid) :
    Records (Resolves remote) (remote.fetch caller.recorded).run (remote.fetch caller).run := by
  unfold fetch
  split
  · next bad => exact .pure (.refused (by simpa using bad))
  · next good =>
    have quiet : remote.complaints = [] := by simpa using good
    split
    · next none => exact .pure (.idle quiet none)
    · next some =>
      apply (records_callAll caller remote _).bindExcept
      · intro replies effects asks
        exact .stop (.asked quiet some asks)
      · intro error effects asks
        exact .asked quiet some asks

theorem Resolves.unique {remote : RemoteGrid} {outcome outcome' : Result (List (CallShape × Contribution) × RemoteGrid)}
    {effects : List Effect} (h : remote.Resolves outcome effects) (h' : remote.Resolves outcome' effects) :
    outcome = outcome' := by
  cases h with
  | refused complaints =>
    cases h' with
    | refused => rfl
    | idle quiet => exact absurd quiet complaints
    | asked quiet => exact absurd quiet complaints
  | idle quiet none =>
    cases h' with
    | refused complaints => exact absurd quiet complaints
    | idle => rfl
    | asked _ some => exact absurd none some
  | asked quiet some asks =>
    cases h' with
    | refused complaints => exact absurd quiet complaints
    | idle _ none => exact absurd none some
    | asked _ _ asks' => rw [asks.unique asks']

/-- The records to merge with their effects: nothing is asked if there are no keys, or if the records at hand suffice. -/
inductive Merges (remote : RemoteGrid) (rows : List Row) : Result MergeData → List Effect → Prop
  | unneeded (none : Join.keys rows remote.definition.primaryKey = []) : Merges remote rows (.ok []) []
  | held {records} (some : Join.keys rows remote.definition.primaryKey ≠ [])
    (covering : remote.covering? ((Join.keys rows remote.definition.primaryKey).map Json.keyText) = .some records) :
    Merges remote rows
      (.ok (remote.mergeDataOf ((Join.keys rows remote.definition.primaryKey).map Json.keyText) records)) []
  | asked (answer) (some : Join.keys rows remote.definition.primaryKey ≠ [])
    (missing : remote.covering? ((Join.keys rows remote.definition.primaryKey).map Json.keyText) = none) :
    Merges remote rows
      ((remote.reading answer).map
        (remote.mergeDataOf ((Join.keys rows remote.definition.primaryKey).map Json.keyText)))
      [remote.asked (remote.mergeRequest (Join.keys rows remote.definition.primaryKey)) answer]

theorem records_mergeData (caller : Caller m) (remote : RemoteGrid) (rows : List Row) :
    Records (Merges remote rows) (remote.mergeData caller.recorded rows).run (remote.mergeData caller rows).run := by
  unfold mergeData
  split
  · next none => exact .pure (.unneeded none)
  · next some =>
    dsimp only
    split
    · next covering => exact .pure (.held some covering)
    · next missing =>
      apply (records_call caller remote _).bindExcept
      · rintro records _ ⟨answer, success, rfl⟩
        apply Records.stop
        simpa [← success, Except.map] using Merges.asked answer some missing
      · rintro error _ ⟨answer, failure, rfl⟩
        simpa [← failure, Except.map] using Merges.asked answer some missing

end RemoteGrid


/-! ## Pages -/

namespace Join

/-- Joins are expanded one after the other, up to the first that fails; one without ids asks nothing. -/
inductive Expands : List Field → List Row → Result (List Row) → List Effect → Prop
  | done {rows} : Expands [] rows (.ok rows) []
  | plain {field rest rows result effects} (none : field.join = none) (others : Expands rest rows result effects) :
    Expands (field :: rest) rows result effects
  | unneeded {field join rest rows result effects} (joins : field.join = some join)
    (none : keys rows field.column = []) (others : Expands rest rows result effects) :
    Expands (field :: rest) rows result effects
  | failed {field join rest rows error} (joins : field.join = some join) (some : keys rows field.column ≠ []) :
    Expands (field :: rest) rows (.error error)
      [.find join.model (selection join (keys rows field.column)) (.error error)]
  | next {field join rest rows records result effects} (joins : field.join = some join)
    (some : keys rows field.column ≠ [])
    (others : Expands rest (rows.map (expandRow field (index records join.keyColumn))) result effects) :
    Expands (field :: rest) rows result
      (.find join.model (selection join (keys rows field.column)) (.ok records) :: effects)

theorem Expands.unique {fields : List Field} {rows : List Row} {result result' : Result (List Row)}
    {effects : List Effect} (h : Expands fields rows result effects) (h' : Expands fields rows result' effects) :
    result = result' := by
  induction h generalizing result' with
  | done =>
    cases h'
    rfl
  | plain none _ ih =>
    cases h' with
    | plain _ others => exact ih others
    | unneeded joins => exact nomatch none.symm.trans joins
    | failed joins => exact nomatch none.symm.trans joins
    | next joins => exact nomatch none.symm.trans joins
  | unneeded joins none _ ih =>
    cases h' with
    | plain plain => exact nomatch plain.symm.trans joins
    | unneeded _ _ others => exact ih others
    | failed _ some => exact absurd none some
    | next _ some => exact absurd none some
  | failed joins some =>
    generalize hseen : [Effect.find _ _ _] = seen at h'
    cases h' with
    | plain plain => exact nomatch plain.symm.trans joins
    | unneeded _ none => exact absurd none some
    | failed => exact congrArg Except.error (Except.error.inj (Effect.find.inj (List.cons.inj hseen).1).2.2)
    | next => exact nomatch (Effect.find.inj (List.cons.inj hseen).1).2.2
  | next joins some _ ih =>
    generalize hseen : Effect.find _ _ _ :: _ = seen at h'
    cases h' with
    | plain plain => exact nomatch plain.symm.trans joins
    | unneeded _ none => exact absurd none some
    | failed => exact nomatch (Effect.find.inj (List.cons.inj hseen).1).2.2
    | next joins' _ others =>
      obtain rfl := Option.some.inj (joins.symm.trans joins')
      obtain ⟨same, rfl⟩ := List.cons.inj hseen
      obtain rfl := Except.ok.inj (Effect.find.inj same).2.2
      exact ih others

theorem records_expandAll (store : Store m) (fields : List Field) (rows : List Row) :
    Records (Expands fields rows) (expandAll store.recorded fields rows).run (expandAll store fields rows).run := by
  induction fields generalizing rows with
  | nil => exact .pure .done
  | cons field rest ih =>
    unfold expandAll
    split
    · next join joins =>
      unfold expand
      split
      · next none =>
        rw [pure_bind, pure_bind]
        exact (ih rows).mono fun result effects others => .unneeded joins none others
      · next some =>
        rw [bind_assoc, bind_assoc]
        apply (Records.noted _ _).bindExcept
        · rintro records _ rfl
          rw [pure_bind, pure_bind]
          exact (ih _).mono fun result effects others => .next joins some others
        · rintro error _ rfl
          exact .failed joins some
    · next plain => exact (ih rows).mono fun result effects others => .plain plain others

end Join

namespace CollectionGrid

/-- The rows that are found for a page, cut to its size. -/
def taken (grid : CollectionGrid) (found : List Row) : List Row :=
  found.take grid.plan.pagination.limit

/-- The page of some expanded rows, for a total and the rows that have been found. -/
def paged (grid : CollectionGrid) (total : Nat) (found expanded : List Row) : Page where
  rows := expanded
  pagination := { grid.plan.pagination with total := max total (grid.taken found).length }

/-- Whether a page may be asked for. -/
def Ready (grid : CollectionGrid) : Prop :=
  grid.fetched = false ∧ grid.plan.rejection? = none

/-- A page with its effects: it is counted, found, and its joins are expanded, up to the first failure. -/
inductive Reads (grid : CollectionGrid) : Result Page → List Effect → Prop
  | again (fetched : grid.fetched = true) : Reads grid (.error (.phase (.alreadyFetched grid.collection))) []
  | refused {error} (fresh : grid.fetched = false) (rejection : grid.plan.rejection? = some error) :
    Reads grid (.error error) []
  | uncounted {error} (ready : grid.Ready) :
    Reads grid (.error error) [.count grid.collection grid.plan.predicate (.error error)]
  | unfound {total error} (ready : grid.Ready) :
    Reads grid (.error error)
      [.count grid.collection grid.plan.predicate (.ok total), .find grid.collection grid.selection (.error error)]
  | found {total found result effects} (ready : grid.Ready)
    (expands : Join.Expands grid.plan.table.shown (grid.taken found) result effects) :
    Reads grid (result.map (grid.paged total found))
      (.count grid.collection grid.plan.predicate (.ok total) ::
        .find grid.collection grid.selection (.ok found) :: effects)

theorem Reads.unique {grid : CollectionGrid} {page page' : Result Page} {effects : List Effect}
    (h : grid.Reads page effects) (h' : grid.Reads page' effects) : page = page' := by
  cases h with
  | again fetched =>
    cases h' with
    | again => rfl
    | refused fresh => exact nomatch fresh.symm.trans fetched
  | refused fresh rejection =>
    cases h' with
    | again fetched => exact nomatch fresh.symm.trans fetched
    | refused _ rejection' => exact congrArg Except.error (Option.some.inj (rejection.symm.trans rejection'))
  | uncounted =>
    cases h'
    rfl
  | unfound =>
    cases h'
    rfl
  | found _ expands =>
    cases h' with
    | found _ expands' => rw [expands.unique expands']

theorem records_fetch (store : Store m) (grid : CollectionGrid) :
    Records (Reads grid) (grid.fetch store.recorded).run (grid.fetch store).run := by
  unfold fetch
  split
  · next fetched => exact .pure (.again fetched)
  · next unfetched =>
    have fresh : grid.fetched = false := by simpa using unfetched
    split
    · next rejection => exact .pure (.refused fresh rejection)
    · next valid =>
      have ready : grid.Ready := ⟨fresh, valid⟩
      unfold page
      apply (Records.noted _ _).bindExcept
      · rintro total _ rfl
        apply (Records.noted _ _).bindExcept
        · rintro found _ rfl
          apply (Join.records_expandAll store _ _).bindExcept
          · intro rows effects expands
            exact .stop (Reads.found ready expands)
          · intro error effects expands
            exact .found ready expands
        · rintro error _ rfl
          exact .unfound ready
      · rintro error _ rfl
        exact .uncounted ready

end CollectionGrid

end DataGrid
