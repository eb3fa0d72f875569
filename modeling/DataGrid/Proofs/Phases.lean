-- SUMMARY: The order of the effects of a composite grid, over any sequence of fetches.
import DataGrid.Proofs.CompositeRun
import DataGrid.Proofs.Traces

/-!
# Phases

A fetch of a composite grid first asks the remotes to resolve the request, then the
store for the page, then the remotes for the records to merge. It ends in one of
five ways, and a phase begins only if those before it have succeeded. Whichever way
it ends, the grid is done, and fetching it again asks nobody anything.
-/

namespace DataGrid

namespace Rendered

theorem length_calls (r : Rendered) : r.calls.length ≤ 2 := by
  obtain ⟨exact, freeText, complaints⟩ := r
  cases exact <;> cases freeText <;> simp [calls]

theorem calls_eq_nil {r : Rendered} : r.calls = [] ↔ r.isEmpty = true := by
  obtain ⟨exact, freeText, complaints⟩ := r
  cases exact <;> cases freeText <;> simp [calls, isEmpty]

end Rendered

namespace RemoteGrid

/-- A remote as it is known to callers: where it is, and what it is sent along with a body. -/
def SameCallee (remote next : RemoteGrid) : Prop :=
  next.definition.address = remote.definition.address ∧ next.header = remote.header

/-- The calls that resolve a remote's share: at most two of those it has been rendered, and none if there is nothing to
resolve. -/
structure AskedToResolve (remote : RemoteGrid) (effects : List Effect) : Prop where
  few : effects.length ≤ 2
  needed : remote.isApplicable = false → effects = []
  calls : ∀ e ∈ effects, ∃ c ∈ remote.rendered.calls, ∃ answer, e = remote.asked c.2 answer

/-- The calls that bring in a remote's records to merge: at most one. -/
structure AskedToMerge (remote : RemoteGrid) (effects : List Effect) : Prop where
  few : effects.length ≤ 1
  calls : ∀ e ∈ effects, ∃ body answer, e = remote.asked body answer

theorem askedToResolve_nil (remote : RemoteGrid) : remote.AskedToResolve [] where
  few := Nat.zero_le _
  needed _ := rfl
  calls := List.forall_mem_nil _

theorem askedToMerge_nil (remote : RemoteGrid) : remote.AskedToMerge [] where
  few := Nat.zero_le _
  calls := List.forall_mem_nil _

variable {remote : RemoteGrid}

/-- Of some calls, each is made at most once. -/
theorem Asks.calls {calls : List (CallShape × Request)} {replies : Result (List (CallShape × List Row))}
    {effects : List Effect} (h : remote.Asks calls replies effects) :
    effects.length ≤ calls.length ∧ ∀ e ∈ effects, ∃ c ∈ calls, ∃ answer, e = remote.asked c.2 answer := by
  induction h with
  | done => exact ⟨Nat.le_refl _, List.forall_mem_nil _⟩
  | @failed shape body rest answer _ _ =>
    refine ⟨by simp, fun e he => ?_⟩
    exact ⟨(shape, body), List.mem_cons_self, answer, List.mem_singleton.mp he⟩
  | @next shape body rest answer _ _ _ _ _ ih =>
    refine ⟨Nat.succ_le_succ ih.1, List.forall_mem_cons.mpr ⟨⟨(shape, body), List.mem_cons_self, answer, rfl⟩, ?_⟩⟩
    intro e he
    obtain ⟨c, hc, same⟩ := ih.2 e he
    exact ⟨c, List.mem_cons_of_mem _ hc, same⟩

theorem Resolves.asked_to {outcome : CompositeGrid.Outcome} {effects : List Effect}
    (h : remote.Resolves outcome effects) : remote.AskedToResolve effects := by
  cases h with
  | refused => exact remote.askedToResolve_nil
  | idle => exact remote.askedToResolve_nil
  | asked _ some asks =>
    obtain ⟨few, calls⟩ := asks.calls
    refine ⟨Nat.le_trans few remote.rendered.length_calls, fun idle => absurd ?_ some, calls⟩
    exact Rendered.calls_eq_nil.mpr (by simpa [isApplicable] using idle)

/-- Resolving does not change whom to call. -/
theorem Resolves.sameCallee {parts : List (CallShape × Contribution)} {next : RemoteGrid} {effects : List Effect}
    (h : remote.Resolves (.ok (parts, next)) effects) : remote.SameCallee next := by
  generalize houtcome : (Except.ok (parts, next) : CompositeGrid.Outcome) = outcome at h
  cases h with
  | refused => cases houtcome
  | idle =>
    obtain ⟨-, rfl⟩ := Prod.mk.inj (Except.ok.inj houtcome)
    exact ⟨rfl, rfl⟩
  | @asked replies _ _ _ _ =>
    obtain ⟨replies, -, heq⟩ := Outcome.map_eq_ok.mp houtcome.symm
    obtain ⟨-, rfl⟩ := Prod.mk.inj heq
    exact ⟨rfl, rfl⟩

theorem Merges.asked_to {rows : List Row} {data : Result MergeData} {effects : List Effect}
    (h : remote.Merges rows data effects) : remote.AskedToMerge effects := by
  cases h with
  | unneeded => exact remote.askedToMerge_nil
  | held => exact remote.askedToMerge_nil
  | asked => exact ⟨Nat.le_refl _, fun e he => ⟨_, _, List.mem_singleton.mp he⟩⟩

theorem SameCallee.askedToMerge {next : RemoteGrid} (same : remote.SameCallee next) {effects : List Effect}
    (h : next.AskedToMerge effects) : remote.AskedToMerge effects := by
  refine ⟨h.few, fun e he => ?_⟩
  obtain ⟨body, answer, rfl⟩ := h.calls e he
  exact ⟨body, answer, by rw [asked, asked, same.1, same.2]⟩

end RemoteGrid


/-! ## Pages ask stores only -/

theorem Join.Expands.isAccess {fields : List Field} {rows : List Row} {result : Result (List Row)}
    {effects : List Effect} (h : Join.Expands fields rows result effects) : ∀ e ∈ effects, e.isAccess = true := by
  induction h with
  | done => exact List.forall_mem_nil _
  | plain _ _ ih => exact ih
  | unneeded _ _ _ ih => exact ih
  | failed => exact List.forall_mem_singleton.mpr rfl
  | next _ _ _ ih => exact List.forall_mem_cons.mpr ⟨rfl, ih⟩

theorem CollectionGrid.Reads.isAccess {grid : CollectionGrid} {page : Result Page} {effects : List Effect}
    (h : grid.Reads page effects) : ∀ e ∈ effects, e.isAccess = true := by
  cases h with
  | again => exact List.forall_mem_nil _
  | refused => exact List.forall_mem_nil _
  | uncounted => exact List.forall_mem_singleton.mpr rfl
  | unfound => exact List.forall_mem_cons.mpr ⟨rfl, List.forall_mem_singleton.mpr rfl⟩
  | found _ expands =>
    exact List.forall_mem_cons.mpr ⟨rfl, List.forall_mem_cons.mpr ⟨rfl, expands.isAccess⟩⟩

namespace CompositeGrid

variable {m : Type → Type} [Monad m] [LawfulMonad m]


/-! ## One fetch -/

/-- What resolving all remotes comes to, with what each of them has been asked. -/
def Resolves (grid : CompositeGrid) (result : Result CompositeGrid) (asked : List (List Effect)) : Prop :=
  ∃ parts : List (Outcome × List Effect),
    List.Forall₂ (fun remote part => remote.Resolves part.1 part.2) grid.remotes parts ∧
      result = grid.resolved (parts.map (·.1)) ∧ asked = parts.map (·.2)

/-- The answers of the remotes tell what resolving comes to. -/
theorem Resolves.unique {grid : CompositeGrid} {result result' : Result CompositeGrid} {asked : List (List Effect)}
    (h : grid.Resolves result asked) (h' : grid.Resolves result' asked) : result = result' := by
  obtain ⟨parts, hparts, rfl, rfl⟩ := h
  obtain ⟨parts', hparts', rfl, same⟩ := h'
  refine congrArg grid.resolved ?_
  generalize grid.remotes = remotes at hparts hparts'
  induction hparts generalizing parts' with
  | nil =>
    cases hparts'
    rfl
  | cons resolves _ ih =>
    cases hparts' with
    | cons resolves' others =>
      obtain ⟨effects, same⟩ := List.cons.inj same
      dsimp only at effects
      rw [effects] at resolves
      exact congrArg₂ List.cons (resolves.unique resolves') (ih _ same others)

/-- What the remotes have to merge into some rows, with what each of them has been asked. -/
def Merges (grid : CompositeGrid) (rows : List Row) (merges : List (RemoteGrid × Result MergeData))
    (asked : List (List Effect)) : Prop :=
  ∃ parts : List ((RemoteGrid × Result MergeData) × List Effect),
    List.Forall₂ (fun remote part => part.1.1 = remote ∧ remote.Merges rows part.1.2 part.2) grid.remotes parts ∧
      merges = parts.map (·.1) ∧ asked = parts.map (·.2)

/-- The grid after a fetch that has got to its page. -/
def finished (grid : CompositeGrid) : CompositeGrid :=
  { grid with primary := grid.primary.spent }.enter .done

/-- One fetch with its effects: a grid that has run does nothing, and one that runs has one of five exits, each of which
leaves it done. -/
inductive Steps (version : String) (grid : CompositeGrid) : Result Envelope × CompositeGrid → List Effect → Prop
  | again (run : grid.phase ≠ .init) : Steps version grid (.error (.phase (.alreadyRun grid.phase.text)), grid) []
  | rejected (fresh : grid.phase = .init) (bad : grid.complaints ≠ []) :
    Steps version grid (.error (.rejected grid.complaints), grid.enter .done) []
  | unresolved {error asked} (fresh : grid.phase = .init) (quiet : grid.complaints = [])
    (resolves : grid.Resolves (.error error) asked) :
    Steps version grid (.error error, grid.enter .done) asked.flatten
  | unread {resolved error asked accessed} (fresh : grid.phase = .init) (quiet : grid.complaints = [])
    (resolves : grid.Resolves (.ok resolved) asked) (reads : resolved.primary.Reads (.error error) accessed) :
    Steps version grid (.error error, resolved.finished) (asked.flatten ++ accessed)
  | answered {resolved page merges asked accessed merged} (fresh : grid.phase = .init) (quiet : grid.complaints = [])
    (resolves : grid.Resolves (.ok resolved) asked) (reads : resolved.primary.Reads (.ok page) accessed)
    (joins : resolved.Merges page.rows merges merged) :
    Steps version grid (.ok (resolved.envelope version (mergeAll page.rows merges) page.pagination), resolved.finished)
      (asked.flatten ++ (accessed ++ merged.flatten))

/-- The phase has no part in resolving. -/
theorem resolved_enter (grid : CompositeGrid) (phase : Phase) (outcomes : List Outcome) :
    (grid.enter phase).resolved outcomes = (grid.resolved outcomes).map (·.enter phase) := by
  unfold resolved
  cases gather outcomes with
  | error error => rfl
  | ok gathered =>
    change (if grid.remotes.any (·.isApplicable) && gathered.1.isEmpty then _ else _) = Except.map _ (if _ then _ else _)
    split <;> rfl

theorem records_resolve (caller : Caller m) (grid : CompositeGrid) :
    Records (fun result effects => ∃ asked, grid.Resolves result asked ∧ effects = asked.flatten)
      (grid.resolve caller.recorded).run (grid.resolve caller).run := by
  unfold resolve
  rw [ExceptT.run_bind_lift, ExceptT.run_bind_lift]
  apply (Records.mapM (fun remote => remote.records_fetch caller) grid.remotes).bind
  rintro _ _ ⟨parts, hparts, rfl, rfl⟩
  apply Records.pure
  rw [List.append_nil]
  exact ⟨parts.map (·.2), ⟨parts, hparts, rfl, rfl⟩, List.flatMap_def ..⟩

/-- The phase in which the remotes are resolved, if there are any. -/
def resolutionPhase (grid : CompositeGrid) : Phase :=
  if grid.remotes.isEmpty then grid.phase else .secondaryResolution

/-- Resolving as a phase is resolving, apart from the phase that the grid is left in. -/
theorem resolvePhase_eq (caller : Caller m) (grid : CompositeGrid) :
    resolvePhase caller grid = (·.map (·.enter grid.resolutionPhase)) <$> (grid.resolve caller).run := by
  unfold resolvePhase resolutionPhase
  split
  · next empty =>
    rw [run_resolve_of_alone caller (List.isEmpty_iff.mp empty), map_pure]
    rfl
  · unfold resolve
    rw [ExceptT.run_bind_lift, ExceptT.run_bind_lift, map_bind]
    refine congrArg _ (funext fun outcomes => ?_)
    change Pure.pure ((grid.enter _).resolved outcomes) = _ <$> Pure.pure (grid.resolved outcomes)
    rw [resolved_enter, map_pure]

theorem records_resolvePhase (caller : Caller m) (grid : CompositeGrid) :
    Records (fun result effects => ∃ reached asked, grid.Resolves reached asked ∧
        result = reached.map (·.enter grid.resolutionPhase) ∧ effects = asked.flatten)
      (resolvePhase caller.recorded grid) (resolvePhase caller grid) := by
  rw [resolvePhase_eq, resolvePhase_eq]
  apply (records_resolve caller grid).map
  rintro reached _ ⟨asked, resolves, rfl⟩
  exact ⟨reached, asked, resolves, rfl, rfl⟩

theorem records_askMerges (caller : Caller m) (rows : List Row) (grid : CompositeGrid) :
    Records (fun merges effects => ∃ asked, grid.Merges rows merges asked ∧ effects = asked.flatten)
      (askMerges caller.recorded rows grid.remotes) (askMerges caller rows grid.remotes) := by
  refine (Records.mapM (R := fun remote merge => fun effects => merge.1 = remote ∧ remote.Merges rows merge.2 effects)
    (fun remote => ?_) grid.remotes).mono ?_
  · apply (remote.records_mergeData caller rows).bind
    intro data effects merges
    apply Records.pure
    rw [List.append_nil]
    exact ⟨rfl, merges⟩
  · rintro _ _ ⟨parts, hparts, rfl, rfl⟩
    exact ⟨_, ⟨parts, hparts, rfl, rfl⟩, List.flatMap_def ..⟩

theorem records_step (store : Store m) (caller : Caller m) (version : String) (grid : CompositeGrid) :
    Records (Steps version grid) (grid.step store.recorded caller.recorded version) (grid.step store caller version) := by
  unfold step
  split
  · next run => exact .pure (.again run)
  · next unrun =>
    have fresh : grid.phase = .init := Decidable.not_not.mp unrun
    split
    · next bad => exact .pure (.rejected fresh (by simpa using bad))
    · next good =>
      have quiet : grid.complaints = [] := by simpa using good
      apply (records_resolvePhase caller grid).bind
      rintro _ _ ⟨reached, asked, resolves, rfl, rfl⟩
      cases reached with
      | error error =>
        apply Records.pure
        rw [List.append_nil]
        exact .unresolved fresh quiet resolves
      | ok resolved =>
        apply (resolved.primary.records_fetch store).bind
        intro page accessed reads
        cases page with
        | error error =>
          have unread : Steps version grid (.error error, resolved.finished) _ := .unread fresh quiet resolves reads
          apply Records.pure
          rw [List.append_nil]
          exact unread
        | ok page =>
          apply (records_askMerges caller page.rows resolved).bind
          rintro merges _ ⟨merged, joins, rfl⟩
          have answered : Steps version grid (_, resolved.finished) _ := .answered fresh quiet resolves reads joins
          apply Records.pure
          rw [List.append_nil]
          exact answered

/-- What comes of a fetch, phase by phase, is what comes of the fetch as a whole. -/
theorem fst_step (store : Store m) (caller : Caller m) (version : String) (grid : CompositeGrid) :
    (·.1) <$> grid.step store caller version = (grid.fetch store caller version).run := by
  unfold step fetch
  split
  · next run =>
    split
    · next fresh => exact absurd fresh run
    · exact map_pure _ _
  · next unrun =>
    have fresh : grid.phase = .init := Decidable.not_not.mp unrun
    rw [fresh]
    dsimp only
    unfold run
    split
    · dsimp only
      rw [ExceptT.run_bind, ExceptT.run_throw, pure_bind, map_pure]
    · dsimp only
      rw [resolvePhase_eq, bind_map_left, map_bind, ExceptT.run_bind]
      refine congrArg _ (funext fun result => ?_)
      cases result with
      | error error => exact map_pure _ _
      | ok resolved =>
        dsimp only [Except.map]
        rw [map_bind, ExceptT.run_bind]
        refine congrArg _ (funext fun page => ?_)
        cases page with
        | error error => exact map_pure _ _
        | ok page =>
          dsimp only
          rw [map_bind, ExceptT.run_bind_lift]
          exact congrArg _ (funext fun merges => map_pure _ _)


/-! ## Order -/

/-- The effects of a fetch: what each remote is asked to resolve, what the store is asked, and what each remote is asked
to merge. Complaints keep everyone from being asked, the store is asked only once the remotes have been resolved, and
nothing is merged unless there is a page. -/
structure InOrder (grid : CompositeGrid) (asked : List (List Effect)) (accessed : List Effect)
    (merged : List (List Effect)) : Prop where
  silent : grid.complaints ≠ [] → asked.flatten ++ (accessed ++ merged.flatten) = []
  resolving : List.Forall₂ RemoteGrid.AskedToResolve grid.remotes asked
  reading : ∀ e ∈ accessed, e.isAccess = true
  resolved : accessed ≠ [] → ∃ resolved, grid.Resolves (.ok resolved) asked
  merging : List.Forall₂ RemoteGrid.AskedToMerge grid.remotes merged
  read : merged.flatten ≠ [] → ∃ resolved page, grid.Resolves (.ok resolved) asked ∧
    resolved.primary.Reads (.ok page) accessed

section

variable {grid resolved : CompositeGrid} {asked merged : List (List Effect)} {accessed : List Effect}

/-- Where resolving fails, the store is not asked. -/
theorem InOrder.accessed_eq_nil (h : InOrder grid asked accessed merged) {error : GridError}
    (failure : grid.Resolves (.error error) asked) : accessed = [] := by
  by_contra some
  obtain ⟨resolved, resolves⟩ := h.resolved some
  exact nomatch failure.unique resolves

/-- Where the page cannot be read, nothing is merged. -/
theorem InOrder.merged_eq_nil (h : InOrder grid asked accessed merged) (resolves : grid.Resolves (.ok resolved) asked)
    {error : GridError} (failure : resolved.primary.Reads (.error error) accessed) : merged.flatten = [] := by
  by_contra some
  obtain ⟨resolved', page, resolves', reads⟩ := h.read some
  obtain rfl := Except.ok.inj (resolves.unique resolves')
  exact nomatch failure.unique reads

end

/-- Related lists whose elements are related in turn. -/
private theorem forall₂_trans {α β γ : Type} {R : α → β → Prop} {S : β → γ → Prop} {T : α → γ → Prop}
    (h : ∀ a b c, R a b → S b c → T a c) {left : List α} {middle : List β} {right : List γ}
    (hleft : List.Forall₂ R left middle) (hright : List.Forall₂ S middle right) : List.Forall₂ T left right := by
  induction hleft generalizing right with
  | nil =>
    cases hright
    exact .nil
  | cons hab _ ih =>
    cases hright with
    | cons hbc others => exact .cons (h _ _ _ hab hbc) (ih others)

/-- The grids that are gathered are those of the outcomes. -/
theorem forall₂_of_gather {outcomes : List Outcome} {contributions : List (String × Contribution)}
    {remotes : List RemoteGrid} (h : gather outcomes = .ok (contributions, remotes)) :
    List.Forall₂ (fun outcome next => ∃ parts, outcome = .ok (parts, next)) outcomes remotes := by
  induction outcomes generalizing contributions remotes with
  | nil =>
    obtain ⟨-, rfl⟩ := Prod.mk.inj (Except.ok.inj h)
    exact .nil
  | cons outcome rest ih =>
    simp only [gather, Outcome.bind_eq_ok, Outcome.pure_eq_ok] at h
    obtain ⟨⟨parts, next⟩, hnext, first, -, ⟨others, grids⟩, hothers, heq⟩ := h
    obtain ⟨-, rfl⟩ := Prod.mk.inj heq
    exact .cons ⟨parts, hnext⟩ (ih hothers)

section

variable {grid resolved : CompositeGrid} {asked : List (List Effect)}

theorem Resolves.asked_to {result : Result CompositeGrid} (h : grid.Resolves result asked) :
    List.Forall₂ RemoteGrid.AskedToResolve grid.remotes asked := by
  obtain ⟨parts, hparts, -, rfl⟩ := h
  exact List.forall₂_map_right_iff.mpr (hparts.imp fun remote part resolves => resolves.asked_to)

/-- The remotes of a resolved grid are called like those of the grid. -/
theorem Resolves.sameCallees (h : grid.Resolves (.ok resolved) asked) :
    List.Forall₂ RemoteGrid.SameCallee grid.remotes resolved.remotes := by
  obtain ⟨parts, hparts, hresolved, -⟩ := h
  obtain ⟨contributions, remotes, hgather, -, rfl⟩ := resolved_eq_ok.mp hresolved.symm
  refine forall₂_trans ?_ hparts (List.forall₂_map_left_iff.mp (forall₂_of_gather hgather))
  rintro remote ⟨_, effects⟩ next resolves ⟨parts, rfl⟩
  exact resolves.sameCallee

theorem Merges.asked_to {rows : List Row} {merges : List (RemoteGrid × Result MergeData)} {merged : List (List Effect)}
    (h : grid.Merges rows merges merged) : List.Forall₂ RemoteGrid.AskedToMerge grid.remotes merged := by
  obtain ⟨parts, hparts, -, rfl⟩ := h
  exact List.forall₂_map_right_iff.mpr (hparts.imp fun remote part merges => merges.2.asked_to)

end

/-- No remote is asked anything. -/
def silence (grid : CompositeGrid) : List (List Effect) :=
  grid.remotes.map fun _ => []

theorem flatten_silence (grid : CompositeGrid) : grid.silence.flatten = [] := by
  simp [silence]

theorem forall₂_silence {R : RemoteGrid → List Effect → Prop} (h : ∀ remote, R remote []) (grid : CompositeGrid) :
    List.Forall₂ R grid.remotes grid.silence :=
  List.forall₂_map_right_iff.mpr (List.forall₂_same.mpr fun remote _ => h remote)

section

variable {grid resolved : CompositeGrid} {asked merged : List (List Effect)} {accessed : List Effect}

/-- A fetch that merges nothing is in order if it asks the store only once the remotes have been resolved. -/
theorem inOrder_unmerged (quiet : grid.complaints = [])
    (resolving : List.Forall₂ RemoteGrid.AskedToResolve grid.remotes asked) (reading : ∀ e ∈ accessed, e.isAccess = true)
    (resolved : accessed ≠ [] → ∃ resolved, grid.Resolves (.ok resolved) asked) :
    InOrder grid asked accessed grid.silence where
  silent := absurd quiet
  resolving := resolving
  reading := reading
  resolved := resolved
  merging := grid.forall₂_silence RemoteGrid.askedToMerge_nil
  read := absurd grid.flatten_silence

/-- A fetch that gets to its page is in order. -/
theorem Resolves.inOrder_merged (resolves : grid.Resolves (.ok resolved) asked) (quiet : grid.complaints = [])
    {page : Page} (reads : resolved.primary.Reads (.ok page) accessed) {rows : List Row}
    {merges : List (RemoteGrid × Result MergeData)} (joins : resolved.Merges rows merges merged) :
    InOrder grid asked accessed merged where
  silent := absurd quiet
  resolving := resolves.asked_to
  reading := reads.isAccess
  resolved := fun _ => ⟨_, resolves⟩
  merging := forall₂_trans (fun _ _ _ same asks => same.askedToMerge asks) resolves.sameCallees joins.asked_to
  read := fun _ => ⟨_, _, resolves, reads⟩

end

/-- The first fetch of a grid keeps the order, and leaves the grid done whatever its outcome. -/
theorem Steps.inOrder {version : String} {grid : CompositeGrid} {result : Result Envelope × CompositeGrid}
    {effects : List Effect} (fresh : grid.phase = .init) (h : Steps version grid result effects) :
    result.2.phase = .done ∧ ∃ asked accessed merged,
      effects = asked.flatten ++ (accessed ++ merged.flatten) ∧ InOrder grid asked accessed merged := by
  have noMerges := grid.flatten_silence
  cases h with
  | again run => exact absurd fresh run
  | rejected _ bad =>
    have silent : grid.silence.flatten ++ ([] ++ grid.silence.flatten) = [] := by
      rw [noMerges]
      rfl
    refine ⟨rfl, grid.silence, [], grid.silence, silent.symm, ?_⟩
    exact {
      silent := fun _ => silent
      resolving := grid.forall₂_silence RemoteGrid.askedToResolve_nil
      reading := List.forall_mem_nil _
      resolved := absurd rfl
      merging := grid.forall₂_silence RemoteGrid.askedToMerge_nil
      read := absurd noMerges }
  | @unresolved _ asked _ quiet resolves =>
    refine ⟨rfl, asked, [], grid.silence, ?_, ?_⟩
    · rw [noMerges, List.append_nil, List.append_nil]
    · exact inOrder_unmerged quiet resolves.asked_to (List.forall_mem_nil _) (absurd rfl)
  | @unread _ _ asked accessed _ quiet resolves reads =>
    refine ⟨rfl, asked, accessed, grid.silence, ?_, ?_⟩
    · rw [noMerges, List.append_nil]
    · exact inOrder_unmerged quiet resolves.asked_to reads.isAccess fun _ => ⟨_, resolves⟩
  | @answered _ _ _ asked accessed merged _ quiet resolves reads joins =>
    exact ⟨rfl, asked, accessed, merged, rfl, resolves.inOrder_merged quiet reads joins⟩

/-- A grid that is done stays as it is and asks nobody anything. -/
theorem Steps.spent {version : String} {grid : CompositeGrid} {result : Result Envelope × CompositeGrid}
    {effects : List Effect} (done : grid.phase = .done) (h : Steps version grid result effects) :
    result = (.error (.phase (.alreadyRun Phase.done.text)), grid) ∧ effects = [] := by
  have run : grid.phase ≠ .init := fun fresh => nomatch done.symm.trans fresh
  cases h with
  | again => exact ⟨by rw [done], rfl⟩
  | rejected fresh => exact absurd fresh run
  | unresolved fresh => exact absurd fresh run
  | unread fresh => exact absurd fresh run
  | answered fresh => exact absurd fresh run


/-! ## Sequences of fetches -/

/-- What is seen of a fetch: its outcome, whom it has asked, and the phase that the grid is left in. -/
structure Fetch where
  outcome : Result Envelope
  effects : List Effect
  phase : Phase

/-- Fetch once and note the effects. -/
def observe (store : Store m) (caller : Caller m) (version : String) (grid : CompositeGrid) :
    m (Fetch × CompositeGrid) := do
  let ((outcome, next), effects) ← (grid.step store.recorded caller.recorded version).run []
  return ({ outcome, effects, phase := next.phase }, next)

/-- Fetch a number of times. -/
def session (store : Store m) (caller : Caller m) (version : String) : Nat → CompositeGrid → m (List Fetch)
  | 0, _ => pure []
  | count + 1, grid => do
    let (fetch, next) ← observe store caller version grid
    let later ← session store caller version count next
    return fetch :: later

/-- A fetch that has asked nobody anything. -/
structure Fetch.Refused (fetch : Fetch) : Prop where
  outcome_eq : fetch.outcome = .error (.phase (.alreadyRun Phase.done.text))
  effects_eq : fetch.effects = []
  phase_eq : fetch.phase = .done

/-- A first fetch, whatever its outcome: it takes one of the five exits, with the effects that lead there. -/
structure Fetch.First (version : String) (grid : CompositeGrid) (fetch : Fetch) : Prop where
  phase_eq : fetch.phase = .done
  exit : ∃ next, Steps version grid (fetch.outcome, next) fetch.effects
  inOrder : ∃ asked accessed merged,
    fetch.effects = asked.flatten ++ (accessed ++ merged.flatten) ∧ InOrder grid asked accessed merged

/-- What holds of all steps of a grid holds of what is seen of a fetch. -/
theorem observe_always (store : Store m) (caller : Caller m) (version : String) (grid : CompositeGrid) :
    Always (fun seen => Steps version grid (seen.1.outcome, seen.2) seen.1.effects ∧ seen.1.phase = seen.2.phase)
      (observe store caller version grid) := by
  refine ((records_step store caller version grid).always []).bind ?_
  rintro ⟨⟨outcome, next⟩, _⟩ ⟨effects, rfl, steps⟩
  exact .pure ⟨steps, rfl⟩

/-- Noting the effects of a fetch changes nothing. -/
theorem observe_fst (store : Store m) (caller : Caller m) (version : String) (grid : CompositeGrid) :
    (fun seen => (seen.1.outcome, seen.2)) <$> observe store caller version grid = grid.step store caller version := by
  rw [← (records_step store caller version grid).forget []]
  unfold observe
  rw [map_bind, map_eq_pure_bind]
  exact congrArg _ (funext fun seen => map_pure _ _)

/-- The outcome that is seen is that of the fetch. -/
theorem outcome_observe (store : Store m) (caller : Caller m) (version : String) (grid : CompositeGrid) :
    (fun seen => seen.1.outcome) <$> observe store caller version grid = (grid.fetch store caller version).run := by
  rw [← fst_step, ← observe_fst, Functor.map_map]

theorem session_spent (store : Store m) (caller : Caller m) (version : String) {grid : CompositeGrid}
    (done : grid.phase = .done) (count : Nat) :
    Always (fun fetches => fetches.length = count ∧ ∀ fetch ∈ fetches, fetch.Refused)
      (session store caller version count grid) := by
  induction count with
  | zero => exact .pure ⟨rfl, List.forall_mem_nil _⟩
  | succ count ih =>
    refine (observe_always store caller version grid).bind ?_
    rintro ⟨fetch, next⟩ ⟨steps, samePhase⟩
    obtain ⟨heq, silent⟩ := steps.spent done
    obtain ⟨outcome, rfl⟩ := Prod.mk.inj heq
    refine ih.bind ?_
    rintro later ⟨length, refused⟩
    exact .pure ⟨congrArg (· + 1) length, List.forall_mem_cons.mpr ⟨⟨outcome, silent, samePhase.trans done⟩, refused⟩⟩

/-- Of any number of fetches of a grid, the first asks in the order of the phases and leaves the grid done, and every
later one is refused without asking anyone. -/
theorem session_inOrder (store : Store m) (caller : Caller m) (version : String) {grid : CompositeGrid}
    (fresh : grid.phase = .init) (count : Nat) :
    Always (fun fetches => ∃ first later, fetches = first :: later ∧ later.length = count ∧
        first.First version grid ∧ ∀ fetch ∈ later, fetch.Refused)
      (session store caller version (count + 1) grid) := by
  refine (observe_always store caller version grid).bind ?_
  rintro ⟨fetch, next⟩ ⟨steps, samePhase⟩
  obtain ⟨done, inOrder⟩ := steps.inOrder fresh
  refine (session_spent store caller version done count).bind ?_
  rintro later ⟨length, refused⟩
  exact .pure ⟨fetch, later, rfl, length, ⟨samePhase.trans done, ⟨next, steps⟩, inOrder⟩, refused⟩

/-- The remote is asked for a customer in Oslo, then the store counts and finds; two more fetches ask no one. -/
theorem session_inOrder_orders : ∃ grid first later,
    ofJson (Orders.definition [("city", "city")]) .null (Orders.body [("city", .str "Oslo")]) = .ok grid ∧
    grid.phase = .init ∧ (session Orders.store.toStore Orders.caller "1" 3 grid).run = first :: later ∧
    first.effects.map Effect.isAccess = [false, true, true] ∧ later.length = 2 ∧ first.First "1" grid ∧
    ∀ fetch ∈ later, fetch.Refused := by
  have seen : (ofJson (Orders.definition [("city", "city")]) .null (Orders.body [("city", .str "Oslo")])).toOption.any
      (fun grid => decide (grid.phase = .init) &&
        decide (((session Orders.store.toStore Orders.caller "1" 3 grid).run.map (·.effects.map Effect.isAccess)).head? =
          some [false, true, true])) = true := by decide +kernel
  obtain ⟨grid, made, seen⟩ := (Option.any_eq_true _ _).mp seen
  obtain ⟨fresh, seen⟩ := Bool.and_eq_true_iff.mp seen
  have ordered := session_inOrder Orders.store.toStore Orders.caller "1" (of_decide_eq_true fresh) 2
  obtain ⟨first, later, heq, length, hfirst, refused⟩ := always_id.mp ordered
  have effects := of_decide_eq_true seen
  rw [heq, List.map_cons, List.head?_cons] at effects
  exact ⟨grid, first, later, Outcome.toOption_eq_some.mp made, of_decide_eq_true fresh, heq, Option.some.inj effects,
    length, hfirst, refused⟩

end CompositeGrid

end DataGrid
