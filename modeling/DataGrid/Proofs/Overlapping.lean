-- SUMMARY: A fetch whose questions overlap: both calls of a remote at once, all remotes at once, count and find at once.
import DataGrid.Proofs.Sql.Questions

/-!
# Overlapping questions

Questions that do not wait for each other may be on their way at once: the calls of one
remote, those of several remotes, and the count and the find of a page. They are put in
their order, and each has an answer, even where nobody waits for it any more because a
question beside it has failed. Questions in turn are one way for this to go. Whichever way
it goes, the phases keep their order, a fetch that answers gives the answer of questions in
turn, and every question to a store is safe.
-/

namespace DataGrid


/-! ## Remotes -/

namespace RemoteGrid

/-- The first of some calls have been put, and these are their answers. -/
def put (remote : RemoteGrid) (calls : List (CallShape × Request)) (answers : List (Result Reply)) : List Effect :=
  List.zipWith (fun call answer => remote.asked call.2 answer) calls answers

/-- What resolving a remote comes to if its calls may overlap. Any call that has been put may be the one whose failure
is told. -/
inductive Overlaps (remote : RemoteGrid) : CompositeGrid.Outcome → List Effect → Prop
  | inTurn {outcome effects} (resolves : remote.Resolves outcome effects) : Overlaps remote outcome effects
  | failed {answers answer error} (quiet : remote.complaints = [])
    (few : answers.length ≤ remote.rendered.calls.length) (told : answer ∈ answers)
    (failure : remote.reading answer = .error error) :
    Overlaps remote (.error error) (remote.put remote.rendered.calls answers)

variable {remote : RemoteGrid}

theorem exists_call_of_mem_put {calls : List (CallShape × Request)} {answers : List (Result Reply)} {e : Effect}
    (h : e ∈ remote.put calls answers) : ∃ c ∈ calls, ∃ answer, e = remote.asked c.2 answer := by
  induction calls generalizing answers with
  | nil => cases h
  | cons call rest ih =>
    cases answers with
    | nil => cases h
    | cons answer others =>
      rcases List.mem_cons.mp h with rfl | h
      · exact ⟨call, List.mem_cons_self, answer, rfl⟩
      · obtain ⟨c, hc, heq⟩ := ih h
        exact ⟨c, List.mem_cons_of_mem _ hc, heq⟩

/-- Overlapping or not, a remote is asked to resolve its share and nothing else. -/
theorem Overlaps.asked_to {outcome : CompositeGrid.Outcome} {effects : List Effect}
    (h : remote.Overlaps outcome effects) : remote.AskedToResolve effects := by
  cases h with
  | inTurn resolves => exact resolves.asked_to
  | @failed answers =>
    have length : (remote.put remote.rendered.calls answers).length ≤ remote.rendered.calls.length := by
      rw [put, List.length_zipWith]
      exact Nat.min_le_left ..
    refine ⟨Nat.le_trans length remote.rendered.length_calls, fun idle => ?_, fun e he => exists_call_of_mem_put he⟩
    have none : remote.rendered.calls = [] := Rendered.calls_eq_nil.mpr (by simpa [isApplicable] using idle)
    rw [none]
    rfl

/-- If no call fails, each has been put and answered as in turn. -/
theorem Overlaps.resolves {parts : List (CallShape × Contribution) × RemoteGrid} {effects : List Effect}
    (h : remote.Overlaps (.ok parts) effects) : remote.Resolves (.ok parts) effects := by
  cases h with
  | inTurn resolves => exact resolves

end RemoteGrid


/-! ## Pages -/

namespace CollectionGrid

/-- A page that may be counted and found at once. The failure of either may be told. -/
inductive Overlaps (grid : CollectionGrid) : Result Page → List Effect → Prop
  | inTurn {page effects} (reads : grid.Reads page effects) : Overlaps grid page effects
  | uncounted {answer error} (ready : grid.Ready) :
    Overlaps grid (.error error)
      [.count grid.collection grid.plan.predicate (.error error), .find grid.collection grid.selection answer]
  | unfound {answer error} (ready : grid.Ready) :
    Overlaps grid (.error error)
      [.count grid.collection grid.plan.predicate answer, .find grid.collection grid.selection (.error error)]

variable {grid : CollectionGrid}

/-- In turn, nothing is found once counting has failed; overlapping, the find may have been put by then. -/
theorem not_reads_uncounted {page : Result Page} {error : GridError} {answer : Result (List Row)} :
    ¬grid.Reads page
      [.count grid.collection grid.plan.predicate (.error error), .find grid.collection grid.selection answer] :=
  nofun

theorem Overlaps.isAccess {page : Result Page} {effects : List Effect} (h : grid.Overlaps page effects) :
    ∀ e ∈ effects, e.isAccess = true := by
  cases h with
  | inTurn reads => exact reads.isAccess
  | uncounted => exact List.forall_mem_cons.mpr ⟨rfl, List.forall_mem_singleton.mpr rfl⟩
  | unfound => exact List.forall_mem_cons.mpr ⟨rfl, List.forall_mem_singleton.mpr rfl⟩

/-- If nothing fails, the page is read as in turn. -/
theorem Overlaps.reads {page : Page} {effects : List Effect} (h : grid.Overlaps (.ok page) effects) :
    grid.Reads (.ok page) effects := by
  cases h with
  | inTurn reads => exact reads

theorem Overlaps.isSafe {page : Result Page} {effects : List Effect} (h : grid.Overlaps page effects)
    (named : grid.IsNamed) : ∀ e ∈ effects, e.IsSafe := by
  cases h with
  | inTurn reads => exact reads.isSafe named
  | uncounted =>
    exact List.forall_mem_cons.mpr ⟨named.isSafe_count _, List.forall_mem_singleton.mpr (named.isSafe_find _)⟩
  | unfound =>
    exact List.forall_mem_cons.mpr ⟨named.isSafe_count _, List.forall_mem_singleton.mpr (named.isSafe_find _)⟩

end CollectionGrid


/-! ## Fetches -/

namespace CompositeGrid

/-- What resolving all remotes comes to if their calls may overlap, with what each of them has been asked. -/
def ResolvesTogether (grid : CompositeGrid) (result : Result CompositeGrid) (asked : List (List Effect)) : Prop :=
  ∃ parts : List (Outcome × List Effect),
    List.Forall₂ (fun remote part => remote.Overlaps part.1 part.2) grid.remotes parts ∧
      result = grid.resolved (parts.map (·.1)) ∧ asked = parts.map (·.2)

/-- One fetch whose questions may overlap, with its effects. The exits are those of a fetch in turn. Within a phase, the
questions to the remotes stand in any order. -/
inductive Overlaps (version : String) (grid : CompositeGrid) : Result Envelope × CompositeGrid → List Effect → Prop
  | silent {result} (steps : Steps version grid result []) : Overlaps version grid result []
  | unresolved {error asked seen} (fresh : grid.phase = .init) (quiet : grid.complaints = [])
    (resolves : grid.ResolvesTogether (.error error) asked) (order : seen.Perm asked.flatten) :
    Overlaps version grid (.error error, grid.enter .done) seen
  | unread {resolved error asked seen accessed} (fresh : grid.phase = .init) (quiet : grid.complaints = [])
    (resolves : grid.ResolvesTogether (.ok resolved) asked) (order : seen.Perm asked.flatten)
    (reads : resolved.primary.Overlaps (.error error) accessed) :
    Overlaps version grid (.error error, resolved.finished) (seen ++ accessed)
  | answered {resolved page merges asked seen accessed merged joined} (fresh : grid.phase = .init)
    (quiet : grid.complaints = []) (resolves : grid.ResolvesTogether (.ok resolved) asked)
    (order : seen.Perm asked.flatten) (reads : resolved.primary.Overlaps (.ok page) accessed)
    (joins : resolved.Merges page.rows merges merged) (last : joined.Perm merged.flatten) :
    Overlaps version grid
      (.ok (resolved.envelope version (mergeAll page.rows merges) page.pagination), resolved.finished)
      (seen ++ (accessed ++ joined))

section

variable {version : String} {grid resolved : CompositeGrid} {asked : List (List Effect)}

theorem Resolves.together {result : Result CompositeGrid} (h : grid.Resolves result asked) :
    grid.ResolvesTogether result asked := by
  obtain ⟨parts, hparts, hresult, hasked⟩ := h
  exact ⟨parts, hparts.imp fun _ _ resolves => .inTurn resolves, hresult, hasked⟩

theorem ResolvesTogether.asked_to {result : Result CompositeGrid} (h : grid.ResolvesTogether result asked) :
    List.Forall₂ RemoteGrid.AskedToResolve grid.remotes asked := by
  obtain ⟨parts, hparts, -, rfl⟩ := h
  exact List.forall₂_map_right_iff.mpr (hparts.imp fun _ _ overlaps => overlaps.asked_to)

/-- A grid is resolved only if each of its remotes is, so its remotes have been asked as in turn. -/
theorem ResolvesTogether.resolves (h : grid.ResolvesTogether (.ok resolved) asked) :
    grid.Resolves (.ok resolved) asked := by
  obtain ⟨parts, hparts, hresolved, rfl⟩ := h
  obtain ⟨contributions, remotes, hgather, -, -⟩ := resolved_eq_ok.mp hresolved.symm
  have succeed : ∀ part ∈ parts, ∃ value, part.1 = .ok value := by
    intro part hpart
    obtain ⟨next, -, parts, heq⟩ := Outcome.exists_right_of_mem (forall₂_of_gather hgather) (List.mem_map_of_mem hpart)
    exact ⟨_, heq⟩
  refine ⟨parts, ?_, hresolved, rfl⟩
  refine (((List.forall₂_and_left _ _).mpr ⟨succeed, hparts.flip⟩).imp ?_).flip
  rintro ⟨outcome, effects⟩ remote ⟨⟨value, rfl⟩, overlaps⟩
  exact overlaps.resolves

/-- Questions in turn are one way to overlap. -/
theorem Steps.overlaps {result : Result Envelope × CompositeGrid} {effects : List Effect}
    (h : Steps version grid result effects) : Overlaps version grid result effects := by
  cases h with
  | again run => exact .silent (.again run)
  | rejected fresh bad => exact .silent (.rejected fresh bad)
  | unresolved fresh quiet resolves => exact .unresolved fresh quiet resolves.together (.refl _)
  | unread fresh quiet resolves reads => exact .unread fresh quiet resolves.together (.refl _) (.inTurn reads)
  | answered fresh quiet resolves reads joins =>
    exact .answered fresh quiet resolves.together (.refl _) (.inTurn reads) joins (.refl _)

/-- An answer does not tell whether the questions have overlapped. -/
theorem Overlaps.steps {envelope : Envelope} {next : CompositeGrid} {effects : List Effect}
    (h : Overlaps version grid (.ok envelope, next) effects) :
    ∃ inTurn, effects.Perm inTurn ∧ Steps version grid (.ok envelope, next) inTurn := by
  cases h with
  | silent steps => exact ⟨[], .refl _, steps⟩
  | answered fresh quiet resolves order reads joins last =>
    exact ⟨_, order.append (.append_left _ last), .answered fresh quiet resolves.resolves reads.reads joins⟩

/-- However its questions overlap, the first fetch of a grid keeps the order of the phases, and leaves the grid done
whatever its outcome. -/
theorem Overlaps.inOrder {result : Result Envelope × CompositeGrid} {effects : List Effect}
    (fresh : grid.phase = .init) (h : Overlaps version grid result effects) :
    result.2.phase = .done ∧ ∃ asked accessed merged seen joined,
      effects = seen ++ (accessed ++ joined) ∧ seen.Perm asked.flatten ∧ joined.Perm merged.flatten ∧
        InOrder grid asked accessed merged := by
  have noMerges : [].Perm grid.silence.flatten := by rw [flatten_silence]
  cases h with
  | silent steps =>
    obtain ⟨done, asked, accessed, merged, silent, inOrder⟩ := steps.inOrder fresh
    exact ⟨done, asked, accessed, merged, _, _, silent, .refl _, .refl _, inOrder⟩
  | @unresolved _ asked _ _ quiet resolves order =>
    refine ⟨rfl, asked, [], grid.silence, _, [], (List.append_nil _).symm, order, noMerges, ?_⟩
    exact inOrder_unmerged quiet resolves.asked_to (List.forall_mem_nil _) (absurd rfl)
  | @unread _ _ asked seen accessed _ quiet resolves order reads =>
    refine ⟨rfl, asked, accessed, grid.silence, seen, [], by rw [List.append_nil], order, noMerges, ?_⟩
    exact inOrder_unmerged quiet resolves.asked_to reads.isAccess fun _ => ⟨_, resolves.resolves⟩
  | @answered _ _ _ asked seen accessed merged joined _ quiet resolves order reads joins last =>
    refine ⟨rfl, asked, accessed, merged, seen, joined, rfl, order, last, ?_⟩
    exact resolves.resolves.inOrder_merged quiet reads.reads joins

/-- A grid that is done stays as it is and asks nobody anything. -/
theorem Overlaps.spent {result : Result Envelope × CompositeGrid} {effects : List Effect} (done : grid.phase = .done)
    (h : Overlaps version grid result effects) :
    result = (.error (.phase (.alreadyRun Phase.done.text)), grid) ∧ effects = [] := by
  have run : grid.phase ≠ .init := fun fresh => nomatch done.symm.trans fresh
  cases h with
  | silent steps => exact steps.spent done
  | unresolved fresh => exact absurd fresh run
  | unread fresh => exact absurd fresh run
  | answered fresh => exact absurd fresh run

/-- However its questions overlap, every question that a fetch puts to a store is safe. -/
theorem Overlaps.isSafe {result : Result Envelope × CompositeGrid} {effects : List Effect}
    (h : Overlaps version grid result effects) (named : grid.complaints = [] → grid.primary.IsNamed)
    (keys : ∀ remote ∈ grid.remotes, Text.isColumnPath remote.definition.primaryKey = true) :
    ∀ e ∈ effects, e.IsSafe := by
  have resolving {result : Result CompositeGrid} {asked : List (List Effect)} {seen : List Effect}
      (resolves : grid.ResolvesTogether result asked) (order : seen.Perm asked.flatten) : ∀ e ∈ seen, e.IsSafe :=
    fun e he => isSafe_of_askedToResolve resolves.asked_to e (order.mem_iff.mp he)
  cases h with
  | silent => exact List.forall_mem_nil _
  | unresolved _ _ resolves order => exact resolving resolves order
  | unread _ quiet resolves order reads =>
    exact List.forall_mem_append.mpr
      ⟨resolving resolves order, reads.isSafe (resolves.resolves.isNamed (named quiet) keys)⟩
  | answered _ quiet resolves order reads joins last =>
    refine List.forall_mem_append.mpr ⟨resolving resolves order, List.forall_mem_append.mpr
      ⟨reads.isSafe (resolves.resolves.isNamed (named quiet) keys), fun e he => ?_⟩⟩
    exact isSafe_of_askedToMerge joins.asked_to e (last.mem_iff.mp he)

end

end CompositeGrid

end DataGrid
