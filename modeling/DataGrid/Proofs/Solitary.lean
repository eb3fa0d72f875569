-- SUMMARY: Grids without remotes, which run by their collections alone.
import DataGrid.Proofs.CompositeGrid

/-!
# Grids without remotes

A grid without remotes leaves the whole request to its collection and asks no caller.
Its run is that of the collection, with an envelope made of the page. A request with
complaints is refused on either level with the same complaints.
-/

namespace DataGrid

namespace Request

theorem strip_nil (clause : Row) : strip [] clause = clause := by
  simp [strip]

/-- Where no field belongs to a remote, the whole request is the collection's. -/
theorem without_nil (request : Request) : request.without [] = request := by
  obtain ⟨search, filter, range, sort, page, limit⟩ := request
  have unchanged : strip [] = id := funext strip_nil
  simp [without, unchanged]

end Request

variable {m : Type → Type} [Monad m]

namespace CompositeGrid

section

variable {grid : CompositeGrid}

/-- A request with complaints is refused, whatever the store and the remotes hold. -/
theorem run_fetch_of_complaints [LawfulMonad m] (fresh : grid.phase = .init) (bad : grid.complaints ≠ [])
    (store : Store m) (caller : Caller m) (version : String) :
    (grid.fetch store caller version).run = pure (.error (.rejected grid.complaints)) := by
  rw [fetch, fresh]
  dsimp only
  rw [CompositeGrid.run, if_pos (by simpa using bad), ExceptT.run_bind, ExceptT.run_throw, pure_bind]

/-- A grid without remotes fetches the page of its collection and makes an envelope of it. -/
theorem run_fetch_of_alone [LawfulMonad m] (fresh : grid.phase = .init) (alone : grid.remotes = [])
    (quiet : grid.complaints = []) (store : Store m) (caller : Caller m) (version : String) :
    (grid.fetch store caller version).run =
      (·.map fun page => grid.envelope version page.rows page.pagination) <$> (grid.primary.fetch store).run := by
  rw [fetch, fresh]
  dsimp only
  rw [CompositeGrid.run, if_neg (by simp [quiet]), ExceptT.run_bind, run_resolve_of_alone caller alone, pure_bind,
    map_eq_pure_bind]
  dsimp only
  rw [ExceptT.run_bind]
  refine congrArg _ (funext fun page => ?_)
  cases page with
  | error error => rfl
  | ok page =>
    dsimp only
    rw [ExceptT.run_bind_lift, askMerges, alone, List.mapM_nil, pure_bind]
    rfl

end


/-! ## Grids for requests -/

/-- The grid for a request to a collection without remotes. -/
def solitary (definition : GridDefinition) (request : Request) : CompositeGrid where
  phase := .init
  request
  primary := .ofRequest definition.collection definition.fields request
  remotes := []

variable {definition : GridDefinition}

theorem ofJson_eq_solitary (alone : definition.remotes = []) (header body : Json) :
    ofJson definition header body = ((Request.ofJson body).mapError .input).map (solitary definition) := by
  unfold ofJson
  cases Request.ofJson body with
  | error fault => rfl
  | ok request =>
    have whole : request.without definition.remoteFields = request := by
      rw [GridDefinition.remoteFields, alone]
      exact request.without_nil
    rw [alone]
    change Except.ok { solitary definition request with
      primary := .ofRequest definition.collection definition.fields (request.without definition.remoteFields) } = _
    rw [whole]
    rfl

/-- The content of an envelope are the rows under the names of the fields of the collection. -/
theorem content_envelope_solitary (definition : GridDefinition) (request : Request) (version : String) (rows : List Row)
    (pagination : Pagination) :
    ((solitary definition request).envelope version rows pagination).content =
      rows.map ((solitary definition request).primary.plan.projection.renameRow (some definition.fields)) := by
  have table : (solitary definition request).primary.plan.table = definition.fields := QueryPlan.table_ofRequest ..
  rw [← table]
  rfl

/-- A grid for a request to a collection without remotes fetches the page of its collection and makes an envelope of it. A
request with complaints is refused alike by both. -/
theorem run_fetch_solitary [LawfulMonad m] (store : Store m) (caller : Caller m) (version : String)
    (definition : GridDefinition) (request : Request) :
    ((solitary definition request).fetch store caller version).run =
      (·.map fun page => (solitary definition request).envelope version page.rows page.pagination) <$>
        ((solitary definition request).primary.fetch store).run := by
  by_cases quiet : (solitary definition request).complaints = []
  · exact run_fetch_of_alone rfl rfl quiet store caller version
  · have refused : (solitary definition request).primary.plan.rejection? =
        some (.rejected (solitary definition request).complaints) := if_neg (mt List.isEmpty_iff.mp quiet)
    rw [run_fetch_of_complaints rfl quiet, CollectionGrid.fetch, refused]
    change _ = _ <$> pure _
    rw [map_pure]
    rfl

end CompositeGrid

end DataGrid
