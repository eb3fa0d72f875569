-- SUMMARY: One request answered by a collection and its remotes together.
import DataGrid.Grid.Collection
import DataGrid.Grid.Definition
import DataGrid.Grid.Output
import DataGrid.Remote.Grid

/-!
# Composite grids

A composite grid runs once: it resolves the remotes' shares of the request into
constraints, fetches the page, merges the remotes' records into its rows, and
makes the envelope. Resolving fails closed. A remote that fails, or an exact share
that nothing satisfies, refuses the request; the page is fixed before merging, so
a failure there only leaves fields out.
-/

namespace DataGrid

/-- How far a composite grid has got. -/
inductive Phase where
  | init
  | secondaryResolution
  | primaryFetch
  | merge
  | configMerge
  | format
  | done
  deriving DecidableEq

def Phase.text : Phase → String
  | .init => "Init"
  | .secondaryResolution => "SecondaryResolution"
  | .primaryFetch => "PrimaryFetch"
  | .merge => "Merge"
  | .configMerge => "ConfigMerge"
  | .format => "Format"
  | .done => "Done"

structure CompositeGrid where
  phase : Phase
  request : Request
  primary : CollectionGrid
  remotes : List RemoteGrid

namespace CompositeGrid

/-- A composite grid for a request. The fields of remotes are taken out of the primary grid's share,
which fetches the join columns of all remotes. -/
def ofJson (definition : GridDefinition) (header body : Json) : Result CompositeGrid := do
  let request ← (Request.ofJson body).mapError .input
  let remotes ← definition.remotes.mapM fun remote => RemoteGrid.ofRequest remote header request
  let primary := CollectionGrid.ofRequest definition.collection definition.fields
    (request.without definition.remoteFields)
  return {
    phase := .init
    request
    primary := definition.remotes.foldl (fun primary remote => primary.requireColumn remote.primaryKey) primary
    remotes }

/-- The complaints of the primary grid and of every remote. -/
def complaints (grid : CompositeGrid) : Complaints :=
  grid.remotes.foldl (fun all remote => all.merge remote.complaints) grid.primary.complaints

/-- What callers are told about the fields; of fields with one name the first grid's counts. -/
def configuration (grid : CompositeGrid) : Keyed PublicField :=
  grid.remotes.foldl (fun all remote =>
    remote.table.toPublic.foldl (fun all (name, field) =>
      if Keyed.contains all name then all else Keyed.insert all name field) all) grid.primary.plan.table.toPublic

/-- The shown fields of the primary grid with their columns, and those of the remotes. -/
def projection (grid : CompositeGrid) : Projection :=
  grid.remotes.foldl (fun all remote => all.extend remote.projection) grid.primary.plan.projection


-- ---------------------------------------------------------------------------
-- Resolution
-- ---------------------------------------------------------------------------

/-- The contributions of one remote on its join column. An exact share without keys satisfies no row; a free text
without keys is one alternative less. -/
def contributionsOf (column : String) : List (CallShape × Contribution) → Result (List (String × Contribution))
  | [] => .ok []
  | (.exact, .empty) :: _ => .error .noOutput
  | (.freeText, .empty) :: rest => contributionsOf column rest
  | (_, contribution) :: rest => (contributionsOf column rest).map ((column, contribution) :: ·)

/-- The outcome of resolving one remote. -/
abbrev Outcome := Result (List (CallShape × Contribution) × RemoteGrid)

/-- The contributions of all remotes with the grids that hold their records. The first failure in order counts. -/
def gather : List Outcome → Result (List (String × Contribution) × List RemoteGrid)
  | [] => .ok ([], [])
  | outcome :: rest => do
    let (parts, remote) ← outcome
    let first ← contributionsOf remote.definition.primaryKey parts
    let (others, remotes) ← gather rest
    return (first ++ others, remote :: remotes)

/-- Restrict the primary grid by a contribution. -/
def restrict (primary : CollectionGrid) (entry : String × Contribution) : CollectionGrid :=
  let (filter, query) := entry.2.constraints entry.1
  primary.constrain filter query

/-- Restrict the primary grid by what the remotes contribute. If remotes were asked and none has anything to
contribute, no row is left. -/
def resolved (grid : CompositeGrid) (outcomes : List Outcome) : Result CompositeGrid := do
  let (contributions, remotes) ← gather outcomes
  if grid.remotes.any (·.isApplicable) && contributions.isEmpty then throw .noOutput
  return { grid with primary := contributions.foldl restrict grid.primary, remotes }

variable {m : Type → Type} [Monad m]

/-- Ask every remote, whether or not an earlier one failed. -/
def resolve (caller : Caller m) (grid : CompositeGrid) : ExceptT GridError m CompositeGrid := do
  let outcomes ← ExceptT.lift (grid.remotes.mapM fun remote => (remote.fetch caller).run)
  .mk (pure (grid.resolved outcomes))


-- ---------------------------------------------------------------------------
-- Merging
-- ---------------------------------------------------------------------------

/-- Merge the records of each remote that has provided some. -/
def mergeAll (rows : List Row) (merges : List (RemoteGrid × Result MergeData)) : List Row :=
  merges.foldl (fun rows (remote, merge) =>
    match merge with
    | .ok data => data.mergeRows remote.definition.primaryKey rows
    | .error _ => rows) rows

/-- Ask every remote for the records to merge into the fetched rows. -/
def askMerges (caller : Caller m) (rows : List Row) (remotes : List RemoteGrid) :
    m (List (RemoteGrid × Result MergeData)) :=
  remotes.mapM fun remote => do
    let data ← (remote.mergeData caller rows).run
    return (remote, data)

/-- The envelope of a fetched page. -/
def envelope (version : String) (grid : CompositeGrid) (rows : List Row) (pagination : Pagination) : Envelope :=
  .ofPage version grid.request grid.configuration rows pagination (some grid.projection) (some grid.primary.plan.table)

/-- Resolve, fetch, merge, and make the envelope. -/
def run (store : Store m) (caller : Caller m) (version : String) (grid : CompositeGrid) :
    ExceptT GridError m Envelope := do
  if !grid.complaints.isEmpty then throw (.rejected grid.complaints)
  let grid ← grid.resolve caller
  let page ← grid.primary.fetch store
  let merges ← ExceptT.lift (askMerges caller page.rows grid.remotes)
  return grid.envelope version (mergeAll page.rows merges) page.pagination

/-- Run the grid, if it has not been run. -/
def fetch (store : Store m) (caller : Caller m) (version : String) (grid : CompositeGrid) :
    ExceptT GridError m Envelope :=
  match grid.phase with
  | .init => run store caller version grid
  | phase => throw (.phase (.alreadyRun phase.text))


-- ---------------------------------------------------------------------------
-- Phases
-- ---------------------------------------------------------------------------

/-- The grid in another phase. -/
def enter (grid : CompositeGrid) (phase : Phase) : CompositeGrid :=
  { grid with phase }

/-- Resolve the remotes, if there are any. -/
def resolvePhase (caller : Caller m) (grid : CompositeGrid) : m (Result CompositeGrid) :=
  if grid.remotes.isEmpty then pure (.ok grid)
  else ((grid.enter .secondaryResolution).resolve caller).run

/-- One fetch, phase by phase: its outcome, and the grid that it leaves behind. A grid that has left its first phase
is not touched. -/
def step (store : Store m) (caller : Caller m) (version : String) (grid : CompositeGrid) :
    m (Result Envelope × CompositeGrid) := do
  if grid.phase ≠ .init then
    return (.error (.phase (.alreadyRun grid.phase.text)), grid)
  if !grid.complaints.isEmpty then
    return (.error (.rejected grid.complaints), grid.enter .done)
  match ← resolvePhase caller grid with
  | .error error => return (.error error, grid.enter .done)
  | .ok grid =>
    let grid := grid.enter .primaryFetch
    let fetched ← (grid.primary.fetch store).run
    let grid := { grid with primary := grid.primary.spent }
    match fetched with
    | .error error => return (.error error, grid.enter .done)
    | .ok page =>
      let grid := grid.enter .merge
      let merges ← askMerges caller page.rows grid.remotes
      let rows := mergeAll page.rows merges
      let grid := grid.enter .configMerge
      let configuration := grid.configuration
      let grid := grid.enter .format
      let envelope := Envelope.ofPage version grid.request configuration rows page.pagination (some grid.projection)
        (some grid.primary.plan.table)
      return (.ok envelope, grid.enter .done)

end CompositeGrid

end DataGrid
