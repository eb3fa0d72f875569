-- SUMMARY: The grids that a process hosts, run for requests and for calls from each other.
import DataGrid.Grid.Composite

/-!
# Hosts

A host answers requests for its grids by name. Grids that name the host's own
service as a remote are called in process: the called grid reads its collection
alone and replies in public field names.
-/

namespace DataGrid

structure Host where
  /-- The role under which the hosted grids can be called. -/
  service : String
  grids : Keyed GridDefinition
  version : String

namespace Host

/-- The status that an error travels with. -/
def status : GridError → Nat
  | .input _ | .rejected _ => 400
  | .noOutput => 404
  | .unavailable .. => 502
  | _ => 500

variable {m : Type → Type} [Monad m]

/-- The rows of a grid's collection for a request, under public names. -/
def rows (store : Store m) (definition : GridDefinition) (body : Json) : ExceptT GridError m (List Row) := do
  let grid ← .mk (pure (CollectionGrid.ofJson definition.collection definition.fields body))
  let page ← grid.fetch store
  return page.rows.map (grid.plan.projection.renameRow (some definition.fields))

/-- Answer a call from another grid. Every failure is an unavailable remote. -/
def dispatch (host : Host) (store : Store m) : Caller m := fun call =>
  let unavailable (reason : String) : GridError := .unavailable call.address.role call.address.cmd reason
  if call.address.role ≠ host.service then throw (unavailable s!"no route to role '{call.address.role}'")
  else
    match Keyed.get? host.grids call.address.cmd with
    | none => throw (unavailable "unknown grid")
    | some definition => ((rows store definition call.body).adapt fun e => unavailable e.message) >>= fun rows =>
      pure (Reply.ofRows rows)

/-- Run one grid for a request. -/
def answer (host : Host) (store : Store m) (definition : GridDefinition) (header body : Json) :
    ExceptT GridError m Envelope := do
  let grid ← .mk (pure (CompositeGrid.ofJson definition header body))
  grid.fetch store (host.dispatch store) host.version

/-- Run the grid called `name` for a request: the envelope with the status it travels with. -/
def run (host : Host) (store : Store m) (name : String) (header body : Json) : m (Nat × Envelope) :=
  match Keyed.get? host.grids name with
  | none => pure (404, .ofError host.version (.input (.unknownGrid name)))
  | some definition => do
    match ← (host.answer store definition header body).run with
    | .ok envelope => return (200, envelope)
    | .error e => return (status e, .ofError host.version e)

/-- What callers are told about the fields of a grid, if there is a grid that can be made. -/
def configuration? (host : Host) (name : String) : Option (Keyed PublicField) :=
  (Keyed.get? host.grids name).bind fun definition =>
    match CompositeGrid.ofJson definition (.obj []) (.obj []) with
    | .ok grid => some grid.configuration
    | .error _ => none

end Host

end DataGrid
