-- SUMMARY: One remote's part in a request: resolving its share into keys, and fetching records to merge.
import DataGrid.Remote.Call
import DataGrid.Remote.Merge
import DataGrid.Remote.Rendering
import DataGrid.Request.Plan

/-!
# Remote grids

A remote grid resolves the share of a request that its remote answers for. The
records of each call become the set of local keys that the page is restricted to,
or that the free text may also be found by. Later it provides the records that the
rows of the page are merged with, from those it has if they suffice.
-/

namespace DataGrid

/-- What a call contributes to the request. -/
inductive Contribution where
  /-- The rows must join one of the keys. -/
  | filter (keys : List Json)
  /-- The free text is also found in rows that join one of the keys. -/
  | queryTerms (keys : List Json)
  | empty
  deriving DecidableEq

/-- The constraints on a column, of which the first must hold and the second is one more place for the free text. -/
def Contribution.constraints (column : String) : Contribution → Option Constraint × Option Constraint
  | .filter keys => (some ⟨column, keys⟩, none)
  | .queryTerms keys => (none, some ⟨column, keys⟩)
  | .empty => (none, none)

/-- The contribution of the keys that a call found. -/
def Contribution.ofKeys (shape : CallShape) (keys : List Json) : Contribution :=
  if keys.isEmpty then .empty
  else
    match shape with
    | .exact => .filter keys
    | .freeText => .queryTerms keys

structure RemoteGrid where
  definition : RemoteDefinition
  header : Json
  table : FieldTable
  rendered : Rendered
  /-- The records that resolving has brought in, if it has been done. -/
  resolved : Option (List Row)
  /-- Whether some call brought in as many records as it may, so that keys may be missing. -/
  saturated : Bool

namespace RemoteGrid

/-- A grid for the share of a request that the remote answers for. -/
def ofRequest (definition : RemoteDefinition) (header : Json) (request : Request) : Result RemoteGrid :=
  match definition.table with
  | .ok table =>
    .ok {
      definition, header, table
      rendered := Rendering.render table definition.maxKeys request
      resolved := none
      saturated := false }
  | .error fault => .error (.config fault)

def complaints (grid : RemoteGrid) : Complaints :=
  grid.rendered.complaints

/-- Whether there is anything to resolve. -/
def isApplicable (grid : RemoteGrid) : Bool :=
  !grid.rendered.isEmpty

/-- Each shown field under its own name, as it is merged into rows. -/
def projection (grid : RemoteGrid) : Projection :=
  .ofPairs (grid.table.shown.map fun field => (field.name, field.name))

/-- A failed call is an unavailable remote, whatever the failure. -/
def unavailable (address : Address) : GridError → GridError
  | .unavailable role cmd reason => .unavailable role cmd reason
  | error => .unavailable address.role address.cmd error.message

variable {m : Type → Type} [Monad m]

/-- Call the remote and take the records out of its reply. -/
def call (caller : Caller m) (grid : RemoteGrid) (body : Request) : ExceptT GridError m (List Row) := do
  let address := grid.definition.address
  let reply ← (caller ⟨address, body.toJson, grid.header⟩).adapt (unavailable address)
  match reply.records with
  | .ok records => return records
  | .error fault => throw (.store fault)

/-- The keys by which some records join. -/
def keysOf (grid : RemoteGrid) (records : List Row) : List Json :=
  Join.keys records grid.definition.foreignKey

/-- Take in the records of every call. -/
def takeRecords (grid : RemoteGrid) (replies : List (CallShape × List Row)) : RemoteGrid :=
  { grid with
    resolved := some (replies.flatMap (·.2))
    saturated := grid.saturated || replies.any (grid.definition.maxKeys ≤ ·.2.length) }

/-- Make the calls one after the other, up to the first that fails. -/
def callAll (caller : Caller m) (grid : RemoteGrid) :
    List (CallShape × Request) → ExceptT GridError m (List (CallShape × List Row))
  | [] => pure []
  | (shape, body) :: rest => do
    let records ← call caller grid body
    let others ← callAll caller grid rest
    return (shape, records) :: others

/-- Resolve the share of the request into one contribution for each call. -/
def fetch (caller : Caller m) (grid : RemoteGrid) :
    ExceptT GridError m (List (CallShape × Contribution) × RemoteGrid) :=
  if !grid.complaints.isEmpty then throw (.rejected grid.complaints)
  else
    match grid.rendered.calls with
    | [] => pure ([], grid)
    | calls => do
      let replies ← callAll caller grid calls
      return (replies.map fun (shape, records) => (shape, .ofKeys shape (grid.keysOf records)), grid.takeRecords replies)


-- ---------------------------------------------------------------------------
-- Merging
-- ---------------------------------------------------------------------------

/-- The key texts of the records at hand. -/
def heldKeys (grid : RemoteGrid) (records : List Row) : List String :=
  records.filterMap fun record => (record.lookup grid.definition.foreignKey).map Json.keyText

/-- The records at hand, if they cover all wanted keys. -/
def covering? (grid : RemoteGrid) (wanted : List String) : Option (List Row) :=
  grid.resolved.filter fun records => wanted.all (grid.heldKeys records).contains

/-- The request for the records of some keys. -/
def mergeRequest (grid : RemoteGrid) (keys : List Json) : Request :=
  { Request.empty with
    filter := some [(grid.definition.foreignKey, .arr keys)]
    page := some (.ofNat 1)
    limit := some (.ofNat keys.length) }

/-- A record under public names, shown fields only. -/
def rename (grid : RemoteGrid) (record : Row) : Row :=
  grid.table.shown.foldl (fun renamed field =>
    match record.lookup field.column with
    | some value => Row.insert renamed field.name value
    | none => renamed) []

/-- The renamed records of wanted keys; of records with one key text the last stays. -/
def mergeDataOf (grid : RemoteGrid) (wanted : List String) (records : List Row) : MergeData :=
  records.foldl (fun data record =>
    match record.lookup grid.definition.foreignKey with
    | some value =>
      if wanted.contains value.keyText then Keyed.insert data value.keyText (grid.rename record) else data
    | none => data) []

/-- The records that the rows of a page join: those at hand if they suffice, or else what the remote has. -/
def mergeData (caller : Caller m) (grid : RemoteGrid) (rows : List Row) : ExceptT GridError m MergeData :=
  match Join.keys rows grid.definition.primaryKey with
  | [] => pure []
  | keys =>
    let wanted := keys.map Json.keyText
    match grid.covering? wanted with
    | some records => pure (grid.mergeDataOf wanted records)
    | none => do
      let records ← call caller grid (grid.mergeRequest keys)
      return grid.mergeDataOf wanted records

end RemoteGrid

end DataGrid
