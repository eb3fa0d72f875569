-- SUMMARY: The description of a remote: its address, join columns, parameters and fields.
import DataGrid.Field.Codec

/-!
# Remotes

A remote answers for some public fields of a grid, its parameters, each known to
the remote under a name of its own. A local column joins a column of the remote's
records. Parameters without a descriptor may be searched, filtered and shown.
-/

namespace DataGrid

/-- Whom a call is addressed to. -/
structure Address where
  role : String
  cmd : String
  deriving DecidableEq

structure RemoteDefinition where
  address : Address
  /-- The local column that joins. -/
  primaryKey : String
  /-- The column of the remote's records that joins. -/
  foreignKey : String
  /-- The remote's name for each public field. -/
  parameters : Keyed String
  fields : Keyed FieldDescriptor
  /-- How many records a call may ask for. -/
  maxKeys : Nat
  deriving DecidableEq

namespace RemoteDefinition

def defaultMaxKeys : Nat := 1000

/-- The first fault of a description. -/
def check (remote : RemoteDefinition) : Except ConfigFault Unit :=
  let role := remote.address.role
  let cmd := remote.address.cmd
  if Text.isBlank role || Text.isBlank cmd then .error .noAddress
  else if !(Text.isColumnPath remote.primaryKey && Text.isColumnPath remote.foreignKey) then
    .error (.remoteColumns role cmd)
  else if remote.parameters.isEmpty then .error (.noParameters role cmd)
  else
    match (Keyed.keys remote.fields).find? (!Keyed.contains remote.parameters ·) with
    | some field => .error (.strayField role cmd field)
    | none => if remote.maxKeys = 0 then .error (.noKeyBudget role cmd) else .ok ()

/-- A parameter without a descriptor may be searched and filtered. -/
def openDescriptor : FieldDescriptor :=
  { FieldDescriptor.empty with searchable := some true, filterable := some true }

/-- The descriptor of a parameter: its column is the remote's name, and it has no join. -/
def descriptor (remote : RemoteDefinition) (field name : String) : FieldDescriptor :=
  { (Keyed.get? remote.fields field).getD openDescriptor with databaseName := some name, join := none }

/-- The fields that the remote answers for. -/
def table (remote : RemoteDefinition) : Except ConfigFault FieldTable := do
  remote.check
  FieldTable.ofDescriptors (remote.parameters.map fun (field, name) => (field, remote.descriptor field name))


-- ---------------------------------------------------------------------------
-- JSON
-- ---------------------------------------------------------------------------

/-- The parts of an address read so far. -/
structure AddressDraft where
  role : Option String
  cmd : Option String

def AddressDraft.read (draft : AddressDraft) (name : String) (found : Json) : Decoded AddressDraft :=
  match name with
  | "role" => (Decode.string found).map fun role => { draft with role := some role }
  | "cmd" => (Decode.string found).map fun cmd => { draft with cmd := some cmd }
  | _ => .ok draft

/-- The parts of an address. -/
def addressOutline : Json.Outline :=
  .record [("role", .whole), ("cmd", .whole)]

def decodeAddress (json : Json) : Decoded Address := do
  let draft ← Decode.record .call ["role", "cmd"] 2 AddressDraft.read ⟨none, none⟩ json
  let role ← Decode.require "role" draft.role
  let cmd ← Decode.require "cmd" draft.cmd
  return { role, cmd }

/-- The parts of a description read so far. -/
structure Draft where
  address : Option Address
  primaryKey : Option String
  foreignKey : Option String
  parameters : Option (Keyed String)
  fields : Keyed FieldDescriptor
  maxKeys : Nat

def Draft.read (draft : Draft) (name : String) (found : Json) : Decoded Draft :=
  match name with
  | "apiCall" => (decodeAddress found).map fun address => { draft with address := some address }
  | "primaryKey" => (Decode.string found).map fun column => { draft with primaryKey := some column }
  | "foreignKey" => (Decode.string found).map fun column => { draft with foreignKey := some column }
  | "inputParameters" => (Decode.map Decode.string found).map fun names => { draft with parameters := some names }
  | "fields" => (Decode.map FieldDescriptor.decode found).map fun fields => { draft with fields }
  | "maxKeys" => (Decode.count found).map fun maxKeys => { draft with maxKeys }
  | _ => .ok draft

/-- The names of the parts, in the order in which a list has them. -/
def entries : List String :=
  ["apiCall", "primaryKey", "foreignKey", "inputParameters", "fields", "maxKeys"]

/-- The parts of a description. -/
def outline : Json.Outline :=
  .record (entries.map fun name =>
    (name, match name with
      | "apiCall" => addressOutline
      | "fields" => .map FieldDescriptor.outline
      | _ => .whole))

def decode (json : Json) : Decoded RemoteDefinition := do
  let draft ← Decode.record .remote entries 4 Draft.read ⟨none, none, none, none, [], defaultMaxKeys⟩ json
  let address ← Decode.require "apiCall" draft.address
  let primaryKey ← Decode.require "primaryKey" draft.primaryKey
  let foreignKey ← Decode.require "foreignKey" draft.foreignKey
  let parameters ← Decode.require "inputParameters" draft.parameters
  return { address, primaryKey, foreignKey, parameters, fields := draft.fields, maxKeys := draft.maxKeys }

def toJson (remote : RemoteDefinition) : Json :=
  .obj [
    ("apiCall", .obj [("cmd", .str remote.address.cmd), ("role", .str remote.address.role)]),
    ("fields", .obj (Keyed.mapValues FieldDescriptor.toJson remote.fields)),
    ("foreignKey", .str remote.foreignKey),
    ("inputParameters", .obj (Keyed.mapValues .str remote.parameters)),
    ("maxKeys", .ofNat remote.maxKeys),
    ("primaryKey", .str remote.primaryKey)]

end RemoteDefinition

end DataGrid
