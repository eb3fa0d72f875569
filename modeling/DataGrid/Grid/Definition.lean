-- SUMMARY: The description of one hosted grid: its collection, fields and remotes.
import DataGrid.Remote.Definition

/-!
# Grid definitions

A grid is described by the collection it reads, the fields of the collection, and
the remotes that answer for further fields. No field belongs to both sides.
-/

namespace DataGrid

structure GridDefinition where
  collection : String
  fields : FieldTable
  remotes : List RemoteDefinition

namespace GridDefinition

/-- The faults of a remote in the grid called `name`: its own, or else a field that the collection has too. -/
def checkRemote (name : String) (fields : FieldTable) (remote : RemoteDefinition) : Except ConfigFault Unit := do
  remote.check
  match (Keyed.keys remote.parameters).find? fields.contains with
  | some field => throw (.claimedTwice name field remote.address.role remote.address.cmd)
  | none => return ()

/-- The first fault of the grid called `name`. -/
def check (name : String) (grid : GridDefinition) : Except ConfigFault Unit := do
  if !Text.isIdentifier grid.collection then throw (.collectionName name grid.collection)
  grid.remotes.forM (checkRemote name grid.fields)

/-- The fields that remotes answer for. -/
def remoteFields (grid : GridDefinition) : List String :=
  grid.remotes.flatMap fun remote => Keyed.keys remote.parameters

/-- The parts of a description read so far. -/
structure Draft where
  collection : Option String
  fields : Option FieldTable
  remotes : List RemoteDefinition

def Draft.read (draft : Draft) (name : String) (found : Json) : Decoded Draft :=
  match name with
  | "collection" => (Decode.string found).map fun collection => { draft with collection := some collection }
  | "fields" => (FieldTable.decode found).map fun fields => { draft with fields := some fields }
  | "apis" => (Decode.list RemoteDefinition.decode found).map fun remotes => { draft with remotes }
  | _ => .ok draft

/-- The parts of a description. -/
def outline : Json.Outline :=
  .record [("collection", .whole), ("fields", .map FieldDescriptor.outline), ("apis", .list RemoteDefinition.outline)]

def decode (json : Json) : Decoded GridDefinition := do
  let draft ← Decode.record .grid ["collection", "fields", "apis"] 2 Draft.read ⟨none, none, []⟩ json
  let collection ← Decode.require "collection" draft.collection
  let fields ← Decode.require "fields" draft.fields
  return { collection, fields, remotes := draft.remotes }

/-- Read some grids by name. -/
def decodeAll : Json → Decoded (Keyed GridDefinition) :=
  Decode.map decode

/-- The first fault of some grids, in the order of their names. -/
def checkAll (grids : Keyed GridDefinition) : Except ConfigFault Unit :=
  grids.forM fun (name, grid) => grid.check name

end GridDefinition

end DataGrid
