-- SUMMARY: Reading and writing field and join descriptors as JSON.
import DataGrid.Field.Table
import DataGrid.Json.Written

/-!
# Descriptors as JSON

Every entry of a descriptor may be left out or null, except the model of a join
and the column lists. Writing leaves out what is not given. The outline of a
descriptor shows its entries; other members are not looked at.
-/

namespace DataGrid

namespace JoinDescriptor

/-- The parts of a join read so far. -/
structure Draft where
  model : Option String
  destination : Option String
  fields : List String
  exclude : List String
  key : Option String

def Draft.read (draft : Draft) (name : String) (found : Json) : Decoded Draft :=
  match name with
  | "model" => (Decode.string found).map fun model => { draft with model := some model }
  | "as" => (Decode.optional Decode.string found).map fun column => { draft with destination := column }
  | "fields" => (Decode.list Decode.string found).map fun fields => { draft with fields }
  | "exclude" => (Decode.list Decode.string found).map fun exclude => { draft with exclude }
  | "key" => (Decode.optional Decode.string found).map fun key => { draft with key }
  | _ => .ok draft

/-- The names of the entries, in the order in which a list has them. -/
def entries : List String := ["model", "as", "fields", "exclude", "key"]

def outline : Json.Outline :=
  .record (entries.map (·, .whole))

def decode (json : Json) : Decoded JoinDescriptor := do
  let draft ← Decode.record .joinDescriptor entries 1 Draft.read ⟨none, none, [], [], none⟩ json
  let model ← Decode.require "model" draft.model
  return { model, destination := draft.destination, fields := draft.fields, exclude := draft.exclude, key := draft.key }

def toJson (join : JoinDescriptor) : Json :=
  .obj (Json.given "as" (join.destination.map .str)
    ++ Json.given "exclude" (if join.exclude.isEmpty then none else some (Json.ofStrings join.exclude))
    ++ [("fields", Json.ofStrings join.fields)]
    ++ Json.given "key" (join.key.map .str)
    ++ [("model", .str join.model)])

end JoinDescriptor

namespace FieldDescriptor

def read (descriptor : FieldDescriptor) (name : String) (found : Json) : Decoded FieldDescriptor :=
  match name with
  | "databaseName" => (Decode.optional Decode.string found).map fun text => { descriptor with databaseName := text }
  | "displayName" => (Decode.optional Decode.string found).map fun text => { descriptor with displayName := text }
  | "show" => (Decode.optional Decode.bool found).map fun flag => { descriptor with shown := flag }
  | "search" => (Decode.optional Decode.bool found).map fun flag => { descriptor with searchable := flag }
  | "filter" => (Decode.optional Decode.bool found).map fun flag => { descriptor with filterable := flag }
  | "range" => (Decode.optional Decode.bool found).map fun flag => { descriptor with rangeable := flag }
  | "sort" => (Decode.optional Decode.bool found).map fun flag => { descriptor with sortable := flag }
  | "join" => (Decode.optional JoinDescriptor.decode found).map fun join => { descriptor with join }
  | _ => .ok descriptor

/-- The names of the entries, in the order in which a list has them. -/
def entries : List String :=
  ["databaseName", "displayName", "show", "search", "filter", "range", "sort", "join"]

def outline : Json.Outline :=
  .record (entries.map fun name => (name, if name = "join" then JoinDescriptor.outline else .whole))

def decode : Json → Decoded FieldDescriptor :=
  Decode.record .fieldDescriptor entries 0 read empty

def toJson (descriptor : FieldDescriptor) : Json :=
  .obj (Json.given "databaseName" (descriptor.databaseName.map .str)
    ++ Json.given "displayName" (descriptor.displayName.map .str)
    ++ Json.given "filter" (descriptor.filterable.map .bool)
    ++ Json.given "join" (descriptor.join.map JoinDescriptor.toJson)
    ++ Json.given "range" (descriptor.rangeable.map .bool)
    ++ Json.given "search" (descriptor.searchable.map .bool)
    ++ Json.given "show" (descriptor.shown.map .bool)
    ++ Json.given "sort" (descriptor.sortable.map .bool))

end FieldDescriptor

namespace FieldTable

/-- Read and check the fields of a grid; a fault found by checking is told in full. -/
def decode (json : Json) : Decoded FieldTable := do
  let descriptors ← Decode.map FieldDescriptor.decode json
  match ofDescriptors descriptors with
  | .ok table => return table
  | .error fault => throw (.refused (GridError.config fault).message)

/-- Read and check an authored table of its own. -/
def ofJson (json : Json) : Except ConfigFault FieldTable :=
  match Decode.map FieldDescriptor.decode json with
  | .ok descriptors => ofDescriptors descriptors
  | .error cause => .error (.undecodable cause)

end FieldTable

end DataGrid
