-- SUMMARY: Renaming fetched rows to public fields, and the envelopes of answers.
import DataGrid.Field.Table
import DataGrid.Request.Basic
import DataGrid.Request.Pagination
import DataGrid.Row.Path

/-!
# Output

Fetched rows hold columns; callers see public fields. A field is read where its
join left it, without the columns that the join excludes. An envelope carries a
page with the request and the capabilities, or the reasons of a failure.
-/

namespace DataGrid

mutual

/-- A record, or every record in nested lists, without some columns. -/
def Json.strip (columns : List String) : Json → Json
  | .obj members => .obj (columns.foldl Row.erase members)
  | .arr items => .arr (Json.stripItems columns items)
  | value => value

def Json.stripItems (columns : List String) : List Json → List Json
  | [] => []
  | x :: rest => x.strip columns :: Json.stripItems columns rest

end

namespace Projection

/-- The value of one field in a fetched row; a field outside the table is read from its column. -/
def value? (table : Option FieldTable) (row : Row) (name column : String) : Option Json :=
  match table.bind (·.get? name) with
  | some field =>
    (row.lookup field.source).map fun value =>
      match field.join with
      | some join => value.strip join.exclude
      | none => value
  | none => row.lookup column

/-- A fetched row under the public names of its fields. -/
def renameRow (p : Projection) (table : Option FieldTable) (row : Row) : Row :=
  p.pairs.foldl (fun renamed (name, column) =>
    match value? table row name column with
    | some value => Keyed.insert renamed name value
    | none => renamed) []

end Projection

/-- The answer to a request. -/
inductive Answer where
  | page (request : Json) (configuration : Keyed PublicField) (content : List Row) (pagination : Pagination)
  | failure (errors : Json)

/-- An answer with its message and the version of the program. -/
structure Envelope where
  success : Bool
  messageId : String
  description : String
  answer : Answer
  version : String

namespace Envelope

/-- The envelope of a page. Without a projection the rows are passed on as they are. -/
def ofPage (version : String) (request : Request) (configuration : Keyed PublicField) (rows : List Row)
    (pagination : Pagination) (projection : Option Projection) (table : Option FieldTable) : Envelope where
  success := true
  messageId := "grid_fetch_ok"
  description := "Grid fetched"
  answer := .page request.toJson configuration
    (match projection with
      | some p => rows.map (p.renameRow table)
      | none => rows) pagination
  version

/-- What is said about a failure: the caller's own mistakes in full, anything else in general terms. -/
def failureDescription : GridError → String
  | .rejected _ => "Invalid query input"
  | .input fault => (GridError.input fault).message
  | .noOutput => GridError.noOutput.message
  | _ => "The request could not be completed"

/-- The envelope of a failure. -/
def ofError (version : String) (error : GridError) : Envelope where
  success := false
  messageId := error.id
  description := failureDescription error
  answer := .failure error.body
  version

/-- The rows of a page; a failure has none. -/
def content (envelope : Envelope) : List Row :=
  match envelope.answer with
  | .page _ _ content _ => content
  | .failure _ => []

def pagination? (envelope : Envelope) : Option Pagination :=
  match envelope.answer with
  | .page _ _ _ pagination => some pagination
  | .failure _ => none

end Envelope

def Answer.toJson : Answer → Json
  | .page request configuration content pagination =>
    .obj [
      ("configuration", PublicField.tableToJson configuration),
      ("content", .arr (content.map .obj)),
      ("input", request),
      ("pagination", pagination.toJson)]
  | .failure errors => .obj [("errors", errors)]

def Envelope.toJson (envelope : Envelope) : Json :=
  .obj [
    ("data", envelope.answer.toJson),
    ("message", .obj [("description", .str envelope.description), ("id", .str envelope.messageId)]),
    ("success", .bool envelope.success),
    ("version", .str envelope.version)]

end DataGrid
