-- SUMMARY: Calls to other services, their replies, and the records in them.
import DataGrid.Remote.Definition

/-!
# Calls and replies

A call has a body and passes on the header of the request it serves. A reply
holds the record list itself, or the data of a grid's envelope with the list as
its content.
-/

namespace DataGrid

structure Call where
  address : Address
  body : Json
  header : Json
  deriving DecidableEq

/-- The answer to a call. -/
structure Reply where
  data : Json
  deriving DecidableEq

/-- Who answers calls, in some monad. -/
abbrev Caller (m : Type → Type) := Call → ExceptT GridError m Reply

namespace Reply

def ofRows (rows : List Row) : Reply :=
  ⟨.arr (rows.map .obj)⟩

/-- Only objects are records. -/
def record : Json → Except StoreFault Row
  | .obj members => .ok members
  | other => .error (.notARecord other)

/-- The records of a reply; none if its data is null. -/
def records (reply : Reply) : Except StoreFault (List Row) :=
  match reply.data with
  | .null => .ok []
  | .arr items => items.mapM record
  | .obj members =>
    match Keyed.get? members "content" with
    | some (.arr items) => items.mapM record
    | _ => .error .noRecordList
  | other => .error (.notARecordList other)

def readContent (data : Json) (name : String) (found : Json) : Decoded Json :=
  match name with
  | "data" => .ok found
  | _ => .ok data

def decodeContent : Json → Decoded Json :=
  Decode.record .content ["data"] 0 readContent .null

def read (reply : Reply) (name : String) (found : Json) : Decoded Reply :=
  match name with
  | "content" => (decodeContent found).map Reply.mk
  | _ => .ok reply

def decode : Json → Decoded Reply :=
  Decode.record .reply ["content"] 0 read ⟨.null⟩

def toJson (reply : Reply) : Json :=
  .obj [("content", .obj [("data", reply.data)])]

end Reply

end DataGrid
