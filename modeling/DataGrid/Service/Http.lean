-- SUMMARY: The HTTP surface of a host: routes, media types, statuses.
import DataGrid.Json.Parser
import DataGrid.Service.Host
import DataGrid.Service.MediaType

/-!
# HTTP

Two routes lead to a host: `POST /v1/grid/NAME` runs a grid, and
`GET /v1/grid/NAME/configuration` tells about its fields. The name is one segment
of the path, percent-decoded. Preflight requests are answered for every path.
-/

namespace DataGrid.Http

structure Request where
  method : String
  /-- The path, perhaps after a scheme and an authority, with a query string that plays no part. -/
  target : String
  headers : List (String × String)
  body : String

inductive Body where
  | json (value : Json)
  | text (text : String)
  /-- An account of why the body of the request does not begin with JSON, in no fixed words. -/
  | account

structure Response where
  status : Nat
  body : Body


-- ---------------------------------------------------------------------------
-- Routes
-- ---------------------------------------------------------------------------

inductive Route where
  /-- A grid under a name that is still percent-encoded. -/
  | grid (name : String)
  | configuration (name : String)
  deriving DecidableEq

/-- What follows the scheme of an absolute target. -/
def afterScheme? (target : List Char) : Option (List Char) :=
  match target.dropWhile fun c => c.isAlphanum || c = '+' || c = '-' || c = '.' with
  | ':' :: '/' :: '/' :: rest => some rest
  | _ => none

/-- The path of a target. -/
def path (target : List Char) : List Char :=
  let relative :=
    match afterScheme? target with
    | some rest => rest.dropWhile fun c => c ≠ '/' && c ≠ '?' && c ≠ '#'
    | none => target
  relative.takeWhile fun c => c ≠ '?' && c ≠ '#'

/-- The route of a target. The name of a grid to run is not empty. -/
def route? (target : String) : Option Route :=
  match (Text.split '/' (path target.toList)).map String.ofList with
  | ["", "v1", "grid", name] => if name.isEmpty then none else some (.grid name)
  | ["", "v1", "grid", name, "configuration"] => some (.configuration name)
  | _ => none

/-- The bytes that percent-encoded characters stand for; a percent sign without two hex digits is itself. -/
def percentBytes : List Char → List UInt8
  | '%' :: a :: b :: rest =>
    match Json.Token.hexDigit? a, Json.Token.hexDigit? b with
    | some high, some low => UInt8.ofNat (16 * high + low) :: percentBytes rest
    | _, _ => '%'.toString.toUTF8.toList ++ percentBytes (a :: b :: rest)
  | c :: rest => c.toString.toUTF8.toList ++ percentBytes rest
  | [] => []

/-- A percent-decoded segment, if its bytes are UTF-8. -/
def decodeSegment? (segment : String) : Option String :=
  String.fromUTF8? ⟨(percentBytes segment.toList).toArray⟩


-- ---------------------------------------------------------------------------
-- Headers
-- ---------------------------------------------------------------------------

/-- The first header of a name, whatever its case. -/
def header? (headers : List (String × String)) (name : String) : Option String :=
  (headers.find? fun (key, _) => Text.asciiLower key = name).map (·.2)

/-- Whether the body is announced as JSON. -/
def announcesJson (headers : List (String × String)) : Bool :=
  ((header? headers "content-type").bind fun text => MediaType.ofChars? text.toList).any MediaType.isJson

/-- Whether a header value can be read as text. -/
def isPlainValue (value : String) : Bool :=
  value.toList.all fun c => c = '\t' || (32 ≤ c.toNat && c.toNat < 127)

/-- The headers that are passed on to remotes: those whose values are plain text. -/
def forwarded (headers : List (String × String)) : Json :=
  .obj (Keyed.ofList ((headers.filter fun (_, value) => isPlainValue value).map fun (key, value) =>
    (Text.asciiLower key, .str value)))


-- ---------------------------------------------------------------------------
-- Answers
-- ---------------------------------------------------------------------------

def notFound : Response := ⟨404, .text ""⟩

def wrongMethod : Response := ⟨405, .text ""⟩

/-- A name that is no UTF-8. -/
def badName : Response := ⟨400, .text "Invalid URL: Invalid UTF-8 in `name`"⟩

def wrongMediaType : Response := ⟨415, .text "Expected request with `Content-Type: application/json`"⟩

/-- The greatest length of a body in bytes. -/
def greatestBody : Nat := 2097152

def tooLong : Response := ⟨413, .text "Failed to buffer the request body: length limit exceeded"⟩

/-- Answers to HEAD have no body. -/
def withoutBody (response : Response) : Response :=
  { response with body := .text "" }

/-- The capabilities of a grid. -/
def configurationAnswer (host : Host) (segment : String) : Response :=
  match decodeSegment? segment with
  | none => badName
  | some name =>
    match host.configuration? name with
    | some fields => ⟨200, .json (PublicField.tableToJson fields)⟩
    | none => ⟨404, .text "unknown grid"⟩

variable {m : Type → Type} [Monad m]

/-- Run a grid for the JSON that the body begins with. -/
def gridAnswer (host : Host) (store : Store m) (segment : String) (request : Request) : m Response :=
  match decodeSegment? segment with
  | none => pure badName
  | some name =>
    if !announcesJson request.headers then pure wrongMediaType
    else if greatestBody < request.body.utf8ByteSize then pure tooLong
    else
      match Json.leading? request.body with
      | none => pure ⟨400, .account⟩
      | some body => do
        let (status, envelope) ← host.run store name (forwarded request.headers) body
        return ⟨status, .json envelope.toJson⟩

/-- Answer a request. -/
def respond (host : Host) (store : Store m) (request : Request) : m Response :=
  if request.method = "OPTIONS" then pure ⟨200, .text ""⟩
  else
    match route? request.target with
    | none => pure notFound
    | some (.grid segment) =>
      if request.method = "POST" then gridAnswer host store segment request else pure wrongMethod
    | some (.configuration segment) =>
      if request.method = "GET" then pure (configurationAnswer host segment)
      else if request.method = "HEAD" then pure (withoutBody (configurationAnswer host segment))
      else pure wrongMethod

end DataGrid.Http
