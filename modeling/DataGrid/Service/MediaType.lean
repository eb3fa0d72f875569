-- SUMMARY: Media types of requests, and which of them are JSON.

/-!
# Media types

A media type is a type and a subtype joined by a slash, and parameters after
semicolons. The last plus sign inside a subtype sets off its suffix. Blanks may
stand only before a parameter and after a quoted value.
-/

namespace DataGrid

structure MediaType where
  type : List Char
  /-- The subtype up to its suffix. -/
  subtype : List Char
  suffix : Option (List Char)
  deriving DecidableEq

namespace MediaType

/-- The characters of names and of values that are not quoted. -/
def isTokenChar (c : Char) : Bool :=
  c.isAlphanum || "!#$%&'*+-.^_`|~".toList.contains c

/-- The characters that can stand in a header. -/
def isVisible (c : Char) : Bool :=
  32 ≤ c.toNat && c.toNat < 127

/-- Where a reader of parameters stands. -/
inductive Place where
  /-- Before a parameter. -/
  | start
  | name
  /-- Right after the equals sign. -/
  | value
  | token
  /-- Right after an opening quote. A quote there does not close it. -/
  | opened
  | quoted
  /-- After a closing quote. -/
  | closed
  deriving DecidableEq

namespace Place

/-- Read one character. -/
def next? : Place → Char → Option Place
  | .start, c => if c = ' ' then some .start else if isTokenChar c then some .name else none
  | .name, c => if c = '=' then some .value else if isTokenChar c then some .name else none
  | .value, c => if c = '"' then some .opened else if isTokenChar c then some .token else none
  | .token, c => if c = ';' then some .start else if isTokenChar c then some .token else none
  | .opened, c => if isVisible c then some .quoted else none
  | .quoted, c => if c = '"' then some .closed else if isVisible c then some .quoted else none
  | .closed, c => if c = ';' then some .start else if c = ' ' then some .closed else none

/-- Whether the parameters may end here. -/
def isEnd : Place → Bool
  | .start | .value | .token | .closed => true
  | .name | .opened | .quoted => false

end Place

/-- Whether what follows the first semicolon is a list of parameters. -/
def areParameters (cs : List Char) : Bool :=
  (cs.foldlM Place.next? .start).any Place.isEnd

/-- Set off the suffix after the last plus sign. A subtype does not begin with its suffix. -/
def ofNames (type name : List Char) : MediaType :=
  let suffix := (name.reverse.takeWhile (· ≠ '+')).reverse
  let subtype := name.take (name.length - suffix.length - 1)
  if subtype.isEmpty then ⟨type, name, none⟩ else ⟨type, subtype, some suffix⟩

/-- Read a media type; letters count as lower-case ones. -/
def ofChars? (cs : List Char) : Option MediaType :=
  let cs := cs.map Char.toLower
  let type := cs.takeWhile isTokenChar
  match cs.drop type.length with
  | '/' :: rest =>
    let name := rest.takeWhile isTokenChar
    match rest.drop name.length with
    | [] => if type.isEmpty then none else some (ofNames type name)
    | ';' :: parameters =>
      if !type.isEmpty && !name.isEmpty && areParameters parameters then some (ofNames type name) else none
    | _ => none
  | _ => none

/-- Whether a media type is `application/json`, or of the application type with the suffix `json`. -/
def isJson (m : MediaType) : Bool :=
  m.type = "application".toList && (m.subtype = "json".toList || m.suffix = some "json".toList)

end MediaType

end DataGrid
