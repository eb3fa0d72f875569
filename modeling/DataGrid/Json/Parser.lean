-- SUMMARY: Building JSON values from tokens, as written and in canonical form.
import DataGrid.Json.Lexer
import DataGrid.Json.Written

/-!
# Parsing

The parser is a machine that is fed one token at a time. It keeps the lists and
objects that are still open. `written?` gives the value as written, with the
members of objects in the order of the text and keys that may be repeated;
`canonical` sorts the members and keeps the last one under each key.
-/

namespace DataGrid.Json

/-- A list or object that is still open, its contents last first. -/
inductive Frame where
  | list (items : List Written)
  | object (members : List (Option String × Written))
  /-- An object whose next value belongs to `key`. -/
  | member (members : List (Option String × Written)) (key : Option String)

/-- What may come next. -/
inductive Expected where
  /-- A value, or right after an opening bracket its closing one. -/
  | value (closable : Bool)
  /-- A key, or right after an opening brace its closing one. -/
  | key (closable : Bool)
  | colon (key : Option String)
  /-- A comma or the end of the innermost list or object. -/
  | separator
  /-- Nothing: the value is complete. -/
  | nothing (value : Written)

structure Reading where
  frames : List Frame
  expected : Expected

namespace Reading

/-- A complete value, in its place. -/
def complete? (frames : List Frame) (value : Written) : Option Reading :=
  match frames with
  | [] => some ⟨[], .nothing value⟩
  | .list items :: rest => some ⟨.list (value :: items) :: rest, .separator⟩
  | .member members key :: rest => some ⟨.object ((key, value) :: members) :: rest, .separator⟩
  | .object _ :: _ => none

/-- Open a list or an object, where only so many may be open at once. -/
def open? (depth : Nat) (frames : List Frame) (frame : Frame) (expected : Expected) : Option Reading :=
  if frames.length < depth then some ⟨frame :: frames, expected⟩ else none

/-- The innermost list or object is complete. -/
def close? (frames : List Frame) (list : Bool) : Option Reading :=
  match frames, list with
  | .list items :: rest, true => complete? rest (.list items.reverse)
  | .object members :: rest, false => complete? rest (.object members.reverse)
  | _, _ => none

/-- A string or a numeral. -/
def leaf {α : Type} (form : α → Json) : Option α → Written
  | some value => .scalar (form value)
  | none => .unreadable

/-- Feed one token, where only so many lists and objects may be open at once. -/
def feed? (depth : Nat) (r : Reading) (token : Token) : Option Reading :=
  match r.expected with
  | .value closable =>
    match token with
    | .null => complete? r.frames (.scalar .null)
    | .bool b => complete? r.frames (.scalar (.bool b))
    | .num n => complete? r.frames (leaf .num n)
    | .str s => complete? r.frames (leaf .str s)
    | .openList => open? depth r.frames (.list []) (.value true)
    | .openObject => open? depth r.frames (.object []) (.key true)
    | .closeList => if closable then close? r.frames true else none
    | _ => none
  | .key closable =>
    match token with
    | .str key => some ⟨r.frames, .colon key⟩
    | .closeObject => if closable then close? r.frames false else none
    | _ => none
  | .colon key =>
    match token, r.frames with
    | .colon, .object members :: rest => some ⟨.member members key :: rest, .value false⟩
    | _, _ => none
  | .separator =>
    match token, r.frames with
    | .comma, .list _ :: _ => some ⟨r.frames, .value false⟩
    | .comma, .object _ :: _ => some ⟨r.frames, .key false⟩
    | .closeList, _ => close? r.frames true
    | .closeObject, _ => close? r.frames false
    | _, _ => none
  | .nothing _ => none

/-- The value, once it is complete. -/
def value? (r : Reading) : Option Written :=
  match r.expected with
  | .nothing value => some value
  | _ => none

end Reading

/-- The value that a text holds, as written, if no more than so many lists and objects lie within each other. -/
def written? (depth : Nat) (text : String) : Option Written :=
  (Token.ofText? text).bind fun tokens =>
    (tokens.foldlM (Reading.feed? depth) ⟨[], .value false⟩).bind Reading.value?

mutual

/-- The members of every object sorted by key, of repeated keys the last. -/
def canonical : Json → Json
  | .arr items => .arr (canonicalItems items)
  | .obj members => .obj (Keyed.ofList (canonicalMembers members))
  | .null => .null
  | .bool b => .bool b
  | .num n => .num n
  | .str s => .str s

def canonicalItems : List Json → List Json
  | [] => []
  | x :: rest => canonical x :: canonicalItems rest

def canonicalMembers : List (String × Json) → List (String × Json)
  | [] => []
  | (k, x) :: rest => (k, canonical x) :: canonicalMembers rest

end

/-- How many lists and objects may lie within each other. -/
def greatestDepth : Nat := 127

/-- The value that a text holds. -/
def parse? (text : String) : Option Json :=
  ((written? greatestDepth text).bind (Written.read? .whole)).map canonical

/-- What an outline shows of the value that a text holds, with repeated keys as they are. -/
def outlined? (outline : Outline) (text : String) : Option Json :=
  (written? text.length text).bind (Written.read? outline)


-- ---------------------------------------------------------------------------
-- Values that a text begins with
-- ---------------------------------------------------------------------------

/-- Read on until a list, an object or a string is complete. -/
def readOn (scan : Token.Scan) (reading : Reading) : List Char → Option Written
  | [] => none
  | c :: rest =>
    match Token.feed? (scan, []) c with
    | none => none
    | some (scan, tokens) =>
      match tokens.reverse.foldlM (Reading.feed? greatestDepth) reading with
      | none => none
      | some reading =>
        match reading.value? with
        | some value => some value
        | none => readOn scan reading rest

/-- The literal word or number that some characters begin with. -/
def leadingScalar? (cs : List Char) : Option Json :=
  if "null".toList.isPrefixOf cs then some .null
  else if "true".toList.isPrefixOf cs then some (.bool true)
  else if "false".toList.isPrefixOf cs then some (.bool false)
  else (Number.ofNumeral? (Numeral.leading cs)).map .num

/-- The value that a text begins with, whatever follows it. -/
def leading? (text : String) : Option Json :=
  let cs := text.toList.dropWhile Token.isSpace
  match cs with
  | '[' :: _ | '\x7b' :: _ | '"' :: _ => ((readOn .between ⟨[], .value false⟩ cs).bind (Written.read? .whole)).map canonical
  | _ => leadingScalar? cs

end DataGrid.Json
