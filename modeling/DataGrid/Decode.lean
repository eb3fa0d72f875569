-- SUMMARY: Decoding JSON values into typed ones, with the first fault found.
import DataGrid.Json.Printer
import DataGrid.Text.Quoted

/-!
# Decoding

A decoder takes a JSON value apart. It walks the members of an object in their
order and stops at the first value that does not fit; only a record whose members
all fit is asked for the members it lacks. A record may also be written as a list
of its members' values, which stand in a fixed order and may break off before a
member that can be left out.
-/

namespace DataGrid

/-- The kinds of records that are decoded. -/
inductive RecordKind where
  | fieldDescriptor
  | joinDescriptor
  | call
  | remote
  | grid
  | reply
  | content
  deriving DecidableEq

def RecordKind.text : RecordKind → String
  | .fieldDescriptor => "FieldDescriptor"
  | .joinDescriptor => "JoinDescriptor"
  | .call => "ApiCall"
  | .remote => "ApiConfig"
  | .grid => "GridDefinition"
  | .reply => "RemoteReply"
  | .content => "RemoteContent"

/-- What a decoder asks for. -/
inductive Wanted where
  | bool
  | string
  | map
  | list
  | count
  | record (kind : RecordKind)
  deriving DecidableEq

def RecordKind.withSize (kind : RecordKind) : Nat → String
  | 1 => "struct " ++ kind.text ++ " with 1 element"
  | size => s!"struct {kind.text} with {size} elements"

def Wanted.text : Wanted → String
  | .bool => "a boolean"
  | .string => "a string"
  | .map => "a map"
  | .list => "a sequence"
  | .count => "usize"
  | .record kind => "struct " ++ kind.text

inductive DecodeError where
  /-- A value of another kind. -/
  | kind (found : Json) (wanted : Wanted)
  /-- An integer out of range. -/
  | range (found : Int) (wanted : Wanted)
  | missing (name : String)
  /-- A member of a record is written twice. -/
  | repeated (name : String)
  /-- A list breaks off before a member that a record of some size must have. -/
  | short (found : Nat) (record : RecordKind) (size : Nat)
  /-- A list goes on behind the last member of a record. -/
  | long (found : Nat)
  /-- A value that decodes but does not stand up to a check, in the words of the check. -/
  | refused (text : String)

namespace DecodeError

/-- The description of a value found in the wrong place. -/
def describe : Json → String
  | .null => "null"
  | .bool true => "boolean `true`"
  | .bool false => "boolean `false`"
  | .num (.int i) => s!"integer `{i}`"
  | .num (.double d) => s!"floating point `{d.text}`"
  | .str s => "string " ++ Text.quoted s
  | .arr _ => "sequence"
  | .obj _ => "map"

def text : DecodeError → String
  | .kind found wanted => s!"invalid type: {describe found}, expected {wanted.text}"
  | .range found wanted => s!"invalid value: integer `{found}`, expected {wanted.text}"
  | .missing name => s!"missing field `{name}`"
  | .repeated name => s!"duplicate field `{name}`"
  | .short found record size => s!"invalid length {found}, expected {record.withSize size}"
  | .long found => s!"invalid length {found}, expected fewer elements in array"
  | .refused text => text

end DecodeError

/-- The outcome of decoding. -/
abbrev Decoded := Except DecodeError

namespace Decode

def bool : Json → Decoded Bool
  | .bool b => .ok b
  | found => .error (.kind found .bool)

def string : Json → Decoded String
  | .str s => .ok s
  | found => .error (.kind found .string)

/-- A natural number of 64 bits. -/
def count : Json → Decoded Nat
  | .num (.int i) => if 0 ≤ i ∧ i ≤ Number.greatestInt then .ok i.toNat else .error (.range i .count)
  | found => .error (.kind found .count)

/-- Null or a value. -/
def optional {α : Type} (decode : Json → Decoded α) : Json → Decoded (Option α)
  | .null => .ok none
  | found => (decode found).map some

def list {α : Type} (decode : Json → Decoded α) : Json → Decoded (List α)
  | .arr items => items.mapM decode
  | found => .error (.kind found .list)

/-- An object with values of one kind under any keys; of repeated keys the last stays. -/
def map {α : Type} (decode : Json → Decoded α) : Json → Decoded (Keyed α)
  | .obj members =>
    members.foldlM (fun decoded (key, found) => (decode found).map (Keyed.insert decoded key)) []
  | found => .error (.kind found .map)

/-- Read the named members in their order, none of them twice, and pass over the others. -/
def members {α : Type} (names : List String) (read : α → String → Json → Decoded α) (seen : List String) (state : α) :
    List (String × Json) → Decoded α
  | [] => .ok state
  | (name, found) :: rest =>
    if name ∈ names then
      if name ∈ seen then .error (.repeated name)
      else (read state name found).bind fun next => members names read (name :: seen) next rest
    else members names read seen state rest

/-- Read the items of a list into the named members, one after the other, as far as both go. -/
def items {α : Type} (read : α → String → Json → Decoded α) (state : α) : List String → List Json → Decoded α
  | name :: names, found :: rest => (read state name found).bind fun next => items read next names rest
  | _, _ => .ok state

/-- A record, read member by member from the starting state. A list has its members in the order of their names, and at
least as many of them as are required. -/
def record {α : Type} (kind : RecordKind) (names : List String) (required : Nat)
    (read : α → String → Json → Decoded α) (start : α) : Json → Decoded α
  | .obj entries => members names read [] start entries
  | .arr found => do
    let state ← items read start names found
    if found.length < required then throw (.short found.length kind names.length)
    if names.length < found.length then throw (.long found.length)
    return state
  | found => .error (.kind found (.record kind))

/-- A member that a record must have. -/
def require {α : Type} (name : String) : Option α → Decoded α
  | some value => .ok value
  | none => .error (.missing name)

end Decode

end DataGrid
