-- SUMMARY: Values as a text writes them, and reading those parts of them that are looked at.
import DataGrid.Json.Basic

/-!
# Written values

A written value keeps the members of objects in the order of the text, with keys
that may be repeated. Some strings and numerals are well formed and have no value.
An outline says which parts of a value are looked at; only these are read, and the
members that are passed over may hold what has no value.
-/

namespace DataGrid.Json

/-- A value as a text writes it. -/
inductive Written where
  | scalar (value : Json)
  /-- A string or numeral without a value. -/
  | unreadable
  | list (items : List Written)
  | object (members : List (Option String × Written))

/-- Which parts of a value are looked at. -/
inductive Outline where
  /-- All of it. -/
  | whole
  /-- Of an object, the members with certain names; a list has them in this order. -/
  | record (members : List (String × Outline))
  /-- The members of an object, whatever their names. -/
  | map (values : Outline)
  | list (items : Outline)

namespace Outline

/-- What is looked at in the item of a list at some place. -/
def item (outline : Outline) (place : Nat) : Outline :=
  match outline with
  | .list items => items
  | .record members => (members[place]?).elim .whole (·.2)
  | .whole | .map _ => .whole

/-- What is looked at in a member of an object, if it is looked at. -/
def member? (outline : Outline) (name : String) : Option Outline :=
  match outline with
  | .record members => members.lookup name
  | .map values => some values
  | .whole | .list _ => some .whole

end Outline

namespace Written

mutual

/-- The parts of a written value that an outline shows, if they all have values. -/
def read? (outline : Outline) : Written → Option Json
  | .scalar value => some value
  | .unreadable => none
  | .list items => (readItems? outline 0 items).map .arr
  | .object members => (readMembers? outline members).map .obj

/-- The items are read from some place on. -/
def readItems? (outline : Outline) (place : Nat) : List Written → Option (List Json)
  | [] => some []
  | x :: rest => do
    let value ← read? (outline.item place) x
    let values ← readItems? outline (place + 1) rest
    return value :: values

/-- The names of all members are read. -/
def readMembers? (outline : Outline) : List (Option String × Written) → Option (List (String × Json))
  | [] => some []
  | (name, x) :: rest => do
    let name ← name
    match outline.member? name with
    | some inner =>
      let value ← read? inner x
      let values ← readMembers? outline rest
      return (name, value) :: values
    | none => readMembers? outline rest

end

end Written

end DataGrid.Json
