-- SUMMARY: Keys of settings: a name, perhaps followed by steps into its parts.

/-!
# Key paths

A key that is a path begins with a name. Each step after it goes to a part of what
comes before: a point and a name, or an index in brackets, which may have blanks
around it and must fit into 64 signed bits. Any other key stands for itself.
-/

namespace DataGrid

namespace KeyPath

def isNameChar (c : Char) : Bool :=
  c.isAlphanum || c == '_' || c == '-'

/-- A blank around an index. -/
def isSpace (c : Char) : Bool :=
  c == ' ' || c == '\t'

/-- The absolute value of the least index. -/
def indexBound : Nat := 9223372036854775808

/-- Where a reader of paths stands. -/
inductive Place where
  /-- Before a name. -/
  | start
  | name
  /-- After an opening bracket. -/
  | opened
  /-- After the minus sign of an index. -/
  | sign
  /-- After some digits of an index. -/
  | digits (negative : Bool) (value : Nat)
  /-- After an index and a blank. -/
  | spaced
  /-- After a closing bracket. -/
  | closed
  deriving DecidableEq

namespace Place

/-- Between two steps. -/
def step? (c : Char) : Option Place :=
  if c = '.' then some .start else if c = '[' then some .opened else none

/-- One more digit of an index. -/
def digit? (negative : Bool) (value : Nat) (c : Char) : Option Place :=
  let value := 10 * value + (c.toNat - '0'.toNat)
  if value < indexBound ∨ (negative ∧ value = indexBound) then some (.digits negative value) else none

/-- Read one character. -/
def next? : Place → Char → Option Place
  | .start, c => if isNameChar c then some .name else none
  | .name, c => if isNameChar c then some .name else step? c
  | .opened, c =>
    if isSpace c then some .opened
    else if c = '-' then some .sign
    else if c.isDigit then digit? false 0 c
    else none
  | .sign, c => if c.isDigit then digit? true 0 c else none
  | .digits negative value, c =>
    if c.isDigit then digit? negative value c
    else if c = ']' then some .closed
    else if isSpace c then some .spaced
    else none
  | .spaced, c => if isSpace c then some .spaced else if c = ']' then some .closed else none
  | .closed, c => step? c

/-- Whether a path may end here. -/
def isEnd : Place → Bool
  | .name | .closed => true
  | .start | .opened | .sign | .digits .. | .spaced => false

end Place

/-- Whether a key is a path. -/
def isPath (key : List Char) : Bool :=
  (key.foldlM Place.next? .start).any Place.isEnd

/-- The name that a key goes to, and whether it goes to the whole of what has that name. -/
def target (key : String) : String × Bool :=
  let name := key.toList.takeWhile isNameChar
  if isPath key.toList then (String.ofList name, name.length == key.length) else (key, true)

end KeyPath

end DataGrid
