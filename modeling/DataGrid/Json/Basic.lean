-- SUMMARY: JSON values, decidable equality, and the equality of documents.
import DataGrid.Keyed
import DataGrid.Number.Basic

/-!
# JSON values

Objects are keyed lists, so their members ascend by key. A row is an object seen
as a stored record.
-/

namespace DataGrid

inductive Json where
  | null
  | bool (value : Bool)
  | num (value : Number)
  | str (value : String)
  | arr (items : List Json)
  | obj (members : List (String × Json))

/-- A stored record: the members of an object. -/
abbrev Row := Keyed Json

namespace Json

instance : Inhabited Json := ⟨.null⟩

mutual

/-- Equality of values is decidable. -/
def decEq (a b : Json) : Decidable (a = b) :=
  match a, b with
  | .null, .null => isTrue rfl
  | .bool a, .bool b => decidable_of_iff (a = b) (by simp)
  | .num a, .num b => decidable_of_iff (a = b) (by simp)
  | .str a, .str b => decidable_of_iff (a = b) (by simp)
  | .arr a, .arr b =>
    match decEqItems a b with
    | isTrue h => isTrue (by rw [h])
    | isFalse h => isFalse (by simpa using h)
  | .obj a, .obj b =>
    match decEqMembers a b with
    | isTrue h => isTrue (by rw [h])
    | isFalse h => isFalse (by simpa using h)
  | .null, .bool _ | .null, .num _ | .null, .str _ | .null, .arr _ | .null, .obj _ => isFalse (by simp)
  | .bool _, .null | .bool _, .num _ | .bool _, .str _ | .bool _, .arr _ | .bool _, .obj _ => isFalse (by simp)
  | .num _, .null | .num _, .bool _ | .num _, .str _ | .num _, .arr _ | .num _, .obj _ => isFalse (by simp)
  | .str _, .null | .str _, .bool _ | .str _, .num _ | .str _, .arr _ | .str _, .obj _ => isFalse (by simp)
  | .arr _, .null | .arr _, .bool _ | .arr _, .num _ | .arr _, .str _ | .arr _, .obj _ => isFalse (by simp)
  | .obj _, .null | .obj _, .bool _ | .obj _, .num _ | .obj _, .str _ | .obj _, .arr _ => isFalse (by simp)

def decEqItems (a b : List Json) : Decidable (a = b) :=
  match a, b with
  | [], [] => isTrue rfl
  | [], _ :: _ | _ :: _, [] => isFalse (by simp)
  | x :: xs, y :: ys =>
    match decEq x y, decEqItems xs ys with
    | isTrue h, isTrue hs => isTrue (by rw [h, hs])
    | isFalse h, _ => isFalse (by simp [h])
    | _, isFalse h => isFalse (by simp [h])

def decEqMembers (a b : List (String × Json)) : Decidable (a = b) :=
  match a, b with
  | [], [] => isTrue rfl
  | [], _ :: _ | _ :: _, [] => isFalse (by simp)
  | (k, x) :: xs, (l, y) :: ys =>
    match instDecidableEqString k l, decEq x y, decEqMembers xs ys with
    | isTrue hk, isTrue h, isTrue hs => isTrue (by rw [hk, h, hs])
    | isFalse h, _, _ => isFalse (by simp [h])
    | _, isFalse h, _ => isFalse (by simp [h])
    | _, _, isFalse h => isFalse (by simp [h])

end

instance : DecidableEq Json := decEq


-- ---------------------------------------------------------------------------
-- Equality of documents
-- ---------------------------------------------------------------------------

mutual

/-- Equality of documents. An integer is no double, and the two zeros agree. -/
def same : Json → Json → Bool
  | .null, .null => true
  | .bool a, .bool b => a == b
  | .num a, .num b => a.sameNumber b
  | .str a, .str b => a == b
  | .arr a, .arr b => sameItems a b
  | .obj a, .obj b => sameMembers a b
  | _, _ => false

def sameItems : List Json → List Json → Bool
  | [], [] => true
  | x :: xs, y :: ys => same x y && sameItems xs ys
  | _, _ => false

def sameMembers : List (String × Json) → List (String × Json) → Bool
  | [], [] => true
  | (k, x) :: xs, (l, y) :: ys => k == l && same x y && sameMembers xs ys
  | _, _ => false

end


-- ---------------------------------------------------------------------------
-- Views
-- ---------------------------------------------------------------------------

/-- A whole number in a document. -/
def ofInt (i : Int) : Json :=
  .num (.int i)

def ofNat (n : Nat) : Json :=
  .num (.int n)

/-- The list of texts. -/
def ofStrings (texts : List String) : Json :=
  .arr (texts.map .str)

/-- A member that is there only where there is a value. -/
def given (name : String) : Option Json → List (String × Json)
  | some value => [(name, value)]
  | none => []

def str? : Json → Option String
  | .str s => some s
  | _ => none

/-- The member under `key`, if the value is an object that has it. -/
def member? : Json → String → Option Json
  | .obj members, key => Keyed.get? members key
  | _, _ => none

/-- Texts, numbers and truth values. -/
def isScalar : Json → Bool
  | .str _ | .num _ | .bool _ => true
  | _ => false

end Json

end DataGrid
