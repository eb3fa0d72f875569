-- SUMMARY: Values whose objects are keyed lists throughout.
import DataGrid.Json.Basic

/-!
# Objects with ascending members

The members of an object ascend by key, in a value and in everything inside it.
Documents that are read have this shape. No object then holds a key twice.
-/

namespace DataGrid.Json

mutual

/-- Whether the members of every object in the value ascend by key. -/
def isOrdered : Json → Bool
  | .null | .bool _ | .num _ | .str _ => true
  | .arr items => isOrderedItems items
  | .obj members => decide (Keyed.Ascending members) && isOrderedMembers members

def isOrderedItems : List Json → Bool
  | [] => true
  | x :: rest => isOrdered x && isOrderedItems rest

def isOrderedMembers : List (String × Json) → Bool
  | [] => true
  | (_, x) :: rest => isOrdered x && isOrderedMembers rest

end

theorem isOrderedMembers_eq (members : List (String × Json)) :
    isOrderedMembers members = members.all (·.2.isOrdered) := by
  induction members with
  | nil => simp [isOrderedMembers]
  | cons e rest ih => simp [isOrderedMembers, ih]

theorem ascending_of_isOrdered {members : Row} (h : isOrdered (.obj members) = true) : members.Ascending := by
  simp only [isOrdered, Bool.and_eq_true, decide_eq_true_eq] at h
  exact h.1

theorem isOrdered_of_mem {members : Row} (h : isOrdered (.obj members) = true) {e : String × Json}
    (he : e ∈ members) : e.2.isOrdered = true := by
  simp only [isOrdered, Bool.and_eq_true, isOrderedMembers_eq, List.all_eq_true] at h
  exact h.2 e he

end DataGrid.Json
