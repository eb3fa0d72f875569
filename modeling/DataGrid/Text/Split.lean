-- SUMMARY: Cutting a text at every separator.

/-!
# Cutting

A text is cut at every separator. There is always at least one piece, and the
pieces joined by the separator are the text again.
-/

namespace DataGrid.Text

/-- Cut at every separator. Pieces may be empty. -/
def split (separator : Char) : List Char → List (List Char)
  | [] => [[]]
  | c :: rest =>
    if c = separator then [] :: split separator rest
    else
      match split separator rest with
      | piece :: pieces => (c :: piece) :: pieces
      | [] => [[c]]

theorem split_ne_nil (separator : Char) (cs : List Char) : split separator cs ≠ [] := by
  fun_cases split separator cs <;> simp

/-- The pieces joined by the separator are the text again. -/
theorem intercalate_split (separator : Char) (cs : List Char) :
    [separator].intercalate (split separator cs) = cs := by
  induction cs with
  | nil => rfl
  | cons c rest ih =>
    obtain ⟨piece, pieces, h⟩ := List.exists_cons_of_ne_nil (split_ne_nil separator rest)
    rw [h] at ih
    unfold split
    split
    · next same => simp [h, same, List.intercalate_cons_cons, ih]
    · rw [h]
      cases pieces <;> simp_all [List.intercalate]

end DataGrid.Text
