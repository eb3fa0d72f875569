-- SUMMARY: Whether a text occurs inside another one.

/-!
# Occurrence

A needle occurs in a text when it stands somewhere inside it, in one piece.
-/

namespace DataGrid.Text

/-- Whether `needle` stands somewhere in the text. -/
def occurs (needle : List Char) : List Char → Bool
  | [] => needle.isEmpty
  | c :: rest => needle.isPrefixOf (c :: rest) || occurs needle rest

/-- Occurring means to be a contiguous part. -/
theorem occurs_iff {needle text : List Char} : occurs needle text = true ↔ needle <:+: text := by
  induction text with
  | nil => simp [occurs]
  | cons c rest ih => simp [occurs, ih, List.infix_cons_iff]

end DataGrid.Text
