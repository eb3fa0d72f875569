-- SUMMARY: Identifiers, dotted column paths, and the segments of a column.
import DataGrid.Text.Split

/-!
# Names

An identifier is an ASCII letter or underscore followed by letters, digits and
underscores. A column path is one or more identifiers joined by dots.
-/

namespace DataGrid.Text

/-- The segments of a dotted column. -/
def segments (column : String) : List String :=
  (split '.' column.toList).map String.ofList

def isNameStart (c : Char) : Bool :=
  c.isAlpha || c == '_'

def isNamePart (c : Char) : Bool :=
  c.isAlphanum || c == '_'

def isIdentifierChars : List Char → Bool
  | [] => false
  | c :: rest => isNameStart c && rest.all isNamePart

/-- Whether a text is an identifier. -/
def isIdentifier (name : String) : Bool :=
  isIdentifierChars name.toList

/-- Whether a text is identifiers joined by dots. -/
def isColumnPath (name : String) : Bool :=
  (split '.' name.toList).all isIdentifierChars

theorem segments_ne_nil (column : String) : segments column ≠ [] := by
  simp [segments, split_ne_nil]

end DataGrid.Text
