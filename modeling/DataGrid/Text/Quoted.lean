-- SUMMARY: A text between quotes, as messages show it.
import DataGrid.Text.Blank
import DataGrid.Text.UnshownTable

/-!
# Quoted text

Messages show a text between quotes. Quotes and backslashes inside it are
escaped, and so is every character that would not show by itself.
-/

namespace DataGrid.Text

/-- Whether a character shows by itself. -/
def isShown (c : Char) : Bool :=
  !inRanges unshownRanges c

/-- A character by its number, in hexadecimal. -/
def numbered (c : Char) : List Char :=
  ['\\', 'u', '\x7b'] ++ Nat.toDigits 16 c.toNat ++ ['\x7d']

/-- A character as it stands between quotes. -/
def quotedChar (c : Char) : List Char :=
  if c = '"' ∨ c = '\\' then ['\\', c]
  else if c = '\x00' then ['\\', '0']
  else if c = '\t' then ['\\', 't']
  else if c = '\n' then ['\\', 'n']
  else if c = '\r' then ['\\', 'r']
  else if isShown c then [c]
  else numbered c

/-- A text between quotes. -/
def quoted (s : String) : String :=
  String.ofList ('"' :: s.toList.flatMap quotedChar ++ ['"'])

end DataGrid.Text
