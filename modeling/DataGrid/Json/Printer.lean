-- SUMMARY: The compact text of a JSON value.
import DataGrid.Json.Basic

/-!
# Compact text

Values are written without spaces. In strings the quote, the backslash and the
control characters are escaped, everything else stands as it is.
-/

namespace DataGrid.Json

/-- The escape of a character inside a string. -/
def escapeChar (c : Char) : List Char :=
  if c = '"' then ['\\', '"']
  else if c = '\\' then ['\\', '\\']
  else if c = '\n' then ['\\', 'n']
  else if c = '\r' then ['\\', 'r']
  else if c = '\t' then ['\\', 't']
  else if c = '\x08' then ['\\', 'b']
  else if c = '\x0c' then ['\\', 'f']
  else if c.toNat < 32 then
    ['\\', 'u', '0', '0', Nat.digitChar (c.toNat / 16), Nat.digitChar (c.toNat % 16)]
  else [c]

/-- A quoted string. -/
def quote (s : String) : String :=
  String.ofList ('"' :: s.toList.flatMap escapeChar ++ ['"'])

mutual

/-- The compact text of a value. -/
def text : Json → String
  | .null => "null"
  | .bool true => "true"
  | .bool false => "false"
  | .num n => n.text
  | .str s => quote s
  | .arr items => "[" ++ textItems items ++ "]"
  | .obj members => "\x7b" ++ textMembers members ++ "\x7d"

def textItems : List Json → String
  | [] => ""
  | [x] => x.text
  | x :: y :: rest => x.text ++ "," ++ textItems (y :: rest)

def textMembers : List (String × Json) → String
  | [] => ""
  | [(k, x)] => quote k ++ ":" ++ x.text
  | (k, x) :: next :: rest => quote k ++ ":" ++ x.text ++ "," ++ textMembers (next :: rest)

end

end DataGrid.Json
