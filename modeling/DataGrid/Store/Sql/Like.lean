-- SUMMARY: LIKE patterns with an escape character, and the pattern of a literal text.
import DataGrid.Text.Lowercase

/-!
# LIKE

In a pattern `%` stands for any run of characters and `_` for any one, and the
escape character takes the meaning off the next one. Letters match whatever
their case, as far as ASCII goes. A pattern and a text end at the first NUL, and
the length of a pattern is limited.
-/

namespace DataGrid.Sql.Like

/-- One part of a pattern. -/
inductive Part where
  | anyRun
  | anyOne
  | literal (c : Char)
  deriving DecidableEq

/-- The escape character. -/
def escape : Char := '\\'

/-- Read a pattern. An escape character at its end makes it match nothing. -/
def parts? : List Char → Option (List Part)
  | [] => some []
  | [c] =>
    if c = escape then none
    else if c = '%' then some [.anyRun]
    else if c = '_' then some [.anyOne]
    else some [.literal c]
  | c :: d :: rest =>
    if c = escape then (parts? rest).map (.literal d :: ·)
    else if c = '%' then (parts? (d :: rest)).map (.anyRun :: ·)
    else if c = '_' then (parts? (d :: rest)).map (.anyOne :: ·)
    else (parts? (d :: rest)).map (.literal c :: ·)

/-- Some end of the text passes a test. -/
def someEnd (test : List Char → Bool) : List Char → Bool
  | [] => test []
  | c :: rest => test (c :: rest) || someEnd test rest

/-- Match the parts of a pattern against a whole text. -/
def matchParts : List Part → List Char → Bool
  | [], text => text.isEmpty
  | .anyRun :: parts, text => someEnd (matchParts parts) text
  | .anyOne :: parts, text =>
    match text with
    | _ :: rest => matchParts parts rest
    | [] => false
  | .literal c :: parts, text =>
    match text with
    | d :: rest => c.toLower == d.toLower && matchParts parts rest
    | [] => false

/-- The last two places of the first plane hold no character and are read as the replacement character. -/
def readAs (c : Char) : Char :=
  if c = '\ufffe' ∨ c = '\uffff' then '\ufffd' else c

/-- The characters up to the first NUL, as they are read. -/
def upToNul (cs : List Char) : List Char :=
  (cs.takeWhile (· ≠ '\x00')).map readAs

/-- Whether a text matches a pattern. -/
def isMatch (pattern text : List Char) : Bool :=
  match parts? (upToNul pattern) with
  | some parts => matchParts parts (upToNul text)
  | none => false

/-- A character that stands for itself in a pattern. -/
def literally (c : Char) : List Char :=
  if c = '%' ∨ c = '_' ∨ c = escape then [escape, c] else [c]

/-- The pattern of the texts that contain `needle` in lower case. -/
def containing (needle : String) : List Char :=
  '%' :: (Text.lowerChars needle.toList).flatMap literally ++ ['%']

/-- The greatest length of a pattern in bytes. -/
def greatestLength : Nat := 50000

/-- Whether the pattern of a literal text is too long. -/
def isTooLong (needle : String) : Bool :=
  greatestLength < (String.ofList (containing needle)).utf8ByteSize

end DataGrid.Sql.Like
