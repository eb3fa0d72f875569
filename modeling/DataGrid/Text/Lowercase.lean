-- SUMMARY: Lower-casing of whole texts, with the sigma at the end of words; ASCII folding.
import DataGrid.Text.Blank
import DataGrid.Text.CaseTable

/-!
# Lower case

`lower` lower-cases a whole text. Each character has its lower-case letters of
its own, except that a capital sigma at the end of a word becomes a final sigma.
The end of a word is seen from the neighbours: a cased character before and none
after, where some characters, such as accents and apostrophes, are passed over.
-/

namespace DataGrid.Text

/-- Whether the letter numbered `n` belongs to a run. -/
def CaseRun.covers (run : CaseRun) (n : Nat) : Bool :=
  run.first ≤ n && n ≤ run.last && (n - run.first) % run.step == 0

/-- The single lower-case letter of a character. -/
def simpleLower (c : Char) : Char :=
  match lowerRuns.find? (·.covers c.toNat) with
  | some run => Char.ofNat (run.target + (c.toNat - run.first))
  | none => c

/-- The lower-case letters of a character by itself: a capital I with a dot keeps its dot. -/
def lowerChar (c : Char) : List Char :=
  if c = '\u0130' then ['i', '\u0307'] else [simpleLower c]

def isCased (c : Char) : Bool :=
  inRanges casedRanges c

/-- Whether a character is passed over when one looks for a cased neighbour. -/
def isCaseIgnorable (c : Char) : Bool :=
  inRanges caseIgnorableRanges c

/-- Whether the first character that is not passed over is cased. -/
def startsCased (cs : List Char) : Bool :=
  match cs.dropWhile isCaseIgnorable with
  | c :: _ => isCased c
  | [] => false

/-- Lower-case characters that follow a cased one or not. -/
def lowerAfter : (afterCased : Bool) → List Char → List Char
  | _, [] => []
  | afterCased, c :: rest =>
    let lowered :=
      if c = 'Σ' then [if afterCased && !startsCased rest then 'ς' else 'σ'] else lowerChar c
    lowered ++ lowerAfter (if isCaseIgnorable c then afterCased else isCased c) rest

def lowerChars (cs : List Char) : List Char :=
  lowerAfter false cs

/-- The text in lower case. -/
def lower (s : String) : String :=
  String.ofList (lowerChars s.toList)

/-- The text with its ASCII capitals in lower case. -/
def asciiLower (s : String) : String :=
  String.ofList (s.toList.map Char.toLower)

end DataGrid.Text
