-- SUMMARY: Cutting a JSON text into tokens, one character at a time.
import DataGrid.Json.Basic
import DataGrid.Number.Numeral

/-!
# Tokens

The lexer is a machine that is fed one character at a time. It stands between
tokens or inside one, and it refuses a character that cannot go on from there. A
string with half of a surrogate pair, and a numeral beyond the doubles, are well
formed without having a value.
-/

namespace DataGrid.Json

inductive Token where
  | openList
  | closeList
  | openObject
  | closeObject
  | comma
  | colon
  | null
  | bool (value : Bool)
  | num (value : Option Number)
  | str (value : Option String)

namespace Token

/-- The characters of an unfinished string, last first; none are held once the string has lost its value. -/
abbrev Held := Option (List Char)

/-- One more character. -/
def Held.push (held : Held) (c : Char) : Held :=
  held.map (c :: ·)

/-- Where the lexer stands. The characters of an unfinished token are held last first. -/
inductive Scan where
  /-- Between tokens. -/
  | between
  /-- Inside a string. -/
  | string (held : Held)
  /-- After a backslash. -/
  | escape (held : Held)
  /-- Inside four hex digits, of which `missing` are still to come, perhaps after a high surrogate. -/
  | hex (held : Held) (high : Option Nat) (missing : Nat) (value : Nat)
  /-- After a high surrogate, whose partner should follow. -/
  | surrogate (held : Held) (high : Nat)
  /-- After a high surrogate and a backslash. -/
  | surrogateEscape (held : Held) (high : Nat)
  /-- Inside a numeral. -/
  | numeral (held : List Char)
  /-- Inside a literal word. -/
  | word (held : List Char)

def isNumeralChar (c : Char) : Bool :=
  c.isDigit || c == '-' || c == '+' || c == '.' || c == 'e' || c == 'E'

/-- The characters that may stand between tokens. -/
def isSpace (c : Char) : Bool :=
  c == ' ' || c == '\n' || c == '\r' || c == '\t'

/-- A character where a token may begin. -/
def start? (tokens : List Token) (c : Char) : Option (Scan × List Token) :=
  if isSpace c then some (.between, tokens)
  else if c = '[' then some (.between, .openList :: tokens)
  else if c = ']' then some (.between, .closeList :: tokens)
  else if c = '\x7b' then some (.between, .openObject :: tokens)
  else if c = '\x7d' then some (.between, .closeObject :: tokens)
  else if c = ',' then some (.between, .comma :: tokens)
  else if c = ':' then some (.between, .colon :: tokens)
  else if c = '"' then some (.string (some []), tokens)
  else if c.isDigit || c == '-' then some (.numeral [c], tokens)
  else if c.isLower then some (.word [c], tokens)
  else none

/-- The character of a one-letter escape. -/
def escaped? (c : Char) : Option Char :=
  if c = '"' ∨ c = '\\' ∨ c = '/' then some c
  else if c = 'b' then some '\x08'
  else if c = 'f' then some '\x0c'
  else if c = 'n' then some '\n'
  else if c = 'r' then some '\r'
  else if c = 't' then some '\t'
  else none

def hexDigit? (c : Char) : Option Nat :=
  if c.isDigit then some (c.toNat - '0'.toNat)
  else if 'a' ≤ c ∧ c ≤ 'f' then some (c.toNat - 'a'.toNat + 10)
  else if 'A' ≤ c ∧ c ≤ 'F' then some (c.toNat - 'A'.toNat + 10)
  else none

/-- Four hex digits read: a character of its own, half of a pair, or the second half after the first. -/
def codeUnit (held : Held) (high : Option Nat) (unit : Nat) : Scan :=
  match high with
  | some high =>
    if 0xDC00 ≤ unit ∧ unit ≤ 0xDFFF then
      .string (held.push (Char.ofNat (0x10000 + (high - 0xD800) * 0x400 + (unit - 0xDC00))))
    else .string none
  | none =>
    if 0xD800 ≤ unit ∧ unit ≤ 0xDBFF then .surrogate held unit
    else if 0xDC00 ≤ unit ∧ unit ≤ 0xDFFF then .string none
    else .string (held.push (Char.ofNat unit))

/-- A character inside a string. -/
def inString? (held : Held) (tokens : List Token) (c : Char) : Option (Scan × List Token) :=
  if c = '"' then some (.between, .str (held.map fun cs => String.ofList cs.reverse) :: tokens)
  else if c = '\\' then some (.escape held, tokens)
  else if c.toNat < 32 then none
  else some (.string (held.push c), tokens)

/-- A character after a backslash. -/
def afterBackslash? (held : Held) (c : Char) : Option Scan :=
  if c = 'u' then some (.hex held none 4 0)
  else (escaped? c).map fun e => .string (held.push e)

def word? (word : List Char) : Option Token :=
  if word = "null".toList then some .null
  else if word = "true".toList then some (.bool true)
  else if word = "false".toList then some (.bool false)
  else none

/-- The token of a complete numeral. -/
def numeral? (digits : List Char) : Option Token :=
  (Numeral.ofChars? digits).map fun n => .num n.number?

/-- Feed one character. The tokens found so far are held last first. -/
def feed? : Scan × List Token → Char → Option (Scan × List Token)
  | (.between, tokens), c => start? tokens c
  | (.string held, tokens), c => inString? held tokens c
  | (.escape held, tokens), c => (afterBackslash? held c).map (·, tokens)
  | (.hex held high missing value, tokens), c =>
    (hexDigit? c).map fun digit =>
      let unit := 16 * value + digit
      (if missing = 1 then codeUnit held high unit else .hex held high (missing - 1) unit, tokens)
  | (.surrogate held high, tokens), c =>
    if c = '\\' then some (.surrogateEscape held high, tokens) else inString? none tokens c
  | (.surrogateEscape held high, tokens), c =>
    if c = 'u' then some (.hex held (some high) 4 0, tokens) else (afterBackslash? none c).map (·, tokens)
  | (.numeral held, tokens), c =>
    if isNumeralChar c then some (.numeral (c :: held), tokens)
    else (numeral? held.reverse).bind fun token => start? (token :: tokens) c
  | (.word held, tokens), c =>
    if c.isLower then some (.word (c :: held), tokens)
    else (word? held.reverse).bind fun token => start? (token :: tokens) c

/-- The tokens found when the text ends where the lexer stands. -/
def finish? : Scan × List Token → Option (List Token)
  | (.between, tokens) => some tokens.reverse
  | (.numeral held, tokens) => (numeral? held.reverse).map fun token => (token :: tokens).reverse
  | (.word held, tokens) => (word? held.reverse).map fun token => (token :: tokens).reverse
  | _ => none

/-- The tokens of a text. -/
def ofText? (text : String) : Option (List Token) :=
  (text.toList.foldlM feed? (.between, [])).bind finish?

end Token

end DataGrid.Json
