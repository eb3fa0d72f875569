-- SUMMARY: Page size and page number, resolved with a memory, and the window they cut.
import DataGrid.Json.Basic
import DataGrid.Text.Blank

/-!
# Pagination

A page size or number is a positive integer or a text holding one. A value that
is not usable keeps the one resolved before, and there is a default to start from.
-/

namespace DataGrid

/-- The window of a page, and how many rows there are in all. -/
structure Pagination where
  limit : Nat
  page : Nat
  skip : Nat
  total : Nat
  deriving DecidableEq

/-- The page size and number resolved so far. -/
structure PageChoice where
  limit : Nat
  page : Nat
  deriving DecidableEq

namespace Pagination

def defaultLimit : Nat := 10

def defaultPage : Nat := 1

/-- The first page of the default size. -/
def initial : Pagination where
  limit := defaultLimit
  page := defaultPage
  skip := 0
  total := 0

/-- A page of some size. The rows skipped are counted up to the greatest count. -/
def window (limit page : Nat) : Pagination where
  limit
  page
  skip := min ((page - 1) * limit) Number.greatestInt
  total := 0

/-- The number that decimal digits after an optional plus sign denote. -/
def numeral? (cs : List Char) : Option Nat :=
  let digits :=
    match cs with
    | '+' :: rest => rest
    | _ => cs
  if digits.isEmpty || !digits.all Char.isDigit then none
  else some (digits.foldl (fun n c => 10 * n + (c.toNat - '0'.toNat)) 0)

/-- A positive integer of 64 bits, as a number or as a text with blanks around it. -/
def positive? (value : Json) : Option Nat :=
  let parsed :=
    match value with
    | .num n => n.toCount?
    | .str s => numeral? (Text.trimChars s.toList)
    | _ => none
  parsed.filter fun n => 0 < n && n ≤ Number.greatestInt

def toJson (p : Pagination) : Json :=
  .obj [
    ("limit", .ofNat p.limit),
    ("page", .ofNat p.page),
    ("skip", .ofNat p.skip),
    ("total", .ofNat p.total)]

end Pagination

namespace PageChoice

/-- The defaults. -/
def initial : PageChoice := ⟨Pagination.defaultLimit, Pagination.defaultPage⟩

/-- Resolve a page size. -/
def takeLimit (choice : PageChoice) (value : Option Json) : PageChoice :=
  { choice with limit := (value.bind Pagination.positive?).getD choice.limit }

/-- Resolve a page number. -/
def takePage (choice : PageChoice) (value : Option Json) : PageChoice :=
  { choice with page := (value.bind Pagination.positive?).getD choice.page }

end PageChoice

end DataGrid
