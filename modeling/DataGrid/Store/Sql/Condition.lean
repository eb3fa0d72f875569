-- SUMMARY: The meaning of conditions on documents: elements, tests, order, and where evaluation refuses.
import DataGrid.Store.Sql.Like
import DataGrid.Store.Sql.Limits
import DataGrid.Store.Sql.Value

/-!
# Conditions on documents

A test on a column is true when some element of it passes: the elements of a list,
the member values of an object, or the value itself. Conditions are evaluated one
after the other until the matter is settled, and the evaluation refuses a pattern
that is too long as soon as there is an element to match.
-/

namespace DataGrid.Sql

/-- The elements that a test on a column looks at. -/
def elements : Option Json → List Value
  | none => []
  | some (.arr items) => items.map .ofElement
  | some (.obj members) => (Keyed.values members).map .ofElement
  | some value => [.ofElement value]

/-- Two values are equal, and neither is null. -/
def isEqual (a b : Value) : Bool :=
  a.order? b == some .eq

def isBetween (least greatest value : Value) : Bool :=
  (value.order? least).any (·.isGE) && (value.order? greatest).any (·.isLE)

/-- The text of a value, lower-cased as far as ASCII goes, matches the pattern of a needle. -/
def containsText (needle : String) (value : Value) : Bool :=
  match value.castText? with
  | some text => Like.isMatch (Like.containing needle) (Text.asciiLower text).toList
  | none => false

mutual

/-- Whether a document satisfies a predicate. -/
def holds : Predicate → Row → Bool
  | .all, _ => true
  | .nothing, _ => false
  | .and parts, doc => holdsAll parts doc
  | .or parts, doc => holdsAny parts doc
  | .equal column value, doc => (elements (doc.lookup column)).any (isEqual · (.ofParameter value))
  | .oneOf column values, doc =>
    (elements (doc.lookup column)).any fun v => values.any fun value => isEqual v (.ofParameter value)
  | .contains column text, doc => (elements (doc.lookup column)).any (containsText text)
  | .between column least greatest, doc =>
    (elements (doc.lookup column)).any (isBetween (.ofParameter least) (.ofParameter greatest))

def holdsAll : List Predicate → Row → Bool
  | [], _ => true
  | p :: rest, doc => holds p doc && holdsAll rest doc

def holdsAny : List Predicate → Row → Bool
  | [], _ => false
  | p :: rest, doc => holds p doc || holdsAny rest doc

end


-- ---------------------------------------------------------------------------
-- Order
-- ---------------------------------------------------------------------------

/-- The value that a document is sorted by; null where the column is missing. -/
def sortValue (doc : Row) (column : String) : Value :=
  match doc.lookup column with
  | some value => .ofElement value
  | none => .null

/-- The order of two documents by some keys. -/
def order (keys : List SortKey) (a b : Row) : Ordering :=
  match keys with
  | [] => .eq
  | key :: rest =>
    (key.direction.apply ((sortValue a key.column).sortOrder (sortValue b key.column))).then (order rest a b)


-- ---------------------------------------------------------------------------
-- Evaluation
-- ---------------------------------------------------------------------------

/-- What evaluating a condition on a document comes to. -/
structure Verdict where
  /-- Whether the condition looks at elements. -/
  looks : Bool
  holds : Bool
  /-- Whether the evaluation meets a pattern that is too long. -/
  refuses : Bool

namespace Verdict

/-- Whether one of some conditions refuses before one of them settles the matter. -/
def firstRefuses (undecided : Bool) : List Verdict → Bool
  | [] => false
  | v :: rest => v.refuses || (v.holds == undecided && firstRefuses undecided rest)

/-- Conditions that look at no element are evaluated before the others. -/
def someRefuses (undecided : Bool) (verdicts : List Verdict) : Bool :=
  firstRefuses undecided (verdicts.filter (!·.looks) ++ verdicts.filter (·.looks))

end Verdict

mutual

/-- Whether the evaluation of a condition on a document meets a pattern that is too long. -/
def refuses : Predicate → Row → Bool
  | .and parts, doc => Verdict.someRefuses true (verdicts parts doc)
  | .or parts, doc => Verdict.someRefuses false (verdicts parts doc)
  | .contains column text, doc => Like.isTooLong text && !(elements (doc.lookup column)).isEmpty
  | .all, _ | .nothing, _ | .equal .., _ | .oneOf .., _ | .between .., _ => false

def verdicts : List Predicate → Row → List Verdict
  | [], _ => []
  | p :: rest, doc => ⟨looksAtElements p, holds p doc, refuses p doc⟩ :: verdicts rest doc

end

/-- The documents up to the one that is the last of so many that pass a test. -/
def upToMatch (test : Row → Bool) : Nat → List Row → List Row
  | 0, _ | _, [] => []
  | more + 1, doc :: rest => doc :: upToMatch test (if test doc then more else more + 1) rest

end DataGrid.Sql
