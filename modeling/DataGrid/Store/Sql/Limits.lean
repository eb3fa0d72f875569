-- SUMMARY: What keeps a statement from being prepared: empty groups, surplus parameters, depth, hidden functions.
import DataGrid.Store.Sql.Statement

/-!
# Limits of statements

A statement is read from the left. A group must not be empty, the parameters are
counted, and the tree of the condition may only be so high: each operator adds one
to the higher of its operands, and a chain of operators leans to the left. After
that the functions are looked up, and then the conditions inside element tests
count on top of the whole condition.
-/

namespace DataGrid.Sql

/-- The greatest height of a condition. -/
def greatestHeight : Nat := 1000

/-- The greatest number of parameters of a statement. -/
def greatestParameter : Nat := 32766

/-- The greatest number of terms of an order. -/
def greatestOrdering : Nat := 2000

/-- The function that lists the elements of a column. -/
def elementFunction : String := "json_each"

/-- What keeps a statement from being read. -/
inductive Flaw where
  | emptyGroup
  | surplusParameter
  | tooDeep
  deriving DecidableEq

/-- How far a statement has been read: the height of the last condition, and the parameters up to there. -/
structure Extent where
  height : Nat
  parameters : Nat
  deriving DecidableEq

/-- The height of a comparison of two constants. -/
def constantHeight : Nat := 2

/-- The height of the condition inside an element test: a comparison of a qualified column, or of its cast text. -/
def testHeight : Predicate → Nat
  | .contains .. => 5
  | _ => 3

/-- Read some more parameters. -/
def takeParameters (parameters more : Nat) : Except Flaw Nat :=
  if parameters + more ≤ greatestParameter then .ok (parameters + more) else .error .surplusParameter

/-- Read an element test with some parameters. The test is one higher than the condition inside. -/
def readTest (test : Predicate) (parameters more : Nat) : Except Flaw Extent :=
  (takeParameters parameters more).map fun parameters => ⟨testHeight test + 1, parameters⟩

mutual

/-- Read a condition after some parameters. -/
def readCondition : Predicate → Nat → Except Flaw Extent
  | .all, parameters | .nothing, parameters => .ok ⟨constantHeight, parameters⟩
  | .and parts, parameters | .or parts, parameters => readGroup parts parameters
  | .oneOf column values, parameters =>
    if values.isEmpty then .ok ⟨constantHeight, parameters⟩
    else readTest (.oneOf column values) parameters values.length
  | .equal column value, parameters => readTest (.equal column value) parameters 1
  | .contains column text, parameters => readTest (.contains column text) parameters 1
  | .between column least greatest, parameters => readTest (.between column least greatest) parameters 2

def readGroup : List Predicate → Nat → Except Flaw Extent
  | [], _ => .error .emptyGroup
  | p :: rest, parameters => (readCondition p parameters).bind (readChain rest)

/-- Read the conditions of a group after its first ones. -/
def readChain : List Predicate → Extent → Except Flaw Extent
  | [], extent => .ok extent
  | p :: rest, extent =>
    (readCondition p extent.parameters).bind fun next =>
      let height := max extent.height next.height + 1
      if height ≤ greatestHeight then readChain rest ⟨height, next.parameters⟩ else .error .tooDeep

end

mutual

/-- The greatest height of a condition inside an element test; zero if there is no element test. -/
def innerHeight : Predicate → Nat
  | .all | .nothing => 0
  | .and parts | .or parts => innerHeights parts
  | .oneOf column values => if values.isEmpty then 0 else testHeight (.oneOf column values)
  | .equal column value => testHeight (.equal column value)
  | .contains column text => testHeight (.contains column text)
  | .between column least greatest => testHeight (.between column least greatest)

def innerHeights : List Predicate → Nat
  | [] => 0
  | p :: rest => max (innerHeight p) (innerHeights rest)

end

/-- Whether a condition looks at elements. -/
def looksAtElements (p : Predicate) : Bool :=
  innerHeight p != 0

/-- Where an empty group ends in a statement. -/
def emptyGroup? : List Char → Option Nat
  | '(' :: ')' :: _ => some 1
  | _ :: rest => (emptyGroup? rest).map (· + 1)
  | [] => none

/-- Where a parameter stands that has so many before it. -/
def parameter? : Nat → List Char → Option Nat
  | before, '?' :: rest =>
    match before with
    | 0 => some 0
    | before + 1 => (parameter? before rest).map (· + 1)
  | before, _ :: rest => (parameter? before rest).map (· + 1)
  | _, [] => none

namespace Statement

/-- What is refused because of a flaw. -/
def fault (s : Statement) : Flaw → StatementFault
  | .emptyGroup => .misplaced ")" s.text ((emptyGroup? s.text.toList).getD 0)
  | .surplusParameter => .surplusParameter s.text ((parameter? greatestParameter s.text.toList).getD 0)
  | .tooDeep => .tooDeep

/-- Read the whole statement. -/
def read (s : Statement) : Except Flaw Extent :=
  (readCondition s.predicate 0).bind fun extent =>
    (takeParameters extent.parameters s.trailing).map fun parameters => ⟨extent.height, parameters⟩

/-- The first thing that keeps a statement from being prepared, where a table may hide the element function. -/
def check (s : Statement) (hidden : Bool) : Except StatementFault Unit :=
  match s.read with
  | .error flaw => .error (s.fault flaw)
  | .ok extent =>
    if hidden && looksAtElements s.predicate then .error (.notAFunction elementFunction)
    else if greatestHeight < extent.height + innerHeight s.predicate then .error .tooDeep
    else if greatestOrdering < s.orderings then .error .tooManyOrderings
    else .ok ()

end Statement

end DataGrid.Sql
