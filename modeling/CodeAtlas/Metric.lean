/-
  CodeAtlas.Metric — coverage and test outcomes attached to declarations.

  An `Overlay` refers to declarations by name and leaves them untouched.  It keeps "no data" apart
  from "0% covered": a declaration without a sampled line has no coverage metric at all.  Counters
  are 64 bits wide; a computation that leaves that range is a `Fault`.
-/
import CodeAtlas.Table
import CodeAtlas.Order
import CodeAtlas.Text.Digit
import CodeAtlas.Text.Segment

namespace CodeAtlas

/-! ## §1. Counters -/

/-- The number that no counter reaches. -/
def counterLimit : Nat := 0x10000000000000000

/-- A computation that has no result. -/
inductive Fault where
  | sumOverflow
  | productOverflow
  | invertedRange
  deriving DecidableEq, Repr, Inhabited

/-- The text of a fault. -/
def Fault.message : Fault → String
  | sumOverflow => "attempt to add with overflow"
  | productOverflow => "attempt to multiply with overflow"
  | invertedRange => "range start is greater than range end in BTreeMap"

/-- Reads a counter: decimal digits behind an optional plus sign. -/
def readCount? (s : String) : Option Nat :=
  let digits := (Chars.dropPrefix? ['+'] s.toList).getD s.toList
  let value := Chars.valueIn 10 digits
  if !digits.isEmpty && digits.all Char.isDigit && value < counterLimit then some value else none

/-- The sum of two counters. -/
def addCount (a b : Nat) : Except Fault Nat :=
  if a + b < counterLimit then .ok (a + b) else .error .sumOverflow

/-- The product of two counters. -/
def mulCount (a b : Nat) : Except Fault Nat :=
  if a * b < counterLimit then .ok (a * b) else .error .productOverflow

/-! ## §2. Line coverage -/

/-- Executed lines among the sampled lines of a declaration. -/
structure LineCoverage where
  executed : Nat
  sampled : Nat
  deriving DecidableEq, Repr, Inhabited

namespace LineCoverage

/-- The percentage of executed lines, rounded down, if any line was sampled. -/
def percent (c : LineCoverage) : Except Fault (Option Nat) :=
  if c.sampled = 0 then .ok none
  else (mulCount c.executed 100).map fun p => some (p / c.sampled)

/-- The percentage in words. -/
def statusText (c : LineCoverage) : Except Fault String :=
  c.percent.map fun
    | some p => toString p ++ "% covered"
    | none => "no data"

end LineCoverage

/-! ## §3. Test outcomes -/

/-- How a test ended. -/
inductive Outcome where
  | passed
  | failed
  | skipped
  deriving DecidableEq, Repr, Inhabited

namespace Outcome

/-- The word for an outcome. -/
def text : Outcome → String
  | passed => "passed"
  | failed => "failed"
  | skipped => "skipped"

/-- Place of an outcome in the order of test cases. -/
def rank : Outcome → Nat
  | passed => 0
  | failed => 1
  | skipped => 2

end Outcome

/-- One test and how it ended. -/
structure TestCase where
  label : String
  outcome : Outcome
  deriving DecidableEq, Repr, Inhabited

/-- Test cases are ordered by label, then outcome. -/
def TestCase.order : TestCase → TestCase → Ordering :=
  compareLex (compareOn (·.label)) (compareOn (·.outcome.rank))

/-- Test cases and how many of them ended in each way. -/
structure TestSummary where
  passed : Nat := 0
  failed : Nat := 0
  skipped : Nat := 0
  cases : List TestCase := []
  deriving DecidableEq, Repr, Inhabited

namespace TestSummary

/-- Adds a test case. -/
def record (s : TestSummary) (c : TestCase) : TestSummary :=
  let s := { s with cases := s.cases ++ [c] }
  match c.outcome with
  | .passed => { s with passed := s.passed + 1 }
  | .failed => { s with failed := s.failed + 1 }
  | .skipped => { s with skipped := s.skipped + 1 }

/-- Number of recorded cases. -/
def total (s : TestSummary) : Nat := s.passed + s.failed + s.skipped

/-- Puts the cases in order. -/
def normalize (s : TestSummary) : TestSummary :=
  { s with cases := sortBy TestCase.order s.cases }

end TestSummary

/-! ## §4. Overlays -/

/-- One measurement of a declaration. -/
inductive Metric where
  | lineCoverage (c : LineCoverage)
  | testOutcomes (s : TestSummary)
  deriving DecidableEq, Repr, Inhabited

/-- The measurements of a run, by qualified name. -/
structure Overlay where
  /-- A coverage log was read. -/
  coverageAvailable : Bool := false
  /-- A unit test log was read. -/
  testsAvailable : Bool := false
  declarations : Table String (List Metric) := ∅
  /-- Every test of the log, attributed or not. -/
  suite : Option TestSummary := none
  deriving DecidableEq, Inhabited

namespace Overlay

/-- Adds a measurement behind those that a name has. -/
def attach (o : Overlay) (name : String) (m : Metric) : Overlay :=
  { o with declarations := o.declarations.upsert name fun ms => ms.getD [] ++ [m] }

/-- The measurements of a name, oldest first. -/
def metrics (o : Overlay) (name : String) : List Metric := (o.declarations.get? name).getD []

/-- The line coverage of a name. -/
def coverage? (o : Overlay) (name : String) : Option LineCoverage :=
  (o.metrics name).findSome? fun
    | .lineCoverage c => some c
    | .testOutcomes _ => none

/-- The test outcomes of a name. -/
def tests? (o : Overlay) (name : String) : Option TestSummary :=
  (o.metrics name).findSome? fun
    | .testOutcomes s => some s
    | .lineCoverage _ => none

/-- The coverage of a name in words. -/
def statusText (o : Overlay) (name : String) : Except Fault String :=
  match o.coverage? name with
  | some c => c.statusText
  | none => .ok "no data"

end Overlay
end CodeAtlas
