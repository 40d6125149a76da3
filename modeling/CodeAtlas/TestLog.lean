/-
  CodeAtlas.TestLog — test outcomes from unit test logs.

  Every test case of a log counts, however its suites are nested.  Its subject follows from its
  names or, failing that, from its file and line.
-/
import CodeAtlas.Failure
import CodeAtlas.Markup.Element
import CodeAtlas.Metric
import CodeAtlas.TestSubject

namespace CodeAtlas

/-- One test of a log. -/
structure TestRecord where
  label : String
  outcome : Outcome
  subject : Option TestSubject
  deriving DecidableEq, Repr, Inhabited

/-- The test without its subject. -/
def TestRecord.testCase (r : TestRecord) : TestCase := ⟨r.label, r.outcome⟩

namespace TestLog

/-- How the test of an element ended. -/
def outcome (e : Markup.Element) : Outcome :=
  if e.children.any fun c => c.name == "failure" || c.name == "error" then .failed
  else if e.children.any (·.name == "skipped") then .skipped
  else .passed

/-- The place that an element gives for its test. -/
def location? (e : Markup.Element) : Option TestSubject := do
  let path ← e.attribute? "file"
  let line ← (e.attribute? "line").bind readCount?
  return .location path line

/-- The record of a test case element. -/
def record (e : Markup.Element) : TestRecord :=
  let name := (e.attribute? "name").getD ""
  let className := ((e.attribute? "class").or (e.attribute? "classname")).getD ""
  { label := if className == "" then name else className ++ "::" ++ name
    outcome := outcome e
    subject := (TestSubject.ofConvention? className name).or (location? e) }

/-- The records of a log. -/
def parse (xml : String) : Except Failure (List TestRecord) :=
  match Markup.Element.parse? xml with
  | none => .error (.malformedLog .junit)
  | some root =>
    if root.name == "testsuites" || root.name == "testsuite" then
      .ok ((root.withName "testcase").map record)
    else .error (.wrongLogRoot .junit root.name)

end TestLog
end CodeAtlas
