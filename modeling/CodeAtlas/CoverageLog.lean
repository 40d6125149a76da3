/-
  CodeAtlas.CoverageLog — line counts from coverage logs.

  A log lists files, and in each file the lines that were sampled with the number of times they ran.
  Only lines of statements and conditions count; those of methods repeat the head of a declaration.
  Entries with unreadable numbers are passed over.
-/
import CodeAtlas.Failure
import CodeAtlas.Markup.Element
import CodeAtlas.Metric

namespace CodeAtlas

/-- One sampled line. -/
structure CoverageRecord where
  /-- The file as the log writes it. -/
  path : String
  /-- The line, counted from one. -/
  line : Nat
  /-- How often the line ran. -/
  count : Nat
  deriving DecidableEq, Repr, Inhabited

namespace CoverageLog

/-- The record of a line element. -/
def record? (path : String) (e : Markup.Element) : Option CoverageRecord := do
  let type ← e.attribute? "type"
  if type == "stmt" || type == "cond" then
    let line ← (e.attribute? "num").bind readCount?
    let count ← (e.attribute? "count").bind readCount?
    return ⟨path, line, count⟩
  else none

/-- The records of a file element. -/
def fileRecords (e : Markup.Element) : List CoverageRecord :=
  match e.attribute? "name" with
  | some path => (e.childrenNamed "line").filterMap (record? path)
  | none => []

/-- The records of a log. -/
def parse (xml : String) : Except Failure (List CoverageRecord) :=
  match Markup.Element.parse? xml with
  | none => .error (.malformedLog .clover)
  | some root =>
    if root.name == "coverage" then .ok ((root.withName "file").flatMap fileRecords)
    else .error (.wrongLogRoot .clover root.name)

end CoverageLog
end CodeAtlas
