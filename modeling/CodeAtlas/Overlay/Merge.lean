/-
  CodeAtlas.Overlay.Merge — metrics of a model from its logs.

  The model is only read; what the logs tell about it becomes an overlay.  A log that was not
  supplied is told apart from one without records.
-/
import CodeAtlas.Overlay.Coverage
import CodeAtlas.Overlay.Tests

namespace CodeAtlas.Overlay

/-- Adds the line coverage of a log. -/
def addCoverage (m : Model) (l : Locator) (o : Overlay) (rs : List CoverageRecord) :
    Except Fault (Overlay × List Warning) := do
  let sheet ← CoverageSheet.ofRecords m l rs
  let o ← sheet.attach m { o with coverageAvailable := true }
  return (o, sheet.warnings)

/-- Adds the test outcomes of a log. -/
def addTests (m : Model) (l : Locator) (o : Overlay) (rs : List TestRecord) :
    Overlay × List Warning :=
  let sheet := TestSheet.ofRecords ⟨m, SymbolTable.ofModel m, l⟩ rs
  (sheet.attach { o with testsAvailable := true }, sheet.warnings)

/-- The overlay of a model from the logs that were supplied, and the warnings about records that
belong nowhere. -/
def merge (m : Model) (l : Locator) (coverage : Option (List CoverageRecord))
    (tests : Option (List TestRecord)) : Except Fault (Overlay × List Warning) := do
  let (o, covered) ←
    match coverage with
    | some rs => addCoverage m l {} rs
    | none => pure ({}, [])
  let (o, tested) :=
    match tests with
    | some rs => addTests m l o rs
    | none => (o, [])
  return (o, covered ++ tested)

end CodeAtlas.Overlay
