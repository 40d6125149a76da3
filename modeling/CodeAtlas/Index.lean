/-
  CodeAtlas.Index — the parsed units of a run.

  Units are parsed each on its own.  A unit that cannot be read or parsed becomes a warning and
  leaves the others alone.  Warnings keep the order of the units; parsed units are put in path
  order.
-/
import CodeAtlas.Order
import CodeAtlas.SourceUnit

namespace CodeAtlas

/-- The result of parsing units. -/
structure Index where
  filesScanned : Nat
  filesParsed : Nat
  totalDeclarations : Nat
  totalReferences : Nat
  /-- Parsed units in path order, their warnings taken out. -/
  units : List ParsedUnit
  /-- Warnings in the order of the units that raised them. -/
  warnings : List Warning
  deriving Inhabited

namespace Index

/-- The parsed unit of an outcome. -/
def parsed? : Except Warning ParsedUnit → Option ParsedUnit
  | .ok u => some u
  | .error _ => none

/-- The warnings of an outcome. -/
def warningsOf : Except Warning ParsedUnit → List Warning
  | .ok u => u.warnings
  | .error w => [w]

/-- Collects the outcomes of some units. -/
def ofOutcomes (outcomes : List (Except Warning ParsedUnit)) : Index :=
  let units := outcomes.filterMap parsed?
  { filesScanned := outcomes.length
    filesParsed := units.length
    totalDeclarations := (units.flatMap (·.declarations)).length
    totalReferences := (units.flatMap (·.references)).length
    units := sortBy (compareOn ParsedUnit.filePath) (units.map ({ · with warnings := [] }))
    warnings := outcomes.flatMap warningsOf }

/-- Parses one unit; a failure becomes a warning. -/
def outcomeOf (grammar : Grammar) (includePrivate : Bool) (u : SourceUnit) :
    Except Warning ParsedUnit :=
  (u.parse grammar includePrivate).mapError fun f => .ofFile u.path ("skipped: " ++ f.message)

/-- Parses some units. -/
def ofUnits (grammar : Grammar) (includePrivate : Bool) (us : List SourceUnit) : Index :=
  ofOutcomes (us.map (outcomeOf grammar includePrivate))

end Index
end CodeAtlas
