/-
  CodeAtlas.Overlay.Tests — test outcomes of declarations.

  A test counts for the declaration it exercises and for every declaration around that.  A test
  placed by a line counts for all declarations that span it.  Tests that count for no declaration
  stay in the suite and are reported once for each subject.
-/
import CodeAtlas.Overlay.Locator
import CodeAtlas.SymbolTable
import CodeAtlas.TestLog

namespace CodeAtlas

/-! ## §1. Credit -/

/-- What is needed to credit tests. -/
structure Crediting where
  model : Model
  table : SymbolTable
  locator : Locator

namespace Crediting

/-- The declarations around a declaration, innermost first, through at most `depth` parents. -/
def enclosing (m : Model) : Nat → Declaration → List Declaration
  | 0, _ => []
  | depth + 1, d =>
    match d.parent.bind m.get? with
    | some p => p :: enclosing m depth p
    | none => []

/-- A declaration and those around it; a chain of parents is no longer than the model. -/
def withEnclosing (m : Model) (d : Declaration) : List Declaration :=
  d :: enclosing m m.declarations.size d

/-- The member of a unit with a name, whatever the case. -/
def member? (m : Model) (unit : Declaration) (name : String) : Option Declaration :=
  (m.membersOf unit.qualifiedName).find? fun d => Text.sameAscii d.name name

/-- The declarations that a unit and a member name. -/
def ofUnit (c : Crediting) (name : String) (member : Option String) : List Declaration :=
  match c.table.lookup name with
  | .found unit =>
    match c.model.get? unit with
    | some d => withEnclosing c.model ((member.bind (member? c.model d)).getD d)
    | none => []
  | _ => []

/-- The declarations that span a line of a file of the log. -/
def ofLocation (c : Crediting) (path : String) (line : Nat) : List Declaration :=
  match c.locator.locate path with
  | some file => c.model.declarations.values.filter fun d => d.filePath == file && d.spans line
  | none => []

/-- The names of the declarations that a subject credits. -/
def credited (c : Crediting) : TestSubject → List String
  | .location path line => (c.ofLocation path line).map (·.qualifiedName)
  | .unit name member => (c.ofUnit name member).map (·.qualifiedName)

end Crediting

/-! ## §2. Recording tests -/

/-- Test records, credited. -/
structure TestSheet where
  suite : TestSummary := {}
  byName : Table String TestSummary := ∅
  /-- Subjects that credit nothing. -/
  unmatched : List TestSubject := []

namespace TestSheet

/-- Counts a test for a declaration. -/
def credit (t : TestCase) (byName : Table String TestSummary) (name : String) :
    Table String TestSummary :=
  byName.upsert name fun s => (s.getD {}).record t

/-- Takes one record in. -/
def add (c : Crediting) (s : TestSheet) (r : TestRecord) : TestSheet :=
  let s := { s with suite := s.suite.record r.testCase }
  match r.subject with
  | none => s
  | some subject =>
    match c.credited subject with
    | [] => { s with unmatched := s.unmatched ++ [subject] }
    | names => { s with byName := names.foldl (credit r.testCase) s.byName }

/-- Takes records in. -/
def ofRecords (c : Crediting) (rs : List TestRecord) : TestSheet := rs.foldl (add c) {}

/-- The warnings about subjects that credit nothing, each subject once. -/
def warnings (s : TestSheet) : List Warning :=
  (sortDistinct TestSubject.order s.unmatched).map fun subject =>
    .ofMetadata subject.path?
      ("tests for `" ++ subject.text ++ "` match no declaration; not attributed")

/-- Attaches the test outcomes of every declaration, and the whole suite. -/
def attach (s : TestSheet) (o : Overlay) : Overlay :=
  let o := s.byName.toList.foldl (fun o e => o.attach e.1 (.testOutcomes e.2.normalize)) o
  { o with suite := some s.suite.normalize }

end TestSheet
end CodeAtlas
