/-
  CodeAtlas.Overlay.Coverage — line coverage of declarations.

  Coverage records are sorted out first: those of files that were not parsed, those of lines that
  their file does not have, and the sums of the counts of each remaining line.  A declaration is
  then covered by the lines in its range.
-/
import CodeAtlas.CoverageLog
import CodeAtlas.Overlay.Locator

namespace CodeAtlas

/-! ## §1. Sorting records out -/

/-- Coverage records, sorted out. -/
structure CoverageSheet where
  /-- Summed counts by file and line. -/
  lines : Table String (Table Nat Nat) := ∅
  /-- Number of records by path that names no parsed file. -/
  unknown : Table String Nat := ∅
  /-- Number of records by file that has no such line. -/
  beyond : Table String Nat := ∅
  deriving Inhabited

namespace CoverageSheet

/-- The counts of a file, one added to a line. -/
def addLine (lines : Table Nat Nat) (line count : Nat) : Except Fault (Table Nat Nat) :=
  (addCount ((lines.get? line).getD 0) count).map fun sum => lines.insert line sum

/-- Whether a parsed file has a line. -/
def hasLine (m : Model) (file : String) (line : Nat) : Bool :=
  line != 0 && line ≤ ((m.files.get? file).map FileSummary.lineCount).getD 0

/-- Counts one more record under a key. -/
def countUnder (t : Table String Nat) (key : String) : Table String Nat :=
  t.upsert key fun n => n.getD 0 + 1

/-- Sorts one record out. -/
def add (m : Model) (l : Locator) (s : CoverageSheet) (r : CoverageRecord) :
    Except Fault CoverageSheet :=
  match l.locate r.path with
  | none => .ok { s with unknown := countUnder s.unknown r.path }
  | some file =>
    if hasLine m file r.line then
      (addLine ((s.lines.get? file).getD ∅) r.line r.count).map fun lines =>
        { s with lines := s.lines.insert file lines }
    else .ok { s with beyond := countUnder s.beyond file }

/-- Sorts records out. -/
def ofRecords (m : Model) (l : Locator) (rs : List CoverageRecord) : Except Fault CoverageSheet :=
  rs.foldlM (add m l) {}

/-- The warnings about records that belong to no line of a parsed file. -/
def warnings (s : CoverageSheet) : List Warning :=
  let unknown := s.unknown.keys.map fun path =>
    Warning.ofMetadata (some path) "coverage records for a file outside the parsed sources ignored"
  let beyond := s.beyond.toList.map fun (path, n) =>
    Warning.ofMetadata (some path)
      (toString n ++ " coverage records beyond the end of the file ignored")
  unknown ++ beyond

/-! ## §2. Covering declarations -/

/-- The coverage of a range of lines. -/
def coverageOf (lines : Table Nat Nat) (d : Declaration) : LineCoverage :=
  let counts := (lines.toList.filter fun e => d.spans e.1).map (·.2)
  ⟨(counts.filter (0 < ·)).length, counts.length⟩

/-- Attaches the coverage of a declaration, if any of its lines was sampled. -/
def attachTo (lines : Table Nat Nat) (o : Overlay) (d : Declaration) : Except Fault Overlay :=
  if d.lineEnd < d.lineStart then .error .invertedRange
  else
    let c := coverageOf lines d
    .ok (if c.sampled = 0 then o else o.attach d.qualifiedName (.lineCoverage c))

/-- Attaches the coverage of the declarations of one file. -/
def attachFile (m : Model) (o : Overlay) (file : String × Table Nat Nat) : Except Fault Overlay :=
  (m.declarations.values.filter (·.filePath == file.1)).foldlM (attachTo file.2) o

/-- Attaches the coverage of every declaration. -/
def attach (s : CoverageSheet) (m : Model) (o : Overlay) : Except Fault Overlay :=
  s.lines.toList.foldlM (attachFile m) o

end CoverageSheet
end CodeAtlas
