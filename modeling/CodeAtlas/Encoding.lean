/-
  CodeAtlas.Encoding — the JSON forms of documentation records.

  Fields stand in the order in which readers of the output meet them; tables become objects with
  their keys in order.
-/
import CodeAtlas.Contents
import CodeAtlas.Json
import CodeAtlas.Metric
import CodeAtlas.Search

namespace CodeAtlas

/-- A table as an object. -/
def Json.ofTable {α : Type} (f : α → Json) (t : Table String α) : Json :=
  .obj (t.toList.map fun (k, a) => (k, f a))

/-! ## §1. Model records -/

/-- The JSON form of a file summary. -/
def FileSummary.toJson (s : FileSummary) : Json :=
  .obj [("line_count", .num s.lineCount), ("declarations", .num s.declarations)]

/-- The JSON form of a declaration. -/
def Declaration.toJson (d : Declaration) : Json :=
  .obj [
    ("name", .str d.name),
    ("qualified_name", .str d.qualifiedName),
    ("kind", .str d.kind.text),
    ("construct", .str d.construct.text),
    ("parent", .ofOption .str d.parent),
    ("documentation", .str d.documentation),
    ("signature", .str d.signature),
    ("visibility", .str d.visibility.text),
    ("modifiers", .ofList .str d.modifiers),
    ("file_path", .str d.filePath),
    ("line_start", .num d.lineStart),
    ("line_end", .num d.lineEnd)]

/-- The JSON form of a mention. -/
def Mention.toJson (m : Mention) : Json :=
  .obj [
    ("source", .str m.source),
    ("name", .str m.name),
    ("hint", .ofOption .str m.hint),
    ("kind", .str m.kind.text),
    ("line", .num m.line)]

/-- The JSON form of a resolution. -/
def Resolution.toJson : Resolution → Json
  | resolved t => .obj [("state", .str "resolved"), ("target", .str t)]
  | external => .obj [("state", .str "external")]
  | unresolved => .obj [("state", .str "unresolved")]

/-- The JSON form of a reference. -/
def Reference.toJson (r : Reference) : Json :=
  .obj [
    ("source", .str r.source),
    ("raw_name", .str r.name),
    ("kind", .str r.kind.text),
    ("line", .num r.line),
    ("resolution", r.resolution.toJson)]

/-- The JSON form of a model. -/
def Model.toJson (m : Model) : Json :=
  .obj [
    ("source_root", .str m.sourceRoot),
    ("files", .ofTable FileSummary.toJson m.files),
    ("declarations", .ofTable Declaration.toJson m.declarations),
    ("references", .ofList Mention.toJson m.references)]

/-- The JSON form of a warning. -/
def Warning.toJson (w : Warning) : Json :=
  .obj [
    ("kind", .str w.kind.text),
    ("path", .ofOption .str w.path),
    ("line", .ofOption .num w.line),
    ("message", .str w.message)]

/-! ## §2. Metrics -/

/-- The fields of line coverage. -/
def LineCoverage.fields (c : LineCoverage) : List (String × Json) :=
  [("executed", .num c.executed), ("sampled", .num c.sampled)]

/-- The JSON form of a test case. -/
def TestCase.toJson (c : TestCase) : Json :=
  .obj [("label", .str c.label), ("outcome", .str c.outcome.text)]

/-- The fields of a test summary. -/
def TestSummary.fields (s : TestSummary) : List (String × Json) :=
  [("passed", .num s.passed), ("failed", .num s.failed), ("skipped", .num s.skipped),
    ("cases", .ofList TestCase.toJson s.cases)]

/-- The JSON form of a metric. -/
def Metric.toJson : Metric → Json
  | lineCoverage c => .obj (("kind", .str "line_coverage") :: c.fields)
  | testOutcomes s => .obj (("kind", .str "test_outcomes") :: s.fields)

/-- The JSON form of an overlay. -/
def Overlay.toJson (o : Overlay) : Json :=
  .obj [
    ("coverage_available", .bool o.coverageAvailable),
    ("tests_available", .bool o.testsAvailable),
    ("declarations", .ofTable (Json.ofList Metric.toJson) o.declarations),
    ("suite", .ofOption (fun s => .obj s.fields) o.suite)]

/-! ## §3. Contents and search -/

namespace Contents

/-- The JSON form of a target. -/
def Target.toJson : Target → Json
  | root => .obj [("type", .str "root")]
  | declaration id => .obj [("type", .str "declaration"), ("id", .str id)]
  | guideSection id => .obj [("type", .str "guide_section"), ("id", .str id)]
  | guidePage id => .obj [("type", .str "guide_page"), ("id", .str id)]

mutual

/-- The JSON form of an entry. -/
def Entry.toJson : Entry → Json
  | .mk label target children =>
    .obj [("label", .str label), ("target", target.toJson),
      ("children", .arr (entriesToJson children))]

/-- The JSON forms of some entries. -/
def entriesToJson : List Entry → List Json
  | [] => []
  | e :: rest => Entry.toJson e :: entriesToJson rest

end

end Contents

namespace Search

/-- The JSON form of a hit. -/
def Hit.toJson (h : Hit) : Json :=
  .obj [("qualified_name", .str h.qualifiedName), ("kind", .str h.kind.text),
    ("primary", .bool h.primary)]

/-- The JSON form of an index. -/
def indexToJson (index : Index) : Json := .ofTable (Json.ofList Hit.toJson) index

end Search
end CodeAtlas
