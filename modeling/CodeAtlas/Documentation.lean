/-
  CodeAtlas.Documentation — everything that is known about a source tree.

  Units are parsed, joined to a model, their mentions resolved, logs merged, and the table of
  contents and the search index built.  Each step is a function of the ones before, so the
  documentation depends on nothing but the units, the logs and the settings.

  * `Documentation.ofUnits`: the documentation of units in memory.
  * `Documentation.complete`: the last step, which runs over files share.
-/
import CodeAtlas.Encoding
import CodeAtlas.FileFilter
import CodeAtlas.Guide
import CodeAtlas.Index
import CodeAtlas.Overlay.Merge
import CodeAtlas.Resolution
import CodeAtlas.Settings

namespace CodeAtlas

/-! ## §1. Records -/

/-- Why a run has no result. -/
inductive Abort where
  | failure (f : Failure)
  | fault (f : Fault)
  deriving DecidableEq, Repr, Inhabited

/-- The documentation of a source tree. -/
structure Documentation where
  /-- Where the generated pages will stand; handed on as it is. -/
  baseUri : Option String
  sourceRoot : String
  files : Table String FileSummary
  declarations : Table String Declaration
  references : List Reference
  metrics : Overlay
  contents : Contents.Entry
  search : Search.Index
  guide : Option Guide
  warnings : List Warning
  deriving Inhabited

namespace Documentation

/-! ## §2. Putting it together -/

/-- The filter that settings ask for. -/
def filterOf (s : Settings) : Except Failure FileFilter :=
  FileFilter.ofTexts s.source.extension (some s.source.excludePattern)

/-- A model with its resolver and all warnings so far. -/
structure Base where
  model : Model
  resolver : Resolver
  warnings : List Warning

/-- The model of parsed units. -/
def base (sourceRoot : String) (index : Index) (s : Settings) : Except Failure Base := do
  let (model, joining) := Model.ofUnits sourceRoot index.units
  let resolver ← Resolver.ofModel model s.resolver.externalPatterns
  return ⟨model, resolver, index.warnings ++ joining⟩

/-- Resolves the mentions of a model and builds its contents and search index. -/
def complete (b : Base) (metrics : Overlay) (guide : Option Guide) (baseUri : Option String)
    (warnings : List Warning) : Documentation where
  baseUri := baseUri
  sourceRoot := b.model.sourceRoot
  files := b.model.files
  declarations := b.model.declarations
  references := b.resolver.references b.model.references
  metrics := metrics
  contents := Contents.ofModel b.model (guide.map (·.pages))
  search := Search.ofModel b.model
  guide := guide
  warnings := Warning.tidy (b.warnings ++ warnings)

/-- The documentation of units in memory and of logs that were already read. -/
def ofUnits (grammar : Grammar) (sourceRoot : String) (us : List SourceUnit) (s : Settings)
    (coverage : Option (List CoverageRecord)) (tests : Option (List TestRecord)) :
    Except Abort Documentation := do
  let _ ← (filterOf s).mapError .failure
  let index := Index.ofUnits grammar s.parser.includePrivate us
  let b ← (base sourceRoot index s).mapError .failure
  let (metrics, merging) ←
    (Overlay.merge b.model (Locator.ofModel b.model []) coverage tests).mapError .fault
  return complete b metrics none none merging

/-! ## §3. The JSON form -/

/-- The JSON form of a guide. -/
def guideJson (g : Guide) : Json := .obj [("pages", .ofList .str g.pages)]

/-- The JSON form of documentation. -/
def toJson (d : Documentation) : Json :=
  .obj [
    ("base_uri", .ofOption .str d.baseUri),
    ("source_root", .str d.sourceRoot),
    ("files", .ofTable FileSummary.toJson d.files),
    ("declarations", .ofTable Declaration.toJson d.declarations),
    ("references", .ofList Reference.toJson d.references),
    ("metrics", d.metrics.toJson),
    ("toc", d.contents.toJson),
    ("search", Search.indexToJson d.search),
    ("guide", .ofOption guideJson d.guide),
    ("warnings", .ofList Warning.toJson d.warnings)]

end Documentation
end CodeAtlas
