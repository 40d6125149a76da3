/-
  CodeAtlas.Run — documenting a directory.

  A run finds the source files below a root, reads and parses them, and merges the logs and the
  guide that were asked for.  Only a missing root or unusable settings end it; a log or a guide that
  cannot be used becomes a warning.

  * `Settings.load`: the settings that hold for a run.
  * `Index.ofDirectory`: the parsed units below a root.
  * `Documentation.ofDirectory`: the documentation of a root.
-/
import CodeAtlas.Disk.Walk
import CodeAtlas.Documentation

namespace CodeAtlas

/-! ## §1. Settings -/

/-- The settings file that is looked for in the working directory. -/
def Settings.defaultFile : String := "documentor.toml"

/-- Reads a settings file. -/
def Settings.read (d : Disk) (path : String) : Except Failure Settings :=
  match d.readText path with
  | .ok text => Settings.parse text
  | .error e => .error (.notRead e)

/-- The settings in a given file, which must be there, or else in the default file, or else the
default settings. -/
def Settings.load (d : Disk) : Option String → Except Failure Settings
  | some path => Settings.read d path
  | none => if d.isFile defaultFile then Settings.read d defaultFile else .ok {}

/-! ## §2. Source files -/

/-- The source files below a root: where to read each and its path below the root, in path order. -/
def sourceFiles (d : Disk) (s : SourceSettings) (filter : FileFilter) (root : String) :
    Except Failure (List (String × String)) :=
  match d.find? root with
  | some (dir, .directory) =>
    let options := ⟨true, s.followLinks, s.respectGitignore⟩
    let files := (d.walk options root dir).map fun path =>
      (Path.join root ("/".intercalate path), Path.slashed ("/".intercalate path))
    .ok (sortBy (compareOn (·.2)) (files.filter fun f => filter.accepts f.2))
  | _ => .error (.noSourceRoot root)

/-- Reads a source file; bytes that are no text become replacement characters. -/
def loadUnit (d : Disk) (file : String × String) : Except Warning SourceUnit :=
  match d.read file.1 with
  | .ok bytes => .ok (SourceUnit.ofPath file.2 (Utf8.decodeLenient bytes))
  | .error e => .error (.ofFile file.2 ("unreadable: " ++ e.message))

/-- Parses the source files below a root. -/
def Index.ofDirectory (grammar : Grammar) (d : Disk) (s : Settings) (root : String) :
    Except Failure Index := do
  let filter ← Documentation.filterOf s
  let files ← sourceFiles d s.source filter root
  return Index.ofOutcomes <| files.map fun file =>
    (loadUnit d file).bind (Index.outcomeOf grammar s.parser.includePrivate)

/-! ## §3. Logs and guide -/

/-- What a run reads besides the settings. -/
structure RunInput where
  source : String
  coverageLog : Option String := none
  testLog : Option String := none
  guide : Option String := none
  baseUri : Option String := none
  deriving DecidableEq, Repr, Inhabited

/-- Reads a log; one that cannot be used becomes a warning and counts as not supplied. -/
def readLog {α : Type} (d : Disk) (name : String) (parse : String → Except Failure α) :
    Option String → Option α × List Warning
  | none => (none, [])
  | some path =>
    let records :=
      match d.readText path with
      | .ok text => parse text
      | .error e => .error (.notRead e)
    match records with
    | .ok rs => (some rs, [])
    | .error f => (none, [.ofMetadata (some path) (name ++ " log ignored: " ++ f.message)])

/-- Reads a guide; one that cannot be used becomes a warning. -/
def readGuide (d : Disk) : Option String → Option Guide × List Warning
  | none => (none, [])
  | some path =>
    match Guide.scan d path with
    | .ok g => (some g, [])
    | .error f => (none, [.ofFile path ("guide skipped: " ++ f.message)])

/-! ## §4. Runs -/

/-- The name of a root: its path with slashes, without slashes at its end unless nothing is left. -/
def rootTitle (root : String) : String :=
  let label := Path.slashed root
  if Path.dropEndSlashes label = "" then label else Path.dropEndSlashes label

/-- The documentation of the source files below a root. -/
def Documentation.ofDirectory (grammar : Grammar) (d : Disk) (s : Settings) (input : RunInput) :
    Except Abort Documentation := do
  let index ← (Index.ofDirectory grammar d s input.source).mapError .failure
  let b ← (Documentation.base (rootTitle input.source) index s).mapError .failure
  let locator := Locator.ofModel b.model (d.canonical? input.source).toList
  let (coverage, noCoverage) := readLog d "coverage" CoverageLog.parse input.coverageLog
  let (tests, noTests) := readLog d "unit test" TestLog.parse input.testLog
  let (metrics, merging) ← (Overlay.merge b.model locator coverage tests).mapError .fault
  let (guide, noGuide) := readGuide d input.guide
  return Documentation.complete b metrics guide input.baseUri
    (noCoverage ++ noTests ++ merging ++ noGuide)

end CodeAtlas
