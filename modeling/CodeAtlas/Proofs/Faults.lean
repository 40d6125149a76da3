/-
  CodeAtlas.Proofs.Faults — the one way in which documenting units can fail.

  Settings are checked before anything is read, so with readable patterns only merging the coverage
  log can fail.  The model it is merged into comes from assembly, which keeps a declaration only if
  it has a range and lies within its parent: no range is inverted, and the way upwards ends.

  Main results:
    * `ofUnits_eq` — a run ends as its merging does.
    * `safeRun_ofUnits` — a run fails exactly when the counts of some line are too many.
-/
import CodeAtlas.Proofs.Assembly
import CodeAtlas.Proofs.Integrity
import CodeAtlas.Proofs.Overlay.Bounds
import CodeAtlas.Proofs.Resolution

namespace CodeAtlas

/-- Settings whose patterns can all be read. -/
structure Settings.Valid (s : Settings) : Prop where
  exclude : ∃ filter, Documentation.filterOf s = .ok filter
  external : ∀ text ∈ s.resolver.externalPatterns, (Pattern.parse? text).isSome = true

/-! ## §1. Models from assembly -/

namespace Model

theorem ranged_ofUnits (root : String) (units : List ParsedUnit) :
    (ofUnits root units).1.Ranged :=
  fun _ _ h => ((grown_ofUnits root units).fitsIn h).range

/-- The walk that credits tests goes all the way up and ends there. -/
theorem lineage_withEnclosing (root : String) (units : List ParsedUnit) {n : String}
    {d : Declaration} (h : (ofUnits root units).1.get? n = some d) :
    (ofUnits root units).1.Lineage d (Crediting.withEnclosing (ofUnits root units).1 d) := by
  have keyed := keyed_ofUnits root units
  obtain ⟨l, hl⟩ := lineage_ofUnits root units h
  have hd : (ofUnits root units).1.get? d.qualifiedName = some d := by
    rw [keyed h]
    exact h
  rw [withEnclosing_eq keyed hl hd]
  exact hl

end Model

namespace Documentation

/-! ## §2. Runs end as their merging does -/

/-- The model of a run. -/
def modelOf (grammar : Grammar) (root : String) (us : List SourceUnit) (s : Settings) : Model :=
  (Model.ofUnits root (Index.ofUnits grammar s.parser.includePrivate us).units).1

/-- **A run ends as its merging does**: readable patterns leave nothing else to fail. -/
theorem ofUnits_eq (grammar : Grammar) (root : String) (us : List SourceUnit) {s : Settings}
    (valid : s.Valid) (coverage : Option (List CoverageRecord)) (tests : Option (List TestRecord)) :
    ∃ b, ofUnits grammar root us s coverage tests =
      ((Overlay.merge (modelOf grammar root us s) (Locator.ofModel (modelOf grammar root us s) [])
        coverage tests).mapError .fault).map
          fun merged => complete b merged.1 none none merged.2 := by
  obtain ⟨⟨filter, hfilter⟩, hexternal⟩ := valid
  -- both checks of the settings pass, so there is a model and its resolver
  obtain ⟨b, hbase, hmodel⟩ : ∃ b,
      base root (Index.ofUnits grammar s.parser.includePrivate us) s = .ok b ∧
        b.model = modelOf grammar root us s := by
    unfold base
    dsimp only
    rw [Resolver.ofModel_eq_ok _ hexternal]
    exact ⟨_, rfl, rfl⟩
  refine ⟨b, ?_⟩
  unfold ofUnits
  rw [hfilter, ← hmodel]
  show ((base root (Index.ofUnits grammar s.parser.includePrivate us) s).mapError _ >>= _) = _
  rw [hbase]
  show ((Overlay.merge b.model _ coverage tests).mapError _ >>= _) = _
  cases Overlay.merge b.model (Locator.ofModel b.model []) coverage tests <;> rfl

/-! ## §3. Runs fail on too many counts only -/

/-- What a run over a model and a coverage log does. -/
structure SafeRun (m : Model) (coverage : Option (List CoverageRecord))
    (run : Except Abort Documentation) : Prop where
  /-- It has no result iff the counts of some line of a parsed file are too many. -/
  fails : (¬ ∃ doc, run = .ok doc) ↔
    CoverageSheet.Overflows m (Locator.ofModel m []) (coverage.getD [])
  /-- Nothing else goes wrong. -/
  fault : ∀ e, run = .error e → e = .fault .sumOverflow
  /-- No range that is looked up in the sampled lines is inverted. -/
  ranged : m.Ranged
  /-- The walk from a declaration to those around it ends at one without a parent. -/
  lineage : ∀ n d, m.get? n = some d → m.Lineage d (Crediting.withEnclosing m d)
  /-- The coverage of every name is rendered, unless there are very many records. -/
  rendered : ∀ doc, run = .ok doc → 100 * (coverage.getD []).length < counterLimit →
    ∀ name, doc.metrics.Rendered name

/-- **Runs fail exactly when the counts of some line are too many**, whatever the units, the logs
and the readable settings are. -/
theorem safeRun_ofUnits (grammar : Grammar) (root : String) (us : List SourceUnit) {s : Settings}
    (valid : s.Valid) (coverage : Option (List CoverageRecord)) (tests : Option (List TestRecord)) :
    SafeRun (modelOf grammar root us s) coverage (ofUnits grammar root us s coverage tests) := by
  have ranged : (modelOf grammar root us s).Ranged := Model.ranged_ofUnits root _
  have lineage : ∀ n d, (modelOf grammar root us s).get? n = some d →
      (modelOf grammar root us s).Lineage d
        (Crediting.withEnclosing (modelOf grammar root us s) d) :=
    fun _ _ h => Model.lineage_withEnclosing root _ h
  obtain ⟨b, hrun⟩ := ofUnits_eq grammar root us valid coverage tests
  rw [hrun]
  rcases Overlay.merge_outcome ranged (Locator.ofModel (modelOf grammar root us s) [])
      coverage tests with ⟨o, ws, hok, hbound, hfit⟩ | ⟨herror, hover⟩
  · -- merging ends well, and so does the run
    rw [hok]
    refine ⟨?_, fun e he => (nomatch he), ranged, lineage, ?_⟩
    · exact iff_of_false (fun hnone => hnone ⟨_, rfl⟩) hfit
    · intro doc hdoc small name
      rw [← Except.ok.inj hdoc]
      exact Overlay.rendered_of_coverageAtMost hbound small name
  · rw [herror]
    refine ⟨?_, ?_, ranged, lineage, fun doc hdoc => (nomatch hdoc)⟩
    · refine iff_of_true ?_ hover
      rintro ⟨doc, hdoc⟩
      exact nomatch hdoc
    · intro e he
      exact (Except.error.inj he).symm

/-- A file of one class. -/
def fooUnits : List SourceUnit := [⟨"a.php", "<?php class Foo \x7b\x7d"⟩]

/-- Two records of one line, whose counts come to one too many. -/
def doubleRecords : List CoverageRecord := [⟨"a.php", 1, counterLimit - 1⟩, ⟨"src/a.php", 1, 1⟩]

/-- Together the two records are too many; the second alone covers the class. -/
theorem safeRun_ofUnits_foo : bareSettings.Valid ∧
    SafeRun (modelOf classGrammar "src" fooUnits bareSettings) (some doubleRecords)
      (ofUnits classGrammar "src" fooUnits bareSettings (some doubleRecords) none) ∧
    (ofUnits classGrammar "src" fooUnits bareSettings (some doubleRecords) none).toOption.isNone ∧
    (ofUnits classGrammar "src" fooUnits bareSettings
        (some (doubleRecords.drop 1)) none).toOption.map
      (fun doc => (doc.metrics.statusText "Foo").toOption) = some (some "100% covered") := by
  have valid : bareSettings.Valid := ⟨⟨_, rfl⟩, by simp [bareSettings]⟩
  exact ⟨valid, safeRun_ofUnits classGrammar "src" fooUnits valid (some doubleRecords) none,
    by decide +kernel, by decide +kernel⟩

end Documentation
end CodeAtlas
