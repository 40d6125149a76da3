/-
  CodeAtlas.Proofs.Isolation — a unit that cannot be parsed leaves the others alone.

  Only a unit of an unknown language cannot be parsed.  Its outcome is split from the others before
  anything is counted or sorted, so all that comes of it is one warning.  That warning passes
  through the rest of a run with those of the other units and of the logs, and is sorted among them
  at last.

  Main results:
    * `accounts_ofUnits` — an index counts every unit and every result and keeps every warning.
    * `withWarning_ofUnits` — a unit of an unknown language adds its warning, wherever it stands.
    * `isolated_ofUnits` — both together.
-/
import Mathlib.Algebra.Ring.Nat
import CodeAtlas.Documentation
import CodeAtlas.Proofs.Index
import CodeAtlas.Proofs.Integrity

namespace CodeAtlas

/-! ## §1. Units of unknown languages -/

namespace SourceUnit

/-- Whether the language of a unit is unknown. -/
def isForeign (u : SourceUnit) : Bool := (Language.ofExtension? u.extension).isNone

/-- The warning about a unit of an unknown language. -/
def skipped (u : SourceUnit) : Warning :=
  .ofFile u.path ("skipped: Parse error: no extractor for extension `" ++ u.extension ++ "`")

/-- What is found in the tree of a unit. -/
def extraction (grammar : Grammar) (includePrivate : Bool) (u : SourceUnit) : Extraction :=
  Extraction.ofTree ⟨u.path, u.text.toList, includePrivate⟩ (grammar u.text)

/-- The result of a unit, if its language is known. -/
def result? (grammar : Grammar) (includePrivate : Bool) (u : SourceUnit) : Option ParsedUnit :=
  (Language.ofExtension? u.extension).map fun language =>
    let x := u.extraction grammar includePrivate
    ⟨u.path, language, u.lineCount, x.declarations, x.references, x.warnings⟩

/-- The warnings that a unit raises. -/
def problems (grammar : Grammar) (includePrivate : Bool) (u : SourceUnit) : List Warning :=
  if u.isForeign then [u.skipped] else (u.extraction grammar includePrivate).warnings

end SourceUnit

namespace Index

variable (grammar : Grammar) (includePrivate : Bool) {u : SourceUnit}

theorem outcomeOf_foreign (foreign : u.isForeign = true) :
    outcomeOf grammar includePrivate u = .error u.skipped := by
  have htext : ∀ e : String, "skipped: " ++ (Failure.noLanguage e).message =
      "skipped: Parse error: no extractor for extension `" ++ e ++ "`" := by
    intro e
    show "skipped: " ++ ("Parse error: " ++ ("no extractor for extension `" ++ e ++ "`")) = _
    rw [← String.append_assoc, ← String.append_assoc, ← String.append_assoc]
    rfl
  unfold outcomeOf SourceUnit.parse
  rw [Option.isNone_iff_eq_none.mp foreign]
  show Except.error (Warning.ofFile u.path ("skipped: " ++ _)) = _
  rw [htext]
  rfl

theorem outcomeOf_known (known : u.isForeign = false) :
    ∃ p, u.result? grammar includePrivate = some p ∧
      outcomeOf grammar includePrivate u = .ok p ∧
      p.warnings = (u.extraction grammar includePrivate).warnings := by
  unfold outcomeOf SourceUnit.parse SourceUnit.result?
  cases h : Language.ofExtension? u.extension with
  | none =>
    unfold SourceUnit.isForeign at known
    rw [h] at known
    exact absurd known (by decide)
  | some language => exact ⟨_, rfl, rfl, rfl⟩

/-- The parsed unit of an outcome is the result of the unit. -/
theorem parsed?_outcomeOf (u : SourceUnit) :
    parsed? (outcomeOf grammar includePrivate u) = u.result? grammar includePrivate := by
  cases hu : u.isForeign with
  | true =>
    rw [outcomeOf_foreign grammar includePrivate hu]
    unfold SourceUnit.result?
    rw [Option.isNone_iff_eq_none.mp hu]
    rfl
  | false =>
    obtain ⟨p, hresult, hp, _⟩ := outcomeOf_known grammar includePrivate hu
    rw [hresult, hp]
    rfl

theorem warningsOf_outcomeOf (u : SourceUnit) :
    warningsOf (outcomeOf grammar includePrivate u) = u.problems grammar includePrivate := by
  unfold SourceUnit.problems
  cases hu : u.isForeign with
  | true =>
    rw [outcomeOf_foreign grammar includePrivate hu]
    rfl
  | false =>
    obtain ⟨p, _, hp, hwarnings⟩ := outcomeOf_known grammar includePrivate hu
    rw [hp]
    exact hwarnings

/-! ## §2. Counts and warnings of an index -/

/-- What an index says about the units that it was made from. -/
structure Accounts (us : List SourceUnit) (index : Index) : Prop where
  /-- Every unit was scanned, and parsed unless its language is unknown. -/
  scanned : index.filesScanned = us.length
  parsed : index.filesScanned = index.filesParsed + us.countP SourceUnit.isForeign
  /-- The units are the results, in some order and without their warnings. -/
  units : index.units.Perm
    ((us.filterMap (SourceUnit.result? grammar includePrivate)).map ({ · with warnings := [] }))
  declarations : index.totalDeclarations = (index.units.map (·.declarations.length)).sum
  references : index.totalReferences = (index.units.map (·.references.length)).sum
  /-- The warnings of the units stand one behind the other, in the order of the units. -/
  warnings : index.warnings = us.flatMap (SourceUnit.problems grammar includePrivate)

/-- The totals of an index are those of its units, which are sorted but complete. -/
theorem sum_units (outcomes : List (Except Warning ParsedUnit)) (f : ParsedUnit → Nat)
    (blind : ∀ p, f { p with warnings := [] } = f p) :
    ((ofOutcomes outcomes).units.map f).sum = ((outcomes.filterMap parsed?).map f).sum := by
  unfold ofOutcomes
  dsimp only
  rw [((sortBy_perm _ _).map f).sum_nat, List.map_map]
  simp only [Function.comp_def, blind]

/-- A unit has a result or its language is unknown. -/
theorem length_results_add (us : List SourceUnit) :
    (us.filterMap (SourceUnit.result? grammar includePrivate)).length +
      us.countP SourceUnit.isForeign = us.length := by
  induction us with
  | nil => rfl
  | cons u us ih =>
    rw [List.countP_cons, List.length_cons]
    cases hu : u.isForeign with
    | true =>
      have hnone : u.result? grammar includePrivate = none := by
        rw [← parsed?_outcomeOf, outcomeOf_foreign grammar includePrivate hu]
        rfl
      rw [List.filterMap_cons_none hnone, if_pos rfl]
      omega
    | false =>
      obtain ⟨p, hresult, _⟩ := outcomeOf_known grammar includePrivate hu
      rw [List.filterMap_cons_some hresult, List.length_cons, if_neg Bool.false_ne_true]
      omega

/-- The parsed units of an index are the results of its units. -/
theorem filterMap_outcomes (us : List SourceUnit) :
    (us.map (outcomeOf grammar includePrivate)).filterMap parsed? =
      us.filterMap (SourceUnit.result? grammar includePrivate) := by
  rw [List.filterMap_map]
  simp only [Function.comp_def, parsed?_outcomeOf]

/-- **An index accounts for all units**: each of them is counted, and no warning is lost or
moved. -/
theorem accounts_ofUnits (us : List SourceUnit) :
    Accounts grammar includePrivate us (ofUnits grammar includePrivate us) where
  scanned := List.length_map ..
  parsed := by
    show (us.map (outcomeOf grammar includePrivate)).length =
      ((us.map (outcomeOf grammar includePrivate)).filterMap parsed?).length + _
    rw [List.length_map, filterMap_outcomes]
    exact (length_results_add grammar includePrivate us).symm
  units := by
    rw [← filterMap_outcomes]
    exact sortBy_perm _ _
  declarations := by
    unfold ofUnits
    rw [sum_units _ (·.declarations.length) fun _ => rfl]
    exact List.length_flatMap
  references := by
    unfold ofUnits
    rw [sum_units _ (·.references.length) fun _ => rfl]
    exact List.length_flatMap
  warnings := by
    show (us.map (outcomeOf grammar includePrivate)).flatMap warningsOf = _
    rw [List.flatMap_map]
    simp only [warningsOf_outcomeOf]

/-! ## §3. One unit more -/

theorem units_insert (us vs : List SourceUnit) (foreign : u.isForeign = true) :
    (ofUnits grammar includePrivate (us ++ u :: vs)).units =
      (ofUnits grammar includePrivate (us ++ vs)).units := by
  unfold ofUnits ofOutcomes
  dsimp only
  rw [List.map_append, List.map_append, List.map_cons, List.filterMap_append,
    List.filterMap_append, outcomeOf_foreign grammar includePrivate foreign,
    List.filterMap_cons_none rfl]

theorem mem_warnings_insert (us vs : List SourceUnit) (foreign : u.isForeign = true)
    (w : Warning) : w ∈ (ofUnits grammar includePrivate (us ++ u :: vs)).warnings ↔
      w = u.skipped ∨ w ∈ (ofUnits grammar includePrivate (us ++ vs)).warnings := by
  rw [(accounts_ofUnits grammar includePrivate _).warnings,
    (accounts_ofUnits grammar includePrivate _).warnings, List.flatMap_append,
    List.flatMap_append, List.flatMap_cons]
  have hproblems : u.problems grammar includePrivate = [u.skipped] := if_pos foreign
  rw [hproblems]
  simp only [List.mem_append, List.mem_singleton]
  exact or_left_comm

end Index

/-! ## §4. Runs -/

namespace Documentation

/-- A run ends as another one does, with one warning more. -/
inductive WithWarning (w : Warning) :
    Except Abort Documentation → Except Abort Documentation → Prop
  | documented {d d' : Documentation} (same : d' = { d with warnings := d'.warnings })
      (warnings : ∀ v, v ∈ d'.warnings ↔ v = w ∨ v ∈ d.warnings) : WithWarning w (.ok d) (.ok d')
  | aborted (e : Abort) : WithWarning w (.error e) (.error e)

/-- The last step of a run passes a warning on. -/
theorem withWarning_complete {w : Warning} (m : Model) (resolver : Resolver)
    {ws ws' : List Warning} (hws : ∀ v, v ∈ ws' ↔ v = w ∨ v ∈ ws) (joining : List Warning)
    (metrics : Overlay) (merging : List Warning) :
    WithWarning w (.ok (complete ⟨m, resolver, ws ++ joining⟩ metrics none none merging))
      (.ok (complete ⟨m, resolver, ws' ++ joining⟩ metrics none none merging)) := by
  refine .documented rfl fun v => ?_
  show v ∈ Warning.tidy (ws' ++ joining ++ merging) ↔
    v = w ∨ v ∈ Warning.tidy (ws ++ joining ++ merging)
  unfold Warning.tidy
  simp only [mem_sortDistinct, List.mem_append, hws, or_assoc]

/-- **A unit of an unknown language adds its warning**, wherever it stands among the others, and
changes nothing else. -/
theorem withWarning_ofUnits (grammar : Grammar) (sourceRoot : String) (us vs : List SourceUnit)
    {u : SourceUnit} (foreign : u.isForeign = true) (s : Settings)
    (coverage : Option (List CoverageRecord)) (tests : Option (List TestRecord)) :
    WithWarning u.skipped (ofUnits grammar sourceRoot (us ++ vs) s coverage tests)
      (ofUnits grammar sourceRoot (us ++ u :: vs) s coverage tests) := by
  have hunits := Index.units_insert grammar s.parser.includePrivate us vs foreign
  have hwarnings := Index.mem_warnings_insert grammar s.parser.includePrivate us vs foreign
  unfold ofUnits base
  simp only [hunits]
  generalize Index.ofUnits grammar s.parser.includePrivate (us ++ vs) = index at hwarnings
  generalize Index.ofUnits grammar s.parser.includePrivate (us ++ u :: vs) = index' at hwarnings
  generalize Model.ofUnits sourceRoot index.units = model
  -- from here on the runs differ in the warnings of the index alone
  cases filterOf s with
  | error e => exact .aborted _
  | ok filter =>
    cases hresolver : Resolver.ofModel model.1 s.resolver.externalPatterns with
    | error e => exact .aborted _
    | ok resolver =>
      show WithWarning _
        ((Overlay.merge model.1 (Locator.ofModel model.1 []) coverage tests).mapError _ >>= _)
        ((Overlay.merge model.1 (Locator.ofModel model.1 []) coverage tests).mapError _ >>= _)
      cases Overlay.merge model.1 (Locator.ofModel model.1 []) coverage tests with
      | error e => exact .aborted _
      | ok merged =>
        exact withWarning_complete model.1 resolver hwarnings model.2 merged.1 merged.2

/-- **A failing unit is isolated.**  A unit of an unknown language adds its warning and changes
nothing else, wherever it stands; and for every list of units all of them are counted, the totals
are those of the results, and all warnings are kept in the order of the units. -/
theorem isolated_ofUnits (grammar : Grammar) (sourceRoot : String) (us vs : List SourceUnit)
    {u : SourceUnit} (foreign : u.isForeign = true) (s : Settings)
    (coverage : Option (List CoverageRecord)) (tests : Option (List TestRecord)) :
    WithWarning u.skipped (ofUnits grammar sourceRoot (us ++ vs) s coverage tests)
        (ofUnits grammar sourceRoot (us ++ u :: vs) s coverage tests) ∧
      ∀ includePrivate ws, Index.Accounts grammar includePrivate ws
        (Index.ofUnits grammar includePrivate ws) :=
  ⟨withWarning_ofUnits grammar sourceRoot us vs foreign s coverage tests,
    fun includePrivate ws => Index.accounts_ofUnits grammar includePrivate ws⟩

/-- A unit of a language that is not known, although its text could be parsed. -/
def includeUnit : SourceUnit := ⟨"b.inc", "<?php class Foo \x7b\x7d"⟩

/-- The class of the unit behind it is documented, and one warning is raised. -/
theorem isolated_ofUnits_include : includeUnit.isForeign = true ∧
    (WithWarning includeUnit.skipped
        (ofUnits classGrammar "src" ([] ++ [⟨"c.php", includeUnit.text⟩]) bareSettings none none)
        (ofUnits classGrammar "src" ([] ++ includeUnit :: [⟨"c.php", includeUnit.text⟩])
          bareSettings none none) ∧
      ∀ includePrivate ws, Index.Accounts classGrammar includePrivate ws
        (Index.ofUnits classGrammar includePrivate ws)) ∧
    (ofUnits classGrammar "src" ([] ++ includeUnit :: [⟨"c.php", includeUnit.text⟩]) bareSettings
        none none).toOption.map
      (fun doc => ((doc.declarations.get? "Foo").map (·.filePath), doc.warnings.map Warning.text)) =
      some (some "c.php",
        ["[file] b.inc: skipped: Parse error: no extractor for extension `inc`"]) := by
  have foreign : includeUnit.isForeign = true := by decide +kernel
  exact ⟨foreign, isolated_ofUnits classGrammar "src" [] [⟨"c.php", includeUnit.text⟩] foreign
    bareSettings none none, by decide +kernel⟩

end Documentation
end CodeAtlas
