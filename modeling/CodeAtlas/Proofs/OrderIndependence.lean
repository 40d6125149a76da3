/-
  CodeAtlas.Proofs.OrderIndependence — documentation depends on what went in, not on the order.

  Every step of a run forgets the order of its input in its own way: parsed units are sorted by
  path, coverage counts are summed, test cases are sorted, warnings become a sorted list without
  repeats.  Paths have to be distinct, since units of one path keep the order they came in.

  Main result:
    * `ofUnits_eq_of_perm` — units, coverage records and test records may come in ANY order; the
      outcome is the same documentation, the same failure or the same fault.
-/
import CodeAtlas.Documentation
import CodeAtlas.Proofs.Index
import CodeAtlas.Proofs.Overlay.Merge

namespace CodeAtlas.Documentation

/-- Warnings are sorted at last, so their order up to then does not matter. -/
theorem complete_eq_of_perm (m : Model) (r : Resolver) {ws ws' : List Warning} (perm : ws.Perm ws')
    (metrics : Overlay) (guide : Option Guide) (baseUri : Option String) (merging : List Warning) :
    complete ⟨m, r, ws⟩ metrics guide baseUri merging =
      complete ⟨m, r, ws'⟩ metrics guide baseUri merging := by
  unfold complete Warning.tidy
  simp only [sortDistinct_eq_of_perm (perm.append_right merging)]

/-- **Order independence.**  Units of distinct paths, coverage records and test records may come in
any order. -/
theorem ofUnits_eq_of_perm (grammar : Grammar) (sourceRoot : String) (s : Settings)
    {us vs : List SourceUnit} {coverage coverage' : Option (List CoverageRecord)}
    {tests tests' : Option (List TestRecord)} (distinct : (us.map (·.path)).Nodup)
    (hunits : us.Perm vs) (hcoverage : Option.Rel List.Perm coverage coverage')
    (htests : Option.Rel List.Perm tests tests') :
    ofUnits grammar sourceRoot us s coverage tests =
      ofUnits grammar sourceRoot vs s coverage' tests' := by
  have hsame := Index.units_eq_of_perm grammar s.parser.includePrivate distinct hunits
  have hwarnings := Index.warnings_perm grammar s.parser.includePrivate hunits
  unfold ofUnits base
  simp only [hsame, Overlay.merge_eq_of_perm _ _ hcoverage htests]
  generalize Index.ofUnits grammar s.parser.includePrivate vs = index at hwarnings
  generalize Model.ofUnits sourceRoot index.units = model
  -- from here on the runs differ in the order of the warnings alone
  cases filterOf s with
  | error e => rfl
  | ok filter =>
    cases Resolver.ofModel model.1 s.resolver.externalPatterns with
    | error e => rfl
    | ok resolver =>
      show (Overlay.merge model.1 (Locator.ofModel model.1 []) coverage' tests').mapError _ >>= _ =
        (Overlay.merge model.1 (Locator.ofModel model.1 []) coverage' tests').mapError _ >>= _
      cases Overlay.merge model.1 (Locator.ofModel model.1 []) coverage' tests' with
      | error e => rfl
      | ok merged =>
        exact congrArg Except.ok (complete_eq_of_perm model.1 resolver
          (hwarnings.append_right model.2) merged.1 none none merged.2)

/-- Two files that declare one class, with records that belong to it and records that do not. -/
theorem ofUnits_eq_of_perm_swapped :
    ofUnits classGrammar "src" [⟨"b.php", "<?php class Foo {}"⟩, ⟨"a.php", "<?php class Foo {}"⟩] {}
        (some [⟨"src/a.php", 1, 2⟩, ⟨"b.php", 7, 1⟩, ⟨"a.php", 1, 3⟩])
        (some [⟨"FooTest::testRun", .passed, some (.unit "Foo" (some "run"))⟩,
          ⟨"BarTest::testRun", .failed, some (.unit "Bar" none)⟩]) =
      ofUnits classGrammar "src"
        [⟨"a.php", "<?php class Foo {}"⟩, ⟨"b.php", "<?php class Foo {}"⟩] {}
        (some [⟨"b.php", 7, 1⟩, ⟨"src/a.php", 1, 2⟩, ⟨"a.php", 1, 3⟩])
        (some [⟨"BarTest::testRun", .failed, some (.unit "Bar" none)⟩,
          ⟨"FooTest::testRun", .passed, some (.unit "Foo" (some "run"))⟩]) :=
  ofUnits_eq_of_perm classGrammar "src" {} (by decide) (.swap _ _ _) (.some (.swap _ _ _))
    (.some (.swap _ _ _))

end CodeAtlas.Documentation
