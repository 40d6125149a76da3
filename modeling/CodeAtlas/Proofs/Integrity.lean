/-
  CodeAtlas.Proofs.Integrity — the parts of a documentation name what is there.

  References, metrics, file summaries, the table of contents and the search index each hold names of
  declarations as texts.  None of them is checked against the declarations when it is built; that
  they agree follows from what each of them is built from.

  Main result:
    * `linked_of_ofUnits` — the documentation of ANY units of distinct paths is linked.
-/
import CodeAtlas.Documentation
import CodeAtlas.Proofs.Contents
import CodeAtlas.Proofs.Files
import CodeAtlas.Proofs.Index
import CodeAtlas.Proofs.NameIndex
import CodeAtlas.Proofs.Overlay.Merge

namespace CodeAtlas.Documentation

/-- The parts of a documentation agree on what is declared. -/
structure Linked (doc : Documentation) : Prop where
  /-- What mentions something is declared. -/
  sources : ∀ r ∈ doc.references, r.source ∈ doc.declarations.keys
  /-- What a mention is resolved to is declared. -/
  targets : ∀ r ∈ doc.references, ∀ t, r.resolution = .resolved t → t ∈ doc.declarations.keys
  /-- What has metrics is declared. -/
  metrics : ∀ n ∈ doc.metrics.declarations.keys, n ∈ doc.declarations.keys
  /-- Declarations lie in known files. -/
  files : ∀ d ∈ doc.declarations.values, d.filePath ∈ doc.files.keys
  /-- A file counts its declarations. -/
  counts : ∀ p f, doc.files.get? p = some f →
    f.declarations = (doc.declarations.values.filter fun d => d.filePath = p).length
  /-- Every declaration is listed in the table of contents, once, and nothing else is. -/
  contents : doc.contents.names.Perm doc.declarations.keys
  /-- Every declaration can be searched for, and nothing else can. -/
  search : ∀ n, Search.Occurs doc.search n ↔ n ∈ doc.declarations.keys
  /-- Warnings are sorted, and none is there twice. -/
  warnings : doc.warnings.Pairwise fun a b => Warning.order a b = .lt

/-! ## §1. Runs that end well -/

theorem eq_of_base {root : String} {index : Index} {s : Settings} {b : Base}
    (h : base root index s = .ok b) : b.model = (Model.ofUnits root index.units).1 ∧
      b.resolver.table = SymbolTable.ofModel (Model.ofUnits root index.units).1 := by
  obtain ⟨resolver, hresolver, h⟩ := exists_of_bind_eq_ok h
  rw [← Except.ok.inj h]
  exact ⟨rfl, Resolver.table_of_ofModel hresolver⟩

theorem eq_complete_of_ofUnits {grammar : Grammar} {root : String} {us : List SourceUnit}
    {s : Settings} {coverage : Option (List CoverageRecord)} {tests : Option (List TestRecord)}
    {doc : Documentation} (h : ofUnits grammar root us s coverage tests = .ok doc) :
    ∃ b metrics merging, base root (Index.ofUnits grammar s.parser.includePrivate us) s = .ok b ∧
      Overlay.merge b.model (Locator.ofModel b.model []) coverage tests = .ok (metrics, merging) ∧
      doc = complete b metrics none none merging := by
  obtain ⟨_, _, h⟩ := exists_of_bind_eq_ok h
  obtain ⟨b, hbase, h⟩ := exists_of_bind_eq_ok h
  obtain ⟨⟨metrics, merging⟩, hmerge, h⟩ := exists_of_bind_eq_ok h
  exact ⟨b, metrics, merging, eq_ok_of_mapError hbase, eq_ok_of_mapError hmerge,
    (Except.ok.inj h).symm⟩

/-! ## §2. Links -/

/-- **Referential integrity.**  Whenever units of distinct paths are documented, the parts of the
documentation agree. -/
theorem linked_of_ofUnits {grammar : Grammar} {root : String} {us : List SourceUnit} {s : Settings}
    {coverage : Option (List CoverageRecord)} {tests : Option (List TestRecord)}
    {doc : Documentation} (distinct : (us.map (·.path)).Nodup)
    (h : ofUnits grammar root us s coverage tests = .ok doc) : doc.Linked := by
  obtain ⟨⟨m, resolver, joining⟩, metrics, merging, hbase, hmerge, rfl⟩ := eq_complete_of_ofUnits h
  obtain ⟨hmodel, htable⟩ := eq_of_base hbase
  rw [← hmodel] at htable
  dsimp only at hmodel hmerge htable
  generalize hunits : (Index.ofUnits grammar s.parser.includePrivate us).units = units at hmodel
  have keyed : m.Keyed := hmodel ▸ Model.keyed_ofUnits root units
  have filed : Model.Filed (sortBy (compareOn ParsedUnit.filePath) units) m := by
    rw [hmodel, ← hunits]
    exact Model.filed_ofUnits root (Index.nodup_paths grammar _ distinct)
      fun u hu d hd => Index.filePath_of_mem grammar _ hu hd
  constructor
  case sources =>
    intro r hr
    obtain ⟨mention, hmention, rfl⟩ := List.mem_map.mp hr
    rw [hmodel] at hmention ⊢
    exact Table.mem_keys_iff.mpr (Model.source_mem_ofUnits hmention)
  case targets =>
    intro r hr t ht
    obtain ⟨mention, _, rfl⟩ := List.mem_map.mp hr
    exact Resolver.target_mem htable ht
  case metrics =>
    intro n hn
    obtain ⟨ms, hms⟩ := Table.mem_keys_iff.mp hn
    exact Table.mem_keys_iff.mpr (Overlay.within_merge keyed hmerge n ms hms)
  case files =>
    intro d hd
    obtain ⟨n, hn⟩ := Table.mem_values_iff.mp hd
    exact Table.mem_keys_iff.mpr (filed.known_of_get? hn)
  case counts =>
    intro p f hf
    rw [filed.count p f hf]
    exact List.countP_eq_length_filter
  case contents =>
    apply Contents.names_ofModel_perm keyed
    intro n d hd
    rw [hmodel] at hd ⊢
    exact Model.lineage_ofUnits root units hd
  case search =>
    intro n
    exact Search.occurs_ofModel keyed
  case warnings =>
    exact increasing_sortDistinct _

/-- Two files that declare one class. -/
def clashingUnits : List SourceUnit :=
  [⟨"b.php", "<?php class Foo {}"⟩, ⟨"a.php", "<?php class Foo {}"⟩]

/-- Two tests, one of which exercises nothing that is declared. -/
def clashingTests : List TestRecord :=
  [⟨"FooTest::testRun", .passed, some (.unit "Foo" (some "run"))⟩,
    ⟨"BarTest::testRun", .failed, some (.unit "Bar" none)⟩]

/-- Settings without patterns. -/
def bareSettings : Settings :=
  { source := { excludePattern := "" }, resolver := { externalPatterns := [] } }

theorem linked_of_ofUnits_clash : (clashingUnits.map (·.path)).Nodup ∧ ∃ doc,
    ofUnits classGrammar "src" clashingUnits bareSettings (some []) (some clashingTests) = .ok doc ∧
      doc.Linked := by
  obtain ⟨doc, h⟩ : ∃ doc, ofUnits classGrammar "src" clashingUnits bareSettings (some [])
      (some clashingTests) = .ok doc := ⟨_, rfl⟩
  exact ⟨by decide, doc, h, linked_of_ofUnits (by decide) h⟩

end CodeAtlas.Documentation
