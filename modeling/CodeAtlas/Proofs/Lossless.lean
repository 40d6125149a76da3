/-
  CodeAtlas.Proofs.Lossless — files that the grammar could read lose nothing.

  A model takes a declaration in only if its name is free and it lies within its parent, and says
  nothing but a warning about the others.  A file whose tree has no unreadable region yields
  declarations that all pass: names are distinct because the extraction is well formed, ranges lie
  within each other because it follows the lines of the file, and a type comes before its members.

  Main results:
    * `Assembly.AllKept.add` — a declaration that fits what is there is taken in.
    * `fitTogether_ofTree` — the declarations of a readable tree fit one after the other.
    * `holdsAll_ofTree` — the model of such a file holds all of it.
-/
import CodeAtlas.Proofs.Assembly
import CodeAtlas.Proofs.Extraction.Layout
import CodeAtlas.Proofs.Extraction.WellFormed
import CodeAtlas.Proofs.Loop

namespace CodeAtlas

/-! ## §1. Declarations that fit one after the other -/

/-- Declarations with distinct names, each behind a declaration that contains it if it has a
parent. -/
structure FitTogether (ds : List Declaration) : Prop where
  distinct : (ds.map (·.qualifiedName)).Nodup
  range : ∀ d ∈ ds, d.lineStart ≤ d.lineEnd
  nested : ∀ before d after p, ds = before ++ d :: after → d.parent = some p →
    ∃ e ∈ before, e.qualifiedName = p ∧ e.contains d = true

/-- The declarations of a readable tree fit one after the other. -/
theorem fitTogether_ofTree (r : Reader) {tree : Node} (laid : tree.LaidOut)
    (readable : tree.Readable) : FitTogether (Extraction.ofTree r tree).declarations := by
  have hlaid := Extraction.laid_ofTree r laid readable
  have hformed := Extraction.wellFormed_of_steps .empty (Extraction.steps_ofTree r tree)
  refine ⟨hformed.distinct, hlaid.range, ?_⟩
  intro before d after p hsplit hp
  have hd : d ∈ (Extraction.ofTree r tree).declarations := by
    rw [hsplit]
    exact List.mem_append_right _ List.mem_cons_self
  obtain ⟨_, e, hbefore, hname, _⟩ := hformed.nested before d after p hsplit hp
  have he : e ∈ (Extraction.ofTree r tree).declarations := by
    rw [hsplit]
    exact List.mem_append_left _ hbefore
  -- the parent that comes first and the parent that contains `d` have one name, so they are one
  obtain ⟨e', he', hname', hstart, hend⟩ := hlaid.within d hd p hp
  have hsame : e = e' := List.inj_on_of_nodup_map hformed.distinct he he' (hname.trans hname'.symm)
  subst hsame
  have hpath : e.filePath = d.filePath :=
    (Extraction.filePath_of_mem_ofTree he).trans (Extraction.filePath_of_mem_ofTree hd).symm
  refine ⟨e, hbefore, hname, ?_⟩
  unfold Declaration.contains
  simp [hpath, hstart, hend]

namespace Model

/-! ## §2. Taking them in -/

namespace Assembly

/-- Exactly the declarations taken in are there, and there was nothing to complain about. -/
structure AllKept (done : List Declaration) (a : Assembly) : Prop where
  stored : ∀ n d, a.declarations.get? n = some d ↔ d ∈ done ∧ d.qualifiedName = n
  undropped : a.dropped = []
  silent : a.warnings = []

theorem AllKept.empty : AllKept [] {} where
  stored := by simp
  undropped := rfl
  silent := rfl

/-- **A declaration that fits is taken in.** -/
theorem AllKept.add {done : List Declaration} {a : Assembly} {d : Declaration} (h : AllKept done a)
    (fresh : ∀ e ∈ done, e.qualifiedName ≠ d.qualifiedName) (range : d.lineStart ≤ d.lineEnd)
    (nested : ∀ p, d.parent = some p → ∃ e ∈ done, e.qualifiedName = p ∧ e.contains d = true) :
    AllKept (done ++ [d]) (a.add d) := by
  have added := added_add a d
  generalize a.add d = b at added
  cases added with
  | orphaned up lost =>
    rw [h.undropped] at lost
    exact absurd lost List.not_mem_nil
  | duplicate whole taken =>
    obtain ⟨he, hname⟩ := (h.stored _ _).mp taken
    exact absurd hname (fresh _ he)
  | misfit whole free bad =>
    refine absurd ⟨?_, range⟩ bad
    intro p hp
    obtain ⟨e, he, hname, hcontains⟩ := nested p hp
    exact ⟨e, (h.stored p e).mpr ⟨he, hname⟩, hcontains⟩
  | kept whole free good =>
    refine ⟨?_, h.undropped, h.silent⟩
    intro n e
    show (a.declarations.insert d.qualifiedName d).get? n = some e ↔ _
    rw [Table.get?_insert]
    by_cases hn : n = d.qualifiedName
    · -- the name of `d` is that of no earlier declaration
      rw [if_pos hn]
      constructor
      · intro heq
        rw [← Option.some.inj heq]
        exact ⟨List.mem_append_right _ (List.mem_singleton_self d), hn.symm⟩
      · rintro ⟨hmem, hname⟩
        rcases List.mem_append.mp hmem with hold | hnew
        · exact absurd (hname.trans hn) (fresh e hold)
        · rw [List.mem_singleton.mp hnew]
    · rw [if_neg hn, h.stored n e]
      constructor
      · rintro ⟨hmem, hname⟩
        exact ⟨List.mem_append_left _ hmem, hname⟩
      · rintro ⟨hmem, hname⟩
        rcases List.mem_append.mp hmem with hold | hnew
        · exact ⟨hold, hname⟩
        · rw [List.mem_singleton.mp hnew] at hname
          exact absurd hname.symm hn

/-- Declarations that fit one after the other are all taken in. -/
theorem allKept_foldl_add {ds : List Declaration} (h : FitTogether ds) :
    AllKept ds (ds.foldl Assembly.add {}) := by
  apply foldl_invariant AllKept.empty
  intro done d rest a hsplit hdone
  apply hdone.add
  · intro e he heq
    have hdistinct := h.distinct
    rw [hsplit, List.map_append, List.map_cons] at hdistinct
    exact List.disjoint_of_nodup_append hdistinct (List.mem_map_of_mem he)
      (heq ▸ List.mem_cons_self)
  · exact h.range d (hsplit ▸ List.mem_append_right _ List.mem_cons_self)
  · intro p hp
    exact h.nested done d rest p hsplit hp

end Assembly

/-! ## §3. The model of one file -/

/-- A model and its warnings hold exactly what was read from a file, and complain about nothing. -/
structure HoldsAll (u : ParsedUnit) (m : Model) (ws : List Warning) : Prop where
  /-- Every declaration is there as it was read, under its own name, and nothing else is. -/
  declarations : ∀ n d, m.get? n = some d ↔ d ∈ u.declarations ∧ d.qualifiedName = n
  /-- Every mention is there as often as it was read. -/
  references : m.references.Perm u.references
  silent : ws = []

/-- A file whose declarations fit one after the other is held as it is. -/
theorem holdsAll_ofUnits_singleton (root : String) {u : ParsedUnit}
    (fits : FitTogether u.declarations)
    (sources : ∀ r ∈ u.references, ∃ d ∈ u.declarations, d.qualifiedName = r.source)
    (once : u.references.Nodup) :
    HoldsAll u (ofUnits root [u]).1 (ofUnits root [u]).2 := by
  have hkept := Assembly.allKept_foldl_add fits
  set a := u.declarations.foldl Assembly.add {}
  have hsort : sortBy (compareOn ParsedUnit.filePath) [u] = [u] := List.mergeSort_singleton u
  unfold ofUnits
  rw [hsort]
  refine ⟨hkept.stored, ?_, hkept.silent⟩
  -- no source was dropped, and every source is declared: neither filter takes anything out
  have hundropped : u.references.filter (fun r => !a.dropped.contains r.source) = u.references := by
    rw [List.filter_eq_self]
    intro r _
    rw [hkept.undropped]
    rfl
  have hdeclared : u.references.filter (fun r => a.declarations.contains r.source) =
      u.references := by
    rw [List.filter_eq_self]
    intro r hr
    obtain ⟨d, hd, hname⟩ := sources r hr
    exact Table.contains_iff.mpr ⟨d, (hkept.stored _ d).mpr ⟨hd, hname⟩⟩
  show (sortDistinct Mention.order (List.filter _ ([] ++ List.filter _ u.references))).Perm _
  rw [List.nil_append, hundropped, hdeclared]
  exact sortDistinct_perm once

/-- **A readable file loses nothing**: its extraction follows its lines, and the model of that file
alone holds every declaration and every mention, without a warning. -/
theorem holdsAll_ofTree (r : Reader) {tree : Node} (laid : tree.LaidOut)
    (readable : tree.Readable) :
    (Extraction.ofTree r tree).Laid ∧
      ∀ (root : String) (u : ParsedUnit),
        u.declarations = (Extraction.ofTree r tree).declarations →
        u.references = (Extraction.ofTree r tree).references →
        HoldsAll u (ofUnits root [u]).1 (ofUnits root [u]).2 := by
  refine ⟨Extraction.laid_ofTree r laid readable, ?_⟩
  intro root u hdeclarations hreferences
  have hformed := Extraction.wellFormed_of_steps .empty (Extraction.steps_ofTree r tree)
  apply holdsAll_ofUnits_singleton
  · rw [hdeclarations]
    exact fitTogether_ofTree r laid readable
  · rw [hdeclarations, hreferences]
    exact hformed.sources
  · rw [hreferences]
    exact List.Nodup.of_map _ hformed.once

/-- A file of four lines: a class `Foo` with a method `bar` on the third line that calls `baz`. -/
def fooReader : Reader :=
  ⟨"src/Foo.php", "<?php\nclass Foo \x7b\n  function bar() \x7b baz(); \x7d\n\x7d\n".toList, false⟩

/-- The tree of that file. -/
def fooTree : Node :=
  .mk ⟨"program", true, false, "", 0, 48, 0, 4⟩ [
    .mk ⟨"class_declaration", true, false, "", 6, 47, 1, 3⟩ [
      .mk ⟨"name", true, false, "name", 12, 15, 1, 1⟩ [],
      .mk ⟨"declaration_list", true, false, "body", 16, 47, 1, 3⟩ [
        .mk ⟨"method_declaration", true, false, "", 20, 45, 2, 2⟩ [
          .mk ⟨"name", true, false, "name", 29, 32, 2, 2⟩ [],
          .mk ⟨"compound_statement", true, false, "body", 35, 45, 2, 2⟩ [
            .mk ⟨"function_call_expression", true, false, "", 37, 42, 2, 2⟩ [
              .mk ⟨"name", true, false, "function", 37, 40, 2, 2⟩ []]]]]]]

/-- What is read from that file. -/
def fooParsed : ParsedUnit where
  filePath := "src/Foo.php"
  language := .php
  lineCount := 4
  declarations := (Extraction.ofTree fooReader fooTree).declarations
  references := (Extraction.ofTree fooReader fooTree).references
  warnings := []

/-- The class, its method and the call all arrive. -/
theorem holdsAll_ofTree_foo :
    (fooTree.LaidOut ∧ fooTree.Readable) ∧
      (fooParsed.declarations.map fun d => (d.qualifiedName, d.lineStart, d.lineEnd)) =
        [("Foo", 2, 4), ("Foo.bar", 3, 3)] ∧
      (fooParsed.references.map fun m => (m.source, m.name, m.line)) = [("Foo.bar", "baz", 3)] ∧
      (Extraction.ofTree fooReader fooTree).Laid ∧
      HoldsAll fooParsed (ofUnits "src" [fooParsed]).1 (ofUnits "src" [fooParsed]).2 := by
  have laid : fooTree.LaidOut := by decide
  have readable : fooTree.Readable := by decide
  obtain ⟨hlaid, hall⟩ := holdsAll_ofTree fooReader laid readable
  exact ⟨⟨laid, readable⟩, by decide +kernel, by decide +kernel, hlaid,
    hall "src" fooParsed rfl rfl⟩

end Model
end CodeAtlas
