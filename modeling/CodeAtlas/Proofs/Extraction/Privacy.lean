/-
  CodeAtlas.Proofs.Extraction.Privacy — leaving private declarations out is a projection.

  Visibility is looked at in each place that declares something, and names that were declared are
  shared by all of them.  A private declaration that is left out must therefore leave no trace: no
  name that is taken, no mention that counts as made before.  It leaves none as long as no two
  declarations want one name.  Where they do, the private one may come first and take the name, and
  what is left out then decides what is found.

  Main results:
    * `simulation_hiding` — a walk that leaves private declarations out, beside one that does not.
    * `projects_ofTree` — what is found without private declarations is what is found with them,
      less the private declarations and all that they mention.
-/
import CodeAtlas.Proofs.Extraction.Simulation
import CodeAtlas.Proofs.Extraction.WellFormed

namespace CodeAtlas

/-! ## §1. Projections -/

namespace Extraction

/-- Whether a private declaration has a name. -/
def hides (x : Extraction) (name : String) : Bool :=
  x.declarations.any fun d => d.visibility == .privateAccess && d.qualifiedName == name

/-- A declaration was dropped because its name was taken. -/
def Clashes (x : Extraction) : Prop :=
  ∃ w ∈ x.warnings, ∃ name, w.message = duplicateText name

/-- An extraction is another one without its private declarations and what they mention. -/
structure Projects (x y : Extraction) : Prop where
  declarations : y.declarations = x.declarations.filter (·.visibility != .privateAccess)
  references : y.references = x.references.filter fun m => !x.hides m.source

/-- The projection along a walk: names are distinct, and every mention has a source. -/
structure Hiding (x y : Extraction) : Prop extends Projects x y where
  distinct : (x.declarations.map (·.qualifiedName)).Nodup
  sources : ∀ m ∈ x.references, x.declares m.source = true

theorem hides_iff {x : Extraction} {name : String} : x.hides name = true ↔
    ∃ d ∈ x.declarations, d.visibility = .privateAccess ∧ d.qualifiedName = name := by
  simp [hides]

theorem hides_push (x : Extraction) (d : Declaration) (name : String) : (x.push d).hides name =
    (x.hides name || (d.visibility == .privateAccess && d.qualifiedName == name)) := by
  simp [hides, push]

theorem declares_of_hides {x : Extraction} {name : String} (h : x.hides name = true) :
    x.declares name = true := by
  obtain ⟨d, hd, _, hname⟩ := hides_iff.mp h
  exact declares_iff.mpr ⟨d, hd, hname⟩

theorem hides_mention (x : Extraction) (m : Mention) (name : String) :
    (x.mention m).hides name = x.hides name := by
  unfold hides
  rw [declarations_mention]

namespace Hiding

variable {x y : Extraction} {d : Declaration} {m : Mention} {name : String} (h : Hiding x y)
include h

/-! ## §2. Names -/

/-- The names that are left are those that no private declaration has. -/
theorem declares_iff_left :
    y.declares name = true ↔ x.declares name = true ∧ x.hides name = false := by
  rw [declares_iff, declares_iff, h.declarations]
  constructor
  · rintro ⟨d, hd, hname⟩
    obtain ⟨hmem, hshown⟩ := List.mem_filter.mp hd
    refine ⟨⟨d, hmem, hname⟩, Bool.eq_false_iff.mpr fun hhides => ?_⟩
    -- a private declaration of that name would be the same one
    obtain ⟨e, he, hprivate, hsame⟩ := hides_iff.mp hhides
    have hde : d = e := List.inj_on_of_nodup_map h.distinct hmem he (hname.trans hsame.symm)
    rw [hde, hprivate] at hshown
    exact absurd hshown (by decide)
  · rintro ⟨⟨d, hd, hname⟩, hhides⟩
    refine ⟨d, List.mem_filter.mpr ⟨hd, ?_⟩, hname⟩
    rw [bne_iff_ne]
    intro hprivate
    rw [hides_iff.mpr ⟨d, hd, hprivate, hname⟩] at hhides
    exact absurd hhides (by decide)

theorem distinct_push (fresh : x.declares d.qualifiedName = false) :
    ((x.push d).declarations.map (·.qualifiedName)).Nodup := by
  apply nodup_map_concat h.distinct
  intro e he hname
  rw [declares_iff.mpr ⟨e, he, hname⟩] at fresh
  exact absurd fresh (by decide)

theorem sources_push : ∀ m ∈ (x.push d).references, (x.push d).declares m.source = true := by
  intro m hm
  obtain ⟨e, he, hname⟩ := declares_iff.mp (h.sources m hm)
  exact declares_iff.mpr ⟨e, List.mem_append_left _ he, hname⟩

/-- A new declaration does not change what has been mentioned by others. -/
theorem references_push (fresh : x.declares d.qualifiedName = false) :
    y.references = (x.push d).references.filter fun m => !(x.push d).hides m.source := by
  rw [h.references]
  apply List.filter_congr
  intro m hm
  -- the source of a mention is declared, and the name is not
  have hne : d.qualifiedName ≠ m.source := by
    intro hname
    rw [hname, h.sources m hm] at fresh
    exact absurd fresh (by decide)
  rw [hides_push, beq_eq_false_iff_ne.mpr hne, Bool.and_false, Bool.or_false]

/-! ## §3. Operations -/

theorem warn (r : Reader) (line : Nat) (message : String) : Hiding (x.warn r line message) y :=
  ⟨⟨h.declarations, h.references⟩, h.distinct, h.sources⟩

theorem push_shown (shown : d.visibility ≠ .privateAccess)
    (fresh : x.declares d.qualifiedName = false) : Hiding (x.push d) (y.push d) where
  declarations := by
    show y.declarations ++ [d] = (x.declarations ++ [d]).filter _
    rw [List.filter_append, h.declarations, List.filter_singleton, bne_iff_ne.mpr shown]
    rfl
  references := h.references_push fresh
  distinct := h.distinct_push fresh
  sources := h.sources_push

theorem push_hidden (hidden : d.visibility = .privateAccess)
    (fresh : x.declares d.qualifiedName = false) : Hiding (x.push d) y where
  declarations := by
    show y.declarations = (x.declarations ++ [d]).filter _
    rw [List.filter_append, h.declarations, List.filter_singleton, hidden]
    exact (List.append_nil _).symm
  references := h.references_push fresh
  distinct := h.distinct_push fresh
  sources := h.sources_push

/-- A mention that has not been made before, by the first walk; the second may leave it out. -/
theorem append_mention {y' : Extraction} (source : x.declares m.source = true)
    (declarations : y'.declarations = y.declarations)
    (references : y'.references = (x.references ++ [m]).filter fun m => !x.hides m.source) :
    Hiding { x with references := x.references ++ [m] } y' where
  declarations := declarations.trans h.declarations
  references := references
  distinct := h.distinct
  sources := by
    intro m' hm'
    rcases List.mem_append.mp hm' with hold | hnew
    · exact h.sources m' hold
    · rw [List.mem_singleton.mp hnew]
      exact source

/-- What a private declaration mentions is left out. -/
theorem mention_hidden (hidden : x.hides m.source = true) : Hiding (x.mention m) y := by
  unfold Extraction.mention
  split
  next => exact h
  next =>
    refine h.append_mention (declares_of_hides hidden) rfl ?_
    rw [List.filter_append, h.references, List.filter_singleton, hidden]
    exact (List.append_nil _).symm

/-- A mention by a declaration that is left has been made in both walks, or in none. -/
theorem mentions_eq (shown : x.hides m.source = false) : y.mentions m = x.mentions m := by
  unfold mentions
  rw [h.references, List.any_filter]
  congr 1
  funext p
  -- mentions by other sources are not the same mention, whether they are left or not
  by_cases hsource : p.source = m.source
  · rw [hsource, shown]
    rfl
  · rw [beq_eq_false_iff_ne.mpr hsource, Bool.false_and, Bool.false_and, Bool.and_false]

theorem mention_shown (source : y.declares m.source = true) :
    Hiding (x.mention m) (y.mention m) := by
  obtain ⟨hx, hshown⟩ := h.declares_iff_left.mp source
  unfold Extraction.mention
  rw [h.mentions_eq hshown]
  split
  next => exact h
  next =>
    refine h.append_mention hx rfl ?_
    show y.references ++ [m] = _
    rw [List.filter_append, h.references, List.filter_singleton, hshown]
    rfl

/-- A private declaration is left out, with all that it mentions. -/
theorem declared_hidden (hidden : d.visibility = .privateAccess)
    (fresh : x.declares d.qualifiedName = false) {ms : List Mention}
    (sources : ∀ m ∈ ms, m.source = d.qualifiedName) :
    Hiding ((x.push d).mentionAll ms) y := by
  have hhides : (x.push d).hides d.qualifiedName = true :=
    hides_iff.mpr ⟨d, List.mem_append_right _ (List.mem_singleton_self d), hidden, rfl⟩
  have hpushed := h.push_hidden hidden fresh
  generalize x.push d = z at hhides hpushed
  unfold Extraction.mentionAll
  induction ms generalizing z with
  | nil => exact hpushed
  | cons m ms ih =>
    have hsource : m.source = d.qualifiedName := sources m List.mem_cons_self
    rw [List.foldl_cons]
    apply ih (fun m' hm' => sources m' (List.mem_cons_of_mem _ hm'))
    · rw [hides_mention]
      exact hhides
    · exact hpushed.mention_hidden (hsource ▸ hhides)

end Hiding

/-! ## §4. Walks -/

/-- A clash stays. -/
theorem clashes_of_step {r : Reader} {x y : Extraction} (step : Step r x y) (h : x.Clashes) :
    y.Clashes := by
  obtain ⟨w, hw, hrest⟩ := h
  cases step with
  | warned line message => exact ⟨w, List.mem_append_left _ hw, hrest⟩
  | declared next => exact ⟨w, hw, hrest⟩
  | mentioned source fresh => exact ⟨w, hw, hrest⟩

/-- **A walk without private declarations beside one with them**, up to the first clash. -/
theorem simulation_hiding (r : Reader) : Simulation (r.showing true) false Clashes Hiding where
  less _ _ := rfl
  lasting := clashes_of_step
  warned line message h := ⟨⟨h.declarations, h.references⟩, h.distinct, h.sources⟩
  taken line name _ _ _ := ⟨_, List.mem_append_right _ (List.mem_singleton_self _), name, rfl⟩
  free d h hx hy := by
    rw [(h.declares_iff_left.mp hy).1] at hx
    exact absurd hx (by decide)
  pushed d h shown hx _ := h.push_shown (bne_iff_ne.mp shown) hx
  mentioned m h _ hy := h.mention_shown hy
  silent v line message _ h _ := h.warn _ line message
  hidden d ms hides h _ hx sources := h.declared_hidden (bne_eq_false_iff_eq.mp hides) hx sources

/-- **Leaving private declarations out is a projection.**  Without them nothing private is declared
and nothing is mentioned by anything that is not declared.  If the tree can be read and no two
declarations clash, exactly the private declarations are missing and what they mention. -/
theorem projects_ofTree (r : Reader) (tree : Node) :
    (∀ d ∈ (ofTree (r.showing false) tree).declarations, d.visibility ≠ .privateAccess) ∧
    (∀ m ∈ (ofTree (r.showing false) tree).references,
      ∃ d ∈ (ofTree (r.showing false) tree).declarations, d.qualifiedName = m.source) ∧
    (tree.Readable → ¬ (ofTree (r.showing true) tree).Clashes →
      Projects (ofTree (r.showing true) tree) (ofTree (r.showing false) tree)) := by
  refine ⟨?_, ?_, ?_⟩
  · intro d hd
    obtain ⟨_, next⟩ := exists_admits_of_mem_ofTree hd
    exact bne_iff_ne.mp next.shown
  · exact (wellFormed_of_steps .empty (steps_ofTree (r.showing false) tree)).sources
  · intro readable clean
    have hstart : Walk.InStep Clashes Hiding {} {} :=
      ⟨rfl, .inr ⟨⟨rfl, rfl⟩, List.nodup_nil, by simp⟩⟩
    have hwalk := Walk.inStep_walk (simulation_hiding r) tree.children
      (.inl fun n hn => readable.child hn) [] hstart
    exact (hwalk.found.resolve_left clean).toProjects

/-- A class with a private method, a private property and a public method, each of some type. -/
def vaultReader : Reader :=
  ⟨"src/Test.php", "<?php\nclass A \x7b private function f(): B \x7b\x7d private B $p; ".toList ++
    "public function g(): C \x7b\x7d \x7d\n".toList, true⟩

/-- The tree of that file. -/
def vaultTree : Node :=
  .mk ⟨"program", true, false, "", 0, 85, 0, 2⟩ [
    .mk ⟨"php_tag", true, false, "", 0, 5, 0, 0⟩ [],
    .mk ⟨"class_declaration", true, false, "", 6, 84, 1, 1⟩ [
      .mk ⟨"class", false, false, "", 6, 11, 1, 1⟩ [],
      .mk ⟨"name", true, false, "name", 12, 13, 1, 1⟩ [],
      .mk ⟨"declaration_list", true, false, "body", 14, 84, 1, 1⟩ [
        .mk ⟨"\x7b", false, false, "", 14, 15, 1, 1⟩ [],
        .mk ⟨"method_declaration", true, false, "", 16, 42, 1, 1⟩ [
          .mk ⟨"visibility_modifier", true, false, "", 16, 23, 1, 1⟩ [
            .mk ⟨"private", false, false, "", 16, 23, 1, 1⟩ []],
          .mk ⟨"function", false, false, "", 24, 32, 1, 1⟩ [],
          .mk ⟨"name", true, false, "name", 33, 34, 1, 1⟩ [],
          .mk ⟨"formal_parameters", true, false, "parameters", 34, 36, 1, 1⟩ [
            .mk ⟨"(", false, false, "", 34, 35, 1, 1⟩ [],
            .mk ⟨")", false, false, "", 35, 36, 1, 1⟩ []],
          .mk ⟨":", false, false, "", 36, 37, 1, 1⟩ [],
          .mk ⟨"named_type", true, false, "return_type", 38, 39, 1, 1⟩ [
            .mk ⟨"name", true, false, "", 38, 39, 1, 1⟩ []],
          .mk ⟨"compound_statement", true, false, "body", 40, 42, 1, 1⟩ [
            .mk ⟨"\x7b", false, false, "", 40, 41, 1, 1⟩ [],
            .mk ⟨"\x7d", false, false, "", 41, 42, 1, 1⟩ []]],
        .mk ⟨"property_declaration", true, false, "", 43, 56, 1, 1⟩ [
          .mk ⟨"visibility_modifier", true, false, "", 43, 50, 1, 1⟩ [
            .mk ⟨"private", false, false, "", 43, 50, 1, 1⟩ []],
          .mk ⟨"named_type", true, false, "type", 51, 52, 1, 1⟩ [
            .mk ⟨"name", true, false, "", 51, 52, 1, 1⟩ []],
          .mk ⟨"property_element", true, false, "", 53, 55, 1, 1⟩ [
            .mk ⟨"variable_name", true, false, "name", 53, 55, 1, 1⟩ [
              .mk ⟨"$", false, false, "", 53, 54, 1, 1⟩ [],
              .mk ⟨"name", true, false, "", 54, 55, 1, 1⟩ []]],
          .mk ⟨";", false, false, "", 55, 56, 1, 1⟩ []],
        .mk ⟨"method_declaration", true, false, "", 57, 82, 1, 1⟩ [
          .mk ⟨"visibility_modifier", true, false, "", 57, 63, 1, 1⟩ [
            .mk ⟨"public", false, false, "", 57, 63, 1, 1⟩ []],
          .mk ⟨"function", false, false, "", 64, 72, 1, 1⟩ [],
          .mk ⟨"name", true, false, "name", 73, 74, 1, 1⟩ [],
          .mk ⟨"formal_parameters", true, false, "parameters", 74, 76, 1, 1⟩ [
            .mk ⟨"(", false, false, "", 74, 75, 1, 1⟩ [],
            .mk ⟨")", false, false, "", 75, 76, 1, 1⟩ []],
          .mk ⟨":", false, false, "", 76, 77, 1, 1⟩ [],
          .mk ⟨"named_type", true, false, "return_type", 78, 79, 1, 1⟩ [
            .mk ⟨"name", true, false, "", 78, 79, 1, 1⟩ []],
          .mk ⟨"compound_statement", true, false, "body", 80, 82, 1, 1⟩ [
            .mk ⟨"\x7b", false, false, "", 80, 81, 1, 1⟩ [],
            .mk ⟨"\x7d", false, false, "", 81, 82, 1, 1⟩ []]],
        .mk ⟨"\x7d", false, false, "", 83, 84, 1, 1⟩ []]]]

/-- Of four declarations and three mentions two and one are left. -/
theorem projects_ofTree_vault :
    vaultTree.Readable ∧ ¬ (ofTree (vaultReader.showing true) vaultTree).Clashes ∧
      Projects (ofTree (vaultReader.showing true) vaultTree)
        (ofTree (vaultReader.showing false) vaultTree) ∧
      (ofTree (vaultReader.showing true) vaultTree).declarations.map (·.qualifiedName) =
        ["A", "A.f", "A.$p", "A.g"] ∧
      (ofTree (vaultReader.showing true) vaultTree).references.map (·.source) =
        ["A.f", "A.$p", "A.g"] ∧
      (ofTree (vaultReader.showing false) vaultTree).declarations.map (·.qualifiedName) =
        ["A", "A.g"] ∧
      (ofTree (vaultReader.showing false) vaultTree).references.map (·.source) = ["A.g"] := by
  have readable : vaultTree.Readable := by decide +kernel
  have hquiet : (ofTree (vaultReader.showing true) vaultTree).warnings = [] := by decide +kernel
  have clean : ¬ (ofTree (vaultReader.showing true) vaultTree).Clashes := by
    rintro ⟨w, hw, _⟩
    rw [hquiet] at hw
    exact absurd hw List.not_mem_nil
  refine ⟨readable, clean, (projects_ofTree vaultReader vaultTree).2.2 readable clean, ?_⟩
  decide +kernel

end Extraction
end CodeAtlas
