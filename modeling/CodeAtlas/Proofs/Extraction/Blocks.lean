/-
  CodeAtlas.Proofs.Extraction.Blocks — bracketed namespaces do not influence each other.

  One walk carries the namespace, its imports, the names that are taken and the mentions that were
  made through a whole file.  A bracketed namespace gives the scope back as it found it, whatever
  stands inside, so the next one starts from the same scope.  What is left to pass from one to the
  next are names and mentions, and they have no effect on declarations of other names.

  Main results:
    * `scope_statements` — blocks leave the scope as it was.
    * `simulation_behind` — a walk from nothing beside a walk that goes on behind other findings.
    * `ofTree_append` — a file of blocks is read as its parts are, one behind the other.
-/
import CodeAtlas.Proofs.Extraction.Simulation
import CodeAtlas.Proofs.Extraction.WellFormed

namespace CodeAtlas

/-! ## §1. Blocks -/

/-- A namespace with its statements in brackets. -/
def Node.Bracketed (n : Node) : Prop :=
  n.kind = "namespace_definition" ∧ (n.child? "body").isSome = true

instance (n : Node) : Decidable n.Bracketed :=
  inferInstanceAs (Decidable (n.kind = "namespace_definition" ∧ (n.child? "body").isSome = true))

/-- A statement of a file of blocks: a bracketed namespace, or a node that holds no declarations,
such as the opening tag or a comment. -/
def Node.Block (n : Node) : Prop := n.Bracketed ∨ Walk.isInert n.kind = true

instance (n : Node) : Decidable n.Block :=
  inferInstanceAs (Decidable (n.Bracketed ∨ Walk.isInert n.kind = true))

theorem Node.role_of_isInert {n : Node} (h : Walk.isInert n.kind = true) : n.role = .inert := by
  have hkinds : n.kind = "comment" ∨ n.kind = "php_tag" ∨ n.kind = "text" ∨
      n.kind = "text_interpolation" := by
    simpa [Walk.isInert, or_assoc] using h
  unfold Node.role
  rcases hkinds with hkind | hkind | hkind | hkind <;> rw [hkind] <;> rfl

namespace Walk

variable {r : Reader} {n : Node} {ns : List Node}

/-- A bracketed namespace is read from its own scope, wherever it stands, and gives the old one
back. -/
theorem statement_of_bracketed (h : n.Bracketed) : ∃ body, n.child? "body" = some body ∧
    ∀ before w, statement r before n w =
      { statements r [] body.children (w.enter (namespaceName r n.children)) with
        scope := w.scope } := by
  obtain ⟨hkind, hsome⟩ := h
  obtain ⟨body, hbody⟩ := Option.isSome_iff_exists.mp hsome
  have hrole : n.role = .scope := by
    unfold Node.role
    rw [hkind]
    rfl
  refine ⟨body, hbody, fun before w => ?_⟩
  rw [statement_eq, hrole]
  dsimp only [statementAs]
  rw [blockOf_eq, hbody]
  rfl

theorem statement_of_isInert (h : isInert n.kind = true) (before : List Node) (w : Walk) :
    statement r before n w = w := by
  rw [statement_eq, Node.role_of_isInert h]
  rfl

theorem scope_statement (h : n.Block) (before : List Node) (w : Walk) :
    (statement r before n w).scope = w.scope := by
  rcases h with hbracketed | hinert
  · obtain ⟨body, _, hstatement⟩ := statement_of_bracketed (r := r) hbracketed
    rw [hstatement]
  · rw [statement_of_isInert hinert]

/-- **Blocks leave the scope as it was**, whatever they declare, import or enter inside. -/
theorem scope_statements (h : ∀ n ∈ ns, n.Block) (before : List Node) (w : Walk) :
    (statements r before ns w).scope = w.scope := by
  induction ns generalizing before w with
  | nil =>
    unfold statements
    rfl
  | cons n ns ih =>
    unfold statements
    rw [ih fun c hc => h c (List.mem_cons_of_mem n hc)]
    exact scope_statement (h n List.mem_cons_self) before w

/-- What stands in front of blocks does not matter for them. -/
theorem statements_before (h : ∀ n ∈ ns, n.Block) (before before' : List Node) (w : Walk) :
    statements r before ns w = statements r before' ns w := by
  induction ns generalizing before before' w with
  | nil =>
    unfold statements
    rfl
  | cons n ns ih =>
    have hn : statement r before n w = statement r before' n w := by
      rcases h n List.mem_cons_self with hbracketed | hinert
      · obtain ⟨body, _, hstatement⟩ := statement_of_bracketed (r := r) hbracketed
        rw [hstatement, hstatement]
      · rw [statement_of_isInert hinert, statement_of_isInert hinert]
    unfold statements
    rw [hn]
    exact ih (fun c hc => h c (List.mem_cons_of_mem n hc)) _ _ _

theorem statements_append (ns ns' before : List Node) (w : Walk) :
    statements r before (ns ++ ns') w =
      statements r (ns.reverse ++ before) ns' (statements r before ns w) := by
  induction ns generalizing before w with
  | nil =>
    rw [statements]
    rfl
  | cons n ns ih =>
    rw [List.cons_append, statements, ih, statements, List.reverse_cons, List.append_assoc]
    rfl

end Walk

/-! ## §2. One extraction behind another -/

namespace Extraction

/-- One extraction behind another. -/
instance : Append Extraction :=
  ⟨fun x y => ⟨x.declarations ++ y.declarations, x.references ++ y.references,
    x.warnings ++ y.warnings⟩⟩

variable {r : Reader} {x₀ x y : Extraction}

theorem append_empty (x : Extraction) : x ++ ({} : Extraction) = x := by
  show Extraction.mk (x.declarations ++ []) (x.references ++ []) (x.warnings ++ []) = x
  rw [List.append_nil, List.append_nil, List.append_nil]

theorem declares_append (x y : Extraction) (name : String) :
    (x ++ y).declares name = (x.declares name || y.declares name) := List.any_append

theorem mentions_append (x y : Extraction) (m : Mention) :
    (x ++ y).mentions m = (x.mentions m || y.mentions m) := List.any_append

theorem append_warn (x y : Extraction) (line : Nat) (message : String) :
    (x ++ y).warn r line message = x ++ y.warn r line message := by
  show Extraction.mk _ _ ((x.warnings ++ y.warnings) ++ _) = Extraction.mk _ _ _
  rw [List.append_assoc]
  rfl

theorem append_push (x y : Extraction) (d : Declaration) : (x ++ y).push d = x ++ y.push d := by
  show Extraction.mk ((x.declarations ++ y.declarations) ++ _) _ _ = Extraction.mk _ _ _
  rw [List.append_assoc]
  rfl

/-- A mention that the first extraction has not made is made behind it. -/
theorem append_mention {m : Mention} (new : x.mentions m = false) :
    (x ++ y).mention m = x ++ y.mention m := by
  unfold mention
  rw [mentions_append, new, Bool.false_or]
  split
  next => rfl
  next =>
    show Extraction.mk _ ((x.references ++ y.references) ++ _) _ = Extraction.mk _ _ _
    rw [List.append_assoc]
    rfl

/-- A source makes no mention if it is not declared. -/
theorem mentions_eq_false (sources : ∀ m ∈ x.references, ∃ d ∈ x.declarations,
    d.qualifiedName = m.source) {m : Mention} (h : x.declares m.source = false) :
    x.mentions m = false := by
  rw [Bool.eq_false_iff]
  intro hmade
  obtain ⟨p, hp, hsame⟩ := List.any_eq_true.mp hmade
  have hsource : p.source = m.source := by
    simp only [Bool.and_eq_true, beq_iff_eq] at hsame
    exact hsame.1.1
  rw [← hsource, declares_iff.mpr (sources p hp)] at h
  exact absurd h (by decide)

/-- An extraction declares a name of another one. -/
def Meets (x₀ x : Extraction) : Prop :=
  ∃ name, x.declares name = true ∧ x₀.declares name = true

/-- A walk has found the same as another one, behind what it had found before. -/
structure Behind (x₀ x y : Extraction) : Prop where
  eq : y = x₀ ++ x
  apart : ∀ name, x.declares name = true → x₀.declares name = false

/-- **A walk from nothing beside a walk that goes on behind other findings**, up to the first name
that they share. -/
theorem simulation_behind (r : Reader) (sources : ∀ m ∈ x₀.references, ∃ d ∈ x₀.declarations,
    d.qualifiedName = m.source) :
    Simulation r r.includePrivate (Meets x₀) (Behind x₀) where
  less _ h := h
  lasting step h := by
    obtain ⟨name, hx, h₀⟩ := h
    exact ⟨name, Steps.declares (.single step) hx, h₀⟩
  warned line message h := ⟨by rw [h.eq]; exact append_warn _ _ _ _, h.apart⟩
  taken line name h hx hy := by
    rw [h.eq, declares_append, hx, Bool.or_true] at hy
    exact absurd hy (by decide)
  free d h hx hy := by
    -- the name was taken before the walk began
    rw [h.eq, declares_append, hx, Bool.or_false] at hy
    exact ⟨d.qualifiedName, declares_push _ d, hy⟩
  pushed d h _ hx hy := by
    refine ⟨by rw [h.eq, append_push], ?_⟩
    rw [h.eq, declares_append, hx, Bool.or_false] at hy
    intro name hname
    obtain ⟨e, he, rfl⟩ := declares_iff.mp hname
    rcases List.mem_append.mp he with hold | hnew
    · exact h.apart _ (declares_iff.mpr ⟨e, hold, rfl⟩)
    · rw [List.mem_singleton.mp hnew]
      exact hy
  mentioned m h hx _ := by
    -- the source is new, so what was found before has no mention by it
    have hnew : x₀.mentions m = false := mentions_eq_false sources (h.apart _ hx)
    refine ⟨by rw [h.eq, append_mention hnew], ?_⟩
    intro name hname
    rw [declares_mention] at hname
    exact h.apart name hname
  -- both walks show the same
  silent v _ _ hides _ shown := absurd (shown.symm.trans hides) (by decide)
  hidden d _ hides _ shown := absurd (shown.symm.trans hides) (by decide)

/-- **Bracketed namespaces are independent.**  A file of blocks is read as its first blocks and its
last blocks are read alone, one behind the other, if they declare different names; and the last
blocks find the scope that they would find without the first. -/
theorem ofTree_append (r : Reader) (tag tag₁ tag₂ : Tag) {g₁ g₂ : List Node}
    (blocks : ∀ n ∈ g₁ ++ g₂, n.Block)
    (disjoint : ∀ name, (ofTree r (.mk tag₁ g₁)).declares name = true →
      (ofTree r (.mk tag₂ g₂)).declares name = false) :
    ofTree r (.mk tag (g₁ ++ g₂)) = ofTree r (.mk tag₁ g₁) ++ ofTree r (.mk tag₂ g₂) ∧
      ∀ before w, (Walk.statements r before g₁ w).scope = w.scope := by
  have hfirst : ∀ n ∈ g₁, n.Block := fun n hn => blocks n (List.mem_append_left _ hn)
  have hlast : ∀ n ∈ g₂, n.Block := fun n hn => blocks n (List.mem_append_right _ hn)
  have hscope := fun before w => Walk.scope_statements (r := r) hfirst before w
  refine ⟨?_, hscope⟩
  have hwhole : ofTree r (.mk tag (g₁ ++ g₂)) =
      (Walk.statements r [] g₂ (Walk.statements r [] g₁ {})).found := by
    show (Walk.statements r [] (g₁ ++ g₂) {}).found = _
    rw [Walk.statements_append, Walk.statements_before hlast _ []]
  -- the last blocks alone, beside the last blocks behind the first
  have hsources := (wellFormed_of_steps .empty (steps_ofTree r (.mk tag₁ g₁))).sources
  have hstart : Walk.InStep (Meets (ofTree r (.mk tag₁ g₁))) (Behind (ofTree r (.mk tag₁ g₁)))
      {} (Walk.statements r [] g₁ {}) :=
    ⟨hscope [] {}, .inr ⟨(append_empty _).symm, fun _ h => (nomatch h)⟩⟩
  have hwalk := Walk.inStep_walk (simulation_behind r hsources) g₂ (.inr rfl) [] hstart
  rcases hwalk.found with ⟨name, hname, hname₁⟩ | hbehind
  · have hfree := disjoint name hname₁
    rw [show (ofTree r (.mk tag₂ g₂)).declares name = true from hname] at hfree
    exact absurd hfree (by decide)
  · rw [hwhole]
    exact hbehind.eq

/-- Two blocks, in the first of which a class is imported. -/
def pairReader : Reader :=
  ⟨"src/Test.php", "<?php\nnamespace A \x7b use X\\Y; class One extends Y \x7b\x7d \x7d\n".toList ++
    "namespace B \x7b class Two extends Y \x7b\x7d \x7d\n".toList, false⟩

/-- The opening tag and the first block of that file. -/
def pairFirst : List Node := [
  .mk ⟨"php_tag", true, false, "", 0, 5, 0, 0⟩ [],
  .mk ⟨"namespace_definition", true, false, "", 6, 53, 1, 1⟩ [
    .mk ⟨"namespace", false, false, "", 6, 15, 1, 1⟩ [],
    .mk ⟨"namespace_name", true, false, "name", 16, 17, 1, 1⟩ [
      .mk ⟨"name", true, false, "", 16, 17, 1, 1⟩ []],
    .mk ⟨"compound_statement", true, false, "body", 18, 53, 1, 1⟩ [
      .mk ⟨"\x7b", false, false, "", 18, 19, 1, 1⟩ [],
      .mk ⟨"namespace_use_declaration", true, false, "", 20, 28, 1, 1⟩ [
        .mk ⟨"use", false, false, "", 20, 23, 1, 1⟩ [],
        .mk ⟨"namespace_use_clause", true, false, "", 24, 27, 1, 1⟩ [
          .mk ⟨"qualified_name", true, false, "", 24, 27, 1, 1⟩ [
            .mk ⟨"namespace_name", true, false, "prefix", 24, 25, 1, 1⟩ [
              .mk ⟨"name", true, false, "", 24, 25, 1, 1⟩ []],
            .mk ⟨"\\", false, false, "prefix", 25, 26, 1, 1⟩ [],
            .mk ⟨"name", true, false, "", 26, 27, 1, 1⟩ []]],
        .mk ⟨";", false, false, "", 27, 28, 1, 1⟩ []],
      .mk ⟨"class_declaration", true, false, "", 29, 51, 1, 1⟩ [
        .mk ⟨"class", false, false, "", 29, 34, 1, 1⟩ [],
        .mk ⟨"name", true, false, "name", 35, 38, 1, 1⟩ [],
        .mk ⟨"base_clause", true, false, "", 39, 48, 1, 1⟩ [
          .mk ⟨"extends", false, false, "", 39, 46, 1, 1⟩ [],
          .mk ⟨"name", true, false, "", 47, 48, 1, 1⟩ []],
        .mk ⟨"declaration_list", true, false, "body", 49, 51, 1, 1⟩ [
          .mk ⟨"\x7b", false, false, "", 49, 50, 1, 1⟩ [],
          .mk ⟨"\x7d", false, false, "", 50, 51, 1, 1⟩ []]],
      .mk ⟨"\x7d", false, false, "", 52, 53, 1, 1⟩ []]]]

/-- The second block. -/
def pairSecond : List Node := [
  .mk ⟨"namespace_definition", true, false, "", 54, 92, 2, 2⟩ [
    .mk ⟨"namespace", false, false, "", 54, 63, 2, 2⟩ [],
    .mk ⟨"namespace_name", true, false, "name", 64, 65, 2, 2⟩ [
      .mk ⟨"name", true, false, "", 64, 65, 2, 2⟩ []],
    .mk ⟨"compound_statement", true, false, "body", 66, 92, 2, 2⟩ [
      .mk ⟨"\x7b", false, false, "", 66, 67, 2, 2⟩ [],
      .mk ⟨"class_declaration", true, false, "", 68, 90, 2, 2⟩ [
        .mk ⟨"class", false, false, "", 68, 73, 2, 2⟩ [],
        .mk ⟨"name", true, false, "name", 74, 77, 2, 2⟩ [],
        .mk ⟨"base_clause", true, false, "", 78, 87, 2, 2⟩ [
          .mk ⟨"extends", false, false, "", 78, 85, 2, 2⟩ [],
          .mk ⟨"name", true, false, "", 86, 87, 2, 2⟩ []],
        .mk ⟨"declaration_list", true, false, "body", 88, 90, 2, 2⟩ [
          .mk ⟨"\x7b", false, false, "", 88, 89, 2, 2⟩ [],
          .mk ⟨"\x7d", false, false, "", 89, 90, 2, 2⟩ []]],
      .mk ⟨"\x7d", false, false, "", 91, 92, 2, 2⟩ []]]]

/-- The name that both classes extend stands for the import in the first block only. -/
theorem ofTree_append_pair :
    (∀ n ∈ pairFirst ++ pairSecond, n.Block) ∧
      ofTree pairReader (.mk default (pairFirst ++ pairSecond)) =
        ofTree pairReader (.mk default pairFirst) ++ ofTree pairReader (.mk default pairSecond) ∧
      (ofTree pairReader (.mk default (pairFirst ++ pairSecond))).references.map
          (fun m => (m.source, m.name, m.hint)) =
        [("A\\One", "Y", some "X\\Y"), ("B\\Two", "Y", some "B\\Y")] := by
  have blocks : ∀ n ∈ pairFirst ++ pairSecond, n.Block := by decide +kernel
  have hfirst : (ofTree pairReader (.mk default pairFirst)).declarations.map (·.qualifiedName) =
      ["A\\One"] := by decide +kernel
  have hsecond : (ofTree pairReader (.mk default pairSecond)).declares "A\\One" = false := by
    decide +kernel
  have disjoint : ∀ name, (ofTree pairReader (.mk default pairFirst)).declares name = true →
      (ofTree pairReader (.mk default pairSecond)).declares name = false := by
    intro name hname
    have hmem : name ∈ (ofTree pairReader (.mk default pairFirst)).declarations.map
        (·.qualifiedName) := List.mem_map.mpr (declares_iff.mp hname)
    rw [hfirst, List.mem_singleton] at hmem
    rw [hmem]
    exact hsecond
  exact ⟨blocks, (ofTree_append pairReader default default default blocks disjoint).1,
    by decide +kernel⟩

end Extraction
end CodeAtlas
