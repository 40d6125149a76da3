/-
  CodeAtlas.Proofs.Extraction.Hints — which hints a `use` declaration can change.

  Names of functions and names of classes are expanded by one table of imports.  An import therefore
  reaches every mention whose name starts with its alias, be it a class or a function, and no other.
  Files that differ in their `use` declarations are compared here, those of namespace blocks
  included.

  Main results:
    * `inStepBut_reimported` — walks through statements with other `use` declarations.
    * `mention_of_free`, `mention_of_import` — the hint of an unqualified call.
    * `hinted_ofTree` — the hints of calls, and of whole files with other imports.
-/
import CodeAtlas.Proofs.Extraction.Scopes

namespace CodeAtlas

/-! ## §1. Other imports -/

namespace Walk

variable {r : Reader} {aliases : List String} {w w' : Walk}

/-- Statements that differ in their `use` declarations only, those of blocks included: a declaration
was changed, added or left out, and apart from the aliases nothing is entered differently. -/
inductive Reimported (r : Reader) (aliases : List String) : List Node → List Node → Prop where
  | nil : Reimported r aliases [] []
  | same (n : Node) {ns ns' : List Node} (rest : Reimported r aliases ns ns') :
      Reimported r aliases (n :: ns) (n :: ns')
  | changed {d d' : Node} {ns ns' : List Node} (hd : d.role = .imports) (hd' : d'.role = .imports)
      (entries : (r.useEntries d).filter (fun e => decide (e.1 ∉ aliases)) =
        (r.useEntries d').filter (fun e => decide (e.1 ∉ aliases)))
      (rest : Reimported r aliases ns ns') : Reimported r aliases (d :: ns) (d' :: ns')
  | leftOut {d : Node} {ns ns' : List Node} (hd : d.role = .imports)
      (covered : ∀ e ∈ r.useEntries d, e.1 ∈ aliases) (rest : Reimported r aliases ns ns') :
      Reimported r aliases (d :: ns) ns'
  | added {d : Node} {ns ns' : List Node} (hd : d.role = .imports)
      (covered : ∀ e ∈ r.useEntries d, e.1 ∈ aliases) (rest : Reimported r aliases ns ns') :
      Reimported r aliases ns (d :: ns')
  | block {n n' body body' : Node} {ns ns' : List Node} (hn : n.role = .scope)
      (hn' : n'.role = .scope) (hbody : n.child? "body" = some body)
      (hbody' : n'.child? "body" = some body')
      (name : namespaceName r n.children = namespaceName r n'.children)
      (inner : Reimported r aliases body.children body'.children)
      (rest : Reimported r aliases ns ns') : Reimported r aliases (n :: ns) (n' :: ns')
  | passage {n n' : Node} {ns ns' : List Node} (hn : n.role = .passage) (hn' : n'.role = .passage)
      (inner : Reimported r aliases n.children n'.children)
      (rest : Reimported r aliases ns ns') : Reimported r aliases (n :: ns) (n' :: ns')

/-- A `use` declaration changes the scope and finds nothing. -/
theorem statement_imports {d : Node} (hd : d.role = .imports) (before : List Node) (w : Walk) :
    statement r before d w = { w with scope := w.scope.afterUse r d } := by
  rw [statement_eq, hd]
  rfl

/-- **Walks through statements with other `use` declarations** stay in step. -/
theorem inStepBut_reimported {ns ns' : List Node} (hns : Reimported r aliases ns ns')
    (before before' : List Node) (h : InStepBut aliases w w') :
    InStepBut aliases (statements r before ns w) (statements r before' ns' w') := by
  -- the earlier siblings differ once a declaration is left out; only documentation depends on them
  induction hns generalizing before before' w w' with
  | nil =>
    unfold statements
    exact h
  | same n _ ih =>
    unfold statements
    exact ih _ _ (inStepBut_statement n before before' h)
  | changed hd hd' entries _ ih =>
    unfold statements
    rw [statement_imports hd, statement_imports hd']
    exact ih _ _ ⟨Scope.sameBut_afterUse h.scope entries, h.found⟩
  | leftOut hd covered _ ih =>
    rw [statements, statement_imports hd]
    exact ih _ _ ⟨Scope.sameBut_afterUse_left h.scope covered, h.found⟩
  | added hd covered _ ih =>
    rw [statements.eq_def r before' (_ :: _)]
    dsimp only
    rw [statement_imports hd]
    exact ih _ _ ⟨(Scope.sameBut_afterUse_left h.scope.symm covered).symm, h.found⟩
  | @block n n' body body' _ _ hn hn' hbody hbody' name _ _ ihinner ih =>
    -- inside of a block both walks start without imports, and behind it the old scopes are back
    have hentered : InStepBut aliases (w.enter (namespaceName r n.children))
        (w'.enter (namespaceName r n'.children)) := by
      rw [name]
      exact ⟨.refl aliases _, h.found⟩
    have hinner := ihinner [] [] hentered
    unfold statements
    apply ih
    rw [statement_eq, statement_eq, hn, hn']
    dsimp only [statementAs]
    rw [blockOf_eq, blockOf_eq, hbody, hbody']
    exact ⟨h.scope, hinner.found⟩
  | passage hn hn' _ _ ihinner ih =>
    unfold statements
    apply ih
    rw [statement_eq, statement_eq, hn, hn']
    exact ihinner [] [] h

theorem Reimported.refl (r : Reader) (aliases : List String) (ns : List Node) :
    Reimported r aliases ns ns := by
  induction ns with
  | nil => exact .nil
  | cons n ns ih => exact .same n ih

theorem Reimported.leftOut_of_append {d : Node} (hd : d.role = .imports)
    (covered : ∀ e ∈ r.useEntries d, e.1 ∈ aliases) (front back : List Node) :
    Reimported r aliases (front ++ d :: back) (front ++ back) := by
  induction front with
  | nil => exact .leftOut hd covered (.refl r aliases back)
  | cons n front ih => exact .same n ih

end Walk

/-! ## §2. Calls -/

theorem Text.split_of_plain {name : String} (plain : '\\' ∉ name.toList) :
    Text.split '\\' name = [name] := by
  unfold Text.split
  rw [Chars.split_eq_splitOn, List.splitOn_eq_singleton plain, List.map_singleton,
    String.ofList_toList]

theorem Text.startsWith_of_plain {name : String} (plain : '\\' ∉ name.toList) (opening : String)
    (hopening : '\\' ∈ opening.toList) : Text.startsWith opening name = false := by
  apply Bool.eq_false_iff.mpr
  intro h
  obtain ⟨rest, hrest⟩ := Text.startsWith_iff.mp h
  apply plain
  rw [hrest, String.toList_append]
  exact List.mem_append_left _ hopening

theorem Name.firstPart_of_plain {name : String} (plain : '\\' ∉ name.toList) :
    Name.firstPart name = name := by
  unfold Name.firstPart
  rw [Text.split_of_plain plain]
  rfl

/-- What an unqualified name stands for. -/
theorem Scope.expand_of_plain (s : Scope) {name : String} (plain : '\\' ∉ name.toList) :
    s.expand name = (s.imports.get? (Text.lowerAscii name)).or
      (if s.current.isEmpty then none else some (s.qualify name)) := by
  rw [s.expand_of_split (Text.startsWith_of_plain plain "\\" (by decide))
    (Text.startsWith_of_plain plain "namespace\\" (by decide)) (Text.split_of_plain plain)]
  cases s.imports.get? (Text.lowerAscii name) with
  | none => rfl
  | some path => simp

namespace Mentioning

variable {m : Mentioning} {n f : Node}

/-- A call by a name mentions what the name stands for. -/
theorem ofBodyNode_call (hkind : n.kind = "function_call_expression")
    (hf : n.child? "function" = some f) (hname : f.isName = true) :
    m.ofBodyNode n =
      some (m.mention .calls (m.reader.text f) (m.scope.expand (m.reader.text f)) f) := by
  have hcall : m.ofBodyNode n = m.ofFunctionCall n := by
    unfold ofBodyNode
    simp [hkind]
  unfold ofFunctionCall at hcall
  rw [hcall, hf, Option.bind_some, if_pos hname]

/-- An unqualified name is hinted by the class that is imported under it. -/
theorem mention_of_import {name path : String} (plain : '\\' ∉ name.toList)
    (himport : m.scope.imports.get? (Text.lowerAscii name) = some path) :
    m.mention .calls name (m.scope.expand name) f =
      ⟨m.source, name, if path = name then none else some path, .calls, f.line⟩ := by
  rw [m.scope.expand_of_plain plain, himport, Option.some_or]
  unfold mention
  by_cases hpath : path = name
  · simp [hpath]
  · simp [hpath]

/-- Without such an import it is hinted by the namespace in force. -/
theorem mention_of_free {name : String} (plain : '\\' ∉ name.toList)
    (free : m.scope.imports.get? (Text.lowerAscii name) = none) :
    m.mention .calls name (m.scope.expand name) f = ⟨m.source, name,
      if m.scope.current = "" then none else some (m.scope.current ++ "\\" ++ name),
      .calls, f.line⟩ := by
  rw [m.scope.expand_of_plain plain, free, Option.none_or]
  unfold mention Scope.qualify
  by_cases hcurrent : m.scope.current = ""
  · simp [hcurrent]
  · -- the qualified name is longer than the name
    have hlonger : m.scope.current ++ "\\" ++ name ≠ name := by
      intro heq
      have hlength := congrArg String.length heq
      have hone : "\\".length = 1 := by decide
      rw [String.length_append, String.length_append] at hlength
      omega
    simp [hcurrent, hlonger]

end Mentioning

/-! ## §3. Files -/

namespace Extraction

open Walk

/-- Findings in which no alias differs mention the same, hints included. -/
theorem SameBut.references_eq {x x' : Extraction} (h : x.SameBut [] x') :
    x.references = x'.references := by
  have hequal : List.Forall₂ Eq x.references x'.references := by
    apply h.references.imp
    intro m m' hm
    have hhint : m.hint = m'.hint := hm.hint fun _ _ => List.not_mem_nil
    cases m with
    | mk source name hint kind line =>
      cases m' with
      | mk source' name' hint' kind' line' =>
        rw [Mention.mk.injEq]
        exact ⟨hm.source, hm.name, hhint, hm.kind, hm.line⟩
  exact List.forall₂_eq_eq_eq ▸ hequal

/-- How the hints of a file depend on its imports. -/
structure Hinted (r : Reader) : Prop where
  /-- A function that is called by an unqualified name lies in the namespace in force, unless a
  class is imported under that name. -/
  call : ∀ (m : Mentioning) (n f : Node), m.reader = r → n.kind = "function_call_expression" →
    n.child? "function" = some f → f.isName = true → '\\' ∉ (r.text f).toList →
      m.scope.imports.get? (Text.lowerAscii (r.text f)) = none →
        m.ofBodyNode n = some ⟨m.source, r.text f,
          if m.scope.current = "" then none else some (m.scope.current ++ "\\" ++ r.text f),
          .calls, f.line⟩
  /-- If one is, it takes the place of the function. -/
  captured : ∀ (m : Mentioning) (n f : Node) (path : String), m.reader = r →
    n.kind = "function_call_expression" → n.child? "function" = some f → f.isName = true →
      '\\' ∉ (r.text f).toList →
        m.scope.imports.get? (Text.lowerAscii (r.text f)) = some path →
          m.ofBodyNode n = some ⟨m.source, r.text f,
            if path = r.text f then none else some path, .calls, f.line⟩
  /-- Other `use` declarations change nothing but hints, and of these only where a name starts with
  an alias that they enter differently. -/
  reimported : ∀ aliases tag tag' ns ns', Reimported r aliases ns ns' →
    (ofTree r (.mk tag ns)).SameBut aliases (ofTree r (.mk tag' ns'))
  /-- So the hint of an unqualified call stays, unless it is such an alias. -/
  calls : ∀ aliases tag tag' ns ns', Reimported r aliases ns ns' →
    List.Forall₂ (fun m m' => m.name = m'.name ∧ ('\\' ∉ m.name.toList → ':' ∉ m.name.toList →
      Text.lowerAscii m.name ∉ aliases → m.hint = m'.hint))
      (ofTree r (.mk tag ns)).references (ofTree r (.mk tag' ns')).references
  /-- A declaration that is marked as a whole to import functions or constants changes no hint. -/
  marked : ∀ tag front d back, d.kind = "namespace_use_declaration" →
    (∃ k ∈ d.children, k.kind = "function" ∨ k.kind = "const") →
      (ofTree r (.mk tag (front ++ d :: back))).references =
        (ofTree r (.mk tag (front ++ back))).references

theorem sameBut_ofTree {r : Reader} {aliases : List String} {ns ns' : List Node}
    (h : Reimported r aliases ns ns') (tag tag' : Tag) :
    (ofTree r (.mk tag ns)).SameBut aliases (ofTree r (.mk tag' ns')) := by
  have hstart : InStepBut aliases {} {} := ⟨.refl aliases _, ⟨rfl, .nil, rfl⟩⟩
  exact (inStepBut_reimported h [] [] hstart).found

theorem useEntries_of_marked {r : Reader} {d : Node}
    (marked : ∃ k ∈ d.children, k.kind = "function" ∨ k.kind = "const") : r.useEntries d = [] := by
  unfold Reader.useEntries
  rw [if_pos]
  rw [List.any_eq_true]
  obtain ⟨k, hk, hkind⟩ := marked
  exact ⟨k, hk, by simpa using hkind⟩

/-- **Hints and imports.** -/
theorem hinted_ofTree (r : Reader) : Hinted r where
  call := by
    intro m n f hr hkind hf hname plain free
    rw [← hr] at plain free ⊢
    rw [Mentioning.ofBodyNode_call hkind hf hname, Mentioning.mention_of_free plain free]
  captured := by
    intro m n f path hr hkind hf hname plain himport
    rw [← hr] at plain himport ⊢
    rw [Mentioning.ofBodyNode_call hkind hf hname, Mentioning.mention_of_import plain himport]
  reimported := fun _ tag tag' _ _ h => sameBut_ofTree h tag tag'
  calls := by
    intro aliases tag tag' ns ns' h
    apply (sameBut_ofTree h tag tag').references.imp
    intro m m' hm
    refine ⟨hm.name, ?_⟩
    intro plain nocolon free
    apply hm.hint
    intro written hwrites
    rw [← (Mention.writes_iff_of_plain nocolon).mp hwrites, Name.firstPart_of_plain plain]
    exact free
  marked := by
    intro tag front d back hkind hmark
    have hd : d.role = .imports := by
      unfold Node.role
      rw [hkind]
      decide
    have hnone : ∀ e ∈ r.useEntries d, e.1 ∈ ([] : List String) := by
      rw [useEntries_of_marked hmark]
      simp
    exact (sameBut_ofTree (.leftOut_of_append hd hnone front back) tag tag).references_eq

/-- A class and a function that are imported under the names of a function and of a class. -/
def mixedReader : Reader :=
  ⟨"src/Test.php", "<?php\nuse A\\f;\nuse function B\\C;\n".toList ++
    "function g(C $c) \x7b f(); \x7d\n".toList, false⟩

/-- The tree of that file. -/
def mixedTree : Node :=
  .mk ⟨"program", true, false, "", 0, 59, 0, 4⟩ [
    .mk ⟨"php_tag", true, false, "", 0, 5, 0, 0⟩ [],
    .mk ⟨"namespace_use_declaration", true, false, "", 6, 14, 1, 1⟩ [
      .mk ⟨"use", false, false, "", 6, 9, 1, 1⟩ [],
      .mk ⟨"namespace_use_clause", true, false, "", 10, 13, 1, 1⟩ [
        .mk ⟨"qualified_name", true, false, "", 10, 13, 1, 1⟩ [
          .mk ⟨"namespace_name", true, false, "prefix", 10, 11, 1, 1⟩ [
            .mk ⟨"name", true, false, "", 10, 11, 1, 1⟩ []],
          .mk ⟨"\\", false, false, "prefix", 11, 12, 1, 1⟩ [],
          .mk ⟨"name", true, false, "", 12, 13, 1, 1⟩ []]],
      .mk ⟨";", false, false, "", 13, 14, 1, 1⟩ []],
    .mk ⟨"namespace_use_declaration", true, false, "", 15, 32, 2, 2⟩ [
      .mk ⟨"use", false, false, "", 15, 18, 2, 2⟩ [],
      .mk ⟨"namespace_use_clause", true, false, "", 19, 31, 2, 2⟩ [
        .mk ⟨"function", false, false, "type", 19, 27, 2, 2⟩ [],
        .mk ⟨"qualified_name", true, false, "", 28, 31, 2, 2⟩ [
          .mk ⟨"namespace_name", true, false, "prefix", 28, 29, 2, 2⟩ [
            .mk ⟨"name", true, false, "", 28, 29, 2, 2⟩ []],
          .mk ⟨"\\", false, false, "prefix", 29, 30, 2, 2⟩ [],
          .mk ⟨"name", true, false, "", 30, 31, 2, 2⟩ []]],
      .mk ⟨";", false, false, "", 31, 32, 2, 2⟩ []],
    .mk ⟨"function_definition", true, false, "", 33, 58, 3, 3⟩ [
      .mk ⟨"function", false, false, "", 33, 41, 3, 3⟩ [],
      .mk ⟨"name", true, false, "name", 42, 43, 3, 3⟩ [],
      .mk ⟨"formal_parameters", true, false, "parameters", 43, 49, 3, 3⟩ [
        .mk ⟨"(", false, false, "", 43, 44, 3, 3⟩ [],
        .mk ⟨"simple_parameter", true, false, "", 44, 48, 3, 3⟩ [
          .mk ⟨"named_type", true, false, "type", 44, 45, 3, 3⟩ [
            .mk ⟨"name", true, false, "", 44, 45, 3, 3⟩ []],
          .mk ⟨"variable_name", true, false, "name", 46, 48, 3, 3⟩ [
            .mk ⟨"$", false, false, "", 46, 47, 3, 3⟩ [],
            .mk ⟨"name", true, false, "", 47, 48, 3, 3⟩ []]],
        .mk ⟨")", false, false, "", 48, 49, 3, 3⟩ []],
      .mk ⟨"compound_statement", true, false, "body", 50, 58, 3, 3⟩ [
        .mk ⟨"\x7b", false, false, "", 50, 51, 3, 3⟩ [],
        .mk ⟨"expression_statement", true, false, "", 52, 56, 3, 3⟩ [
          .mk ⟨"function_call_expression", true, false, "", 52, 55, 3, 3⟩ [
            .mk ⟨"name", true, false, "function", 52, 53, 3, 3⟩ [],
            .mk ⟨"arguments", true, false, "arguments", 53, 55, 3, 3⟩ [
              .mk ⟨"(", false, false, "", 53, 54, 3, 3⟩ [],
              .mk ⟨")", false, false, "", 54, 55, 3, 3⟩ []]],
          .mk ⟨";", false, false, "", 55, 56, 3, 3⟩ []],
        .mk ⟨"\x7d", false, false, "", 57, 58, 3, 3⟩ []]]]

/-- If the class is not imported, the call has no hint, and that of the parameter stays. -/
theorem hinted_ofTree_mixed :
    Reimported mixedReader ["f"] mixedTree.children (mixedTree.children.eraseIdx 1) ∧
      (ofTree mixedReader (.mk mixedTree.tag mixedTree.children)).SameBut ["f"]
        (ofTree mixedReader (.mk mixedTree.tag (mixedTree.children.eraseIdx 1))) ∧
      (ofTree mixedReader (.mk mixedTree.tag (mixedTree.children.eraseIdx 1))).references.map
          (fun m => (m.name, m.hint)) = [("C", some "B\\C"), ("f", none)] := by
  have hleft : Reimported mixedReader ["f"] mixedTree.children (mixedTree.children.eraseIdx 1) :=
    .same _ (.leftOut (by decide +kernel) (by decide +kernel) (.refl mixedReader ["f"] _))
  exact ⟨hleft, (hinted_ofTree mixedReader).reimported ["f"] mixedTree.tag mixedTree.tag _ _ hleft,
    by decide +kernel⟩

/-- The call of `f` points at the class, the class `C` at the function; without the two declarations
neither has a hint. -/
theorem mixed_hints :
    (ofTree mixedReader mixedTree).references.map (fun m => (m.name, m.hint)) =
        [("C", some "B\\C"), ("f", some "A\\f")] ∧
      (ofTree mixedReader (.mk mixedTree.tag
          ((mixedTree.children.eraseIdx 1).eraseIdx 1))).references.map
          (fun m => (m.name, m.hint)) = [("C", none), ("f", none)] := by
  decide +kernel

end Extraction
end CodeAtlas
