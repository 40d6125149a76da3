/-
  CodeAtlas.Proofs.Extraction.Names — what the names of declarations depend on.

  The names that a walk finds depend on far less than the tree: of a callable only the tags of its
  children are looked at, of a list of properties or constants the tags one level further down, and
  of a type the items of its body in the same way.  Two statements are alike if they find the same
  names wherever they stand, whatever else was found before.

  Main results:
    * `names_callable`, `names_member`, `names_typeDeclaration` — each step of the walk finds the
      same names from resembling nodes.
    * `alike_of_parts` — statements are alike if they agree in the parts that their role looks at.
    * `alike_refl`, `alike_of_quiet` — the names found depend on the names found before and on the
      namespace only; statements that hold no declarations are all alike.
-/
import Mathlib.Data.List.Forall2
import CodeAtlas.Proofs.Extraction.Layout
import CodeAtlas.Proofs.Extraction.Readings

namespace CodeAtlas

/-! ## §1. Resemblance -/

namespace Node

/-- Two nodes have the same tag, and so have their children. -/
structure Resembles (n n' : Node) : Prop where
  tag : n.tag = n'.tag
  tags : n.children.map Node.tag = n'.children.map Node.tag

theorem Resembles.refl (n : Node) : n.Resembles n := ⟨rfl, rfl⟩

/-- Two nodes agree in all that is looked at for members: the tags of their children, and of lists
of properties and constants the tags of their elements. -/
structure ItemLike (n n' : Node) : Prop extends n.Resembles n' where
  elements : n.kind = "property_declaration" ∨ n.kind = "const_declaration" →
    List.Forall₂ Resembles n.children n'.children

theorem ItemLike.refl (n : Node) : n.ItemLike n :=
  ⟨.refl n, fun _ => List.forall₂_same.mpr fun c _ => .refl c⟩

theorem Resembles.kind {n n' : Node} (h : n.Resembles n') : n.kind = n'.kind :=
  congrArg Tag.kind h.tag

theorem role_eq_of_tag {n n' : Node} (h : n.tag = n'.tag) : n.role = n'.role :=
  congrArg (fun t : Tag => Role.ofKind t.kind) h

/-- Nodes are found by their tags. -/
theorem map_tag_find? {ns ns' : List Node} (h : ns.map Node.tag = ns'.map Node.tag)
    (p : Tag → Bool) :
    (ns.find? fun n => p n.tag).map Node.tag = (ns'.find? fun n => p n.tag).map Node.tag := by
  have hmap : ∀ ns : List Node,
      (ns.find? fun n => p n.tag).map Node.tag = (ns.map Node.tag).find? p := by
    intro ns
    rw [List.find?_map]
    rfl
  rw [hmap, hmap, h]

/-- In nodes with the same tags a field is filled in both or in none. -/
theorem child?_cases {n n' : Node} (h : n.children.map Node.tag = n'.children.map Node.tag)
    (field : String) : (n.child? field = none ∧ n'.child? field = none) ∨
      ∃ c c', n.child? field = some c ∧ n'.child? field = some c' := by
  have hfields : (n.child? field).map Node.tag = (n'.child? field).map Node.tag :=
    map_tag_find? h (·.field == field)
  cases hc : n.child? field with
  | none =>
    rw [hc, Option.map_none, eq_comm, Option.map_eq_none_iff] at hfields
    exact .inl ⟨rfl, hfields⟩
  | some c =>
    rw [hc, Option.map_some, eq_comm, Option.map_eq_some_iff] at hfields
    obtain ⟨c', hc', _⟩ := hfields
    exact .inr ⟨c, c', rfl, hc'⟩

end Node

namespace Reader

variable {r : Reader} {n n' : Node} {o o' : Option Node}

theorem text_eq_of_tag (r : Reader) (h : n.tag = n'.tag) : r.text n = r.text n' := by
  unfold text Node.startByte Node.endByte
  rw [h]

theorem identifier?_eq_of_tag (r : Reader) (h : n.tag = n'.tag) :
    r.identifier? n = r.identifier? n' := by
  unfold identifier? Node.missing
  rw [text_eq_of_tag r h, h]

/-- What is read off the tag of a node is the same for nodes with the same tag. -/
theorem bind_eq_of_tag {α : Type} {f : Node → Option α} (hf : ∀ {n n'}, n.tag = n'.tag → f n = f n')
    (h : o.map Node.tag = o'.map Node.tag) : o.bind f = o'.bind f := by
  cases o with
  | none =>
    cases o' with
    | none => rfl
    | some n' => exact nomatch h
  | some n =>
    cases o' with
    | none => exact nomatch h
    | some n' => exact hf (Option.some.inj h)

theorem name?_eq (r : Reader) (h : n.Resembles n') : r.name? n = r.name? n' :=
  bind_eq_of_tag (identifier?_eq_of_tag r) (Node.map_tag_find? h.tags (·.field == "name"))

theorem constantName?_eq (r : Reader) (h : n.Resembles n') :
    r.constantName? n = r.constantName? n' :=
  bind_eq_of_tag (identifier?_eq_of_tag r) (Node.map_tag_find? h.tags (·.kind == "name"))

theorem propertyName?_eq (r : Reader) (h : n.Resembles n') :
    r.propertyName? n = r.propertyName? n' := by
  unfold propertyName?
  apply bind_eq_of_tag
  · intro v v' htag
    unfold Node.missing
    rw [text_eq_of_tag r htag, htag]
  · rw [Option.map_or, Option.map_or]
    have hfield := Node.map_tag_find? h.tags (·.field == "name")
    have hkind := Node.map_tag_find? h.tags (·.kind == "variable_name")
    exact congr (congrArg Option.or hfield) hkind

theorem visibility_eq (r : Reader) {ns ns' : List Node} (h : ns.map Node.tag = ns'.map Node.tag) :
    r.visibility ns = r.visibility ns' := by
  have hfind : (ns.find? (·.kind == "visibility_modifier")).map Node.tag =
      (ns'.find? (·.kind == "visibility_modifier")).map Node.tag :=
    Node.map_tag_find? h (·.kind == "visibility_modifier")
  unfold visibility
  generalize ns.find? (·.kind == "visibility_modifier") = o at hfind
  generalize ns'.find? (·.kind == "visibility_modifier") = o' at hfind
  cases o with
  | none =>
    cases o' with
    | none => rfl
    | some n' => exact nomatch hfind
  | some n =>
    cases o' with
    | none => exact nomatch hfind
    | some n' =>
      dsimp only
      rw [text_eq_of_tag r (Option.some.inj hfind)]

end Reader

/-! ## §2. Single declarations -/

/-- The names that have been declared, in order. -/
def Extraction.names (x : Extraction) : List String := x.declarations.map (·.qualifiedName)

namespace Extraction

variable {x x' : Extraction}

theorem declares_eq (h : x.names = x'.names) (q : String) : x.declares q = x'.declares q := by
  have hany : ∀ x : Extraction, x.declares q = x.names.any (· == q) := by
    intro x
    unfold declares names
    rw [List.any_map]
    rfl
  rw [hany, hany, h]

theorem names_push (h : x.names = x'.names) {d d' : Declaration}
    (hd : d.qualifiedName = d'.qualifiedName) : (x.push d).names = (x'.push d').names := by
  have hpush : ∀ (x : Extraction) (d : Declaration),
      (x.push d).names = x.names ++ [d.qualifiedName] := fun _ _ => List.map_append
  rw [hpush, hpush, h, hd]

theorem names_mentionAll (x : Extraction) (ms : List Mention) :
    (x.mentionAll ms).names = x.names := by
  unfold names
  rw [declarations_mentionAll]

theorem names_declare {r r' : Reader} {place place' : Node} {d d' : Declaration}
    {next next' : Extraction → Extraction} (h : x.names = x'.names)
    (hd : d.qualifiedName = d'.qualifiedName)
    (hnext : (next (x.push d)).names = (next' (x'.push d')).names) :
    (x.declare r place d next).names = (x'.declare r' place' d' next').names := by
  unfold declare
  rw [declares_eq h, hd]
  split
  next => exact h
  next => exact hnext

/-- The same, if nothing is declared afterwards. -/
theorem names_declare_last {r r' : Reader} {place place' : Node} {d d' : Declaration}
    {next next' : Extraction → Extraction} (h : x.names = x'.names)
    (hd : d.qualifiedName = d'.qualifiedName) (hnext : ∀ x, (next x).names = x.names)
    (hnext' : ∀ x, (next' x).names = x.names) :
    (x.declare r place d next).names = (x'.declare r' place' d' next').names := by
  apply names_declare h hd
  rw [hnext, hnext']
  exact names_push h hd

/-- A loop whose rounds find the same names finds the same names. -/
theorem names_foldl {α : Type} {R : α → α → Prop} {f f' : Extraction → α → Extraction}
    (round : ∀ x x' a a', x.names = x'.names → R a a' → (f x a).names = (f' x' a').names)
    {l l' : List α} (hl : List.Forall₂ R l l') (h : x.names = x'.names) :
    (l.foldl f x).names = (l'.foldl f' x').names := by
  induction hl generalizing x x' with
  | nil => exact h
  | cons ha _ ih => exact ih (round _ _ _ _ h ha)

end Extraction

namespace Setting

open Extraction

/-- Two settings qualify names in the same way. -/
structure Agrees (s s' : Setting) : Prop where
  reader : s.reader = s'.reader
  current : s.scope.current = s'.scope.current

variable {s s' : Setting} {x x' : Extraction} {n n' : Node} {before before' : List Node}

theorem Agrees.qualify (h : s.Agrees s') (name : String) :
    s.scope.qualify name = s'.scope.qualify name := by
  unfold Scope.qualify
  rw [h.current]

theorem Agrees.qualifyIn (h : s.Agrees s') (container : Option String) (name : String) :
    s.qualify container name = s'.qualify container name := by
  cases container with
  | none => exact h.qualify name
  | some c => rfl

theorem names_callable (agrees : s.Agrees s') (h : x.names = x'.names) (hn : n.Resembles n')
    (container : Option String) (construct : Construct) :
    (s.callable container construct ⟨before, n⟩ x).names =
      (s'.callable container construct ⟨before', n'⟩ x').names := by
  unfold callable
  dsimp only
  rw [agrees.reader, Reader.name?_eq s'.reader hn, Reader.visibility_eq s'.reader hn.tags]
  cases s'.reader.name? n' with
  | none => exact h
  | some name =>
    dsimp only
    split
    next =>
      exact names_declare_last h (agrees.qualifyIn container name)
        (fun x => names_mentionAll x _) (fun x => names_mentionAll x _)
    next => exact h

theorem names_property {site site' : Site} (agrees : s.Agrees s') (h : x.names = x'.names)
    (hn : n.Resembles n') (container : String) (visibility : Visibility) :
    (s.property container site visibility x n).names =
      (s'.property container site' visibility x' n').names := by
  unfold property
  rw [agrees.reader, Reader.propertyName?_eq s'.reader hn]
  cases s'.reader.propertyName? n' with
  | none => exact h
  | some name =>
    dsimp only
    refine names_declare_last h rfl ?_ ?_
    · intro x
      split
      next => exact names_mentionAll x _
      next => rfl
    · intro x
      split
      next => exact names_mentionAll x _
      next => rfl

theorem names_constant {site site' : Site} (agrees : s.Agrees s') (h : x.names = x'.names)
    (hn : n.Resembles n') (container : Option String) (visibility : Visibility) :
    (s.constant container site visibility x n).names =
      (s'.constant container site' visibility x' n').names := by
  unfold constant
  rw [agrees.reader, Reader.constantName?_eq s'.reader hn]
  cases s'.reader.constantName? n' with
  | none => exact h
  | some name =>
    exact names_declare_last h (agrees.qualifyIn container name) (fun _ => rfl) (fun _ => rfl)

theorem names_enumCase (agrees : s.Agrees s') (h : x.names = x'.names) (hn : n.Resembles n')
    (container : String) :
    (s.enumCase container ⟨before, n⟩ x).names =
      (s'.enumCase container ⟨before', n'⟩ x').names := by
  unfold enumCase
  dsimp only
  rw [agrees.reader, Reader.name?_eq s'.reader hn]
  cases s'.reader.name? n' with
  | none => exact h
  | some name => exact names_declare_last h rfl (fun _ => rfl) (fun _ => rfl)

/-! ## §3. Items and types -/

/-- The elements of a kind correspond to each other. -/
theorem forall₂_filter {ns ns' : List Node} (h : List.Forall₂ Node.Resembles ns ns')
    (kind : String) :
    List.Forall₂ Node.Resembles (ns.filter (·.kind == kind)) (ns'.filter (·.kind == kind)) := by
  induction h with
  | nil => exact .nil
  | cons hn _ ih =>
    rw [List.filter_cons, List.filter_cons, hn.kind]
    split
    next => exact .cons hn ih
    next => exact ih

theorem names_constants (agrees : s.Agrees s') (h : x.names = x'.names)
    (hn : List.Forall₂ Node.Resembles n.children n'.children)
    (tags : n.children.map Node.tag = n'.children.map Node.tag) (container : Option String) :
    (s.constants container ⟨before, n⟩ x).names =
      (s'.constants container ⟨before', n'⟩ x').names := by
  unfold constants
  dsimp only
  rw [agrees.reader, Reader.visibility_eq s'.reader tags]
  split
  next =>
    apply names_foldl _ (forall₂_filter hn "const_element") h
    intro x x' c c' hx hc
    exact names_constant agrees hx hc container _
  next => exact h

theorem names_properties (agrees : s.Agrees s') (h : x.names = x'.names)
    (hn : List.Forall₂ Node.Resembles n.children n'.children)
    (tags : n.children.map Node.tag = n'.children.map Node.tag) (container : String) :
    (s.properties container ⟨before, n⟩ x).names =
      (s'.properties container ⟨before', n'⟩ x').names := by
  unfold properties
  dsimp only
  rw [agrees.reader, Reader.visibility_eq s'.reader tags]
  split
  next =>
    apply names_foldl _ (forall₂_filter hn "property_element") h
    intro x x' c c' hx hc
    exact names_property agrees hx hc container _
  next => exact h

theorem names_member (agrees : s.Agrees s') (h : x.names = x'.names) (hn : n.ItemLike n')
    (container : String) :
    (s.member container x ⟨before, n⟩).names = (s'.member container x' ⟨before', n'⟩).names := by
  have hkind : n'.kind = n.kind := hn.kind.symm
  unfold member
  dsimp only
  rw [hkind]
  split
  next => exact names_callable agrees h hn.toResembles (some container) .method
  next hlist => exact names_properties agrees h (hn.elements (.inl hlist)) hn.tags container
  next hlist => exact names_constants agrees h (hn.elements (.inr hlist)) hn.tags (some container)
  next => exact names_enumCase agrees h hn.toResembles container
  next =>
    rw [names_mentionAll, names_mentionAll]
    exact h
  next => exact h

/-- The items of two bodies without regions. -/
theorem names_items (agrees : s.Agrees s') {body body' : List Node}
    (readable : ∀ n ∈ body, n.kind ≠ "ERROR") (hbody : List.Forall₂ Node.ItemLike body body')
    (before before' : List Node) (container : String) (h : x.names = x'.names) :
    ((itemSites before body).foldl (s.member container) x).names =
      ((itemSites before' body').foldl (s'.member container) x').names := by
  induction hbody generalizing before before' x x' with
  | nil =>
    unfold itemSites
    exact h
  | @cons n n' rest rest' hn _ ih =>
    have hkind := readable n List.mem_cons_self
    have hkind' : n'.kind ≠ "ERROR" := hn.kind ▸ hkind
    unfold itemSites
    rw [itemSite_of_kind hkind, itemSite_of_kind hkind', List.foldl_append, List.foldl_append]
    apply ih fun c hc => readable c (List.mem_cons_of_mem n hc)
    exact names_member agrees h hn container

/-- Two types with resembling heads and bodies. -/
theorem names_typeDeclaration (agrees : s.Agrees s') (h : x.names = x'.names)
    (hn : n.Resembles n')
    (hbody : ∀ b b', n.child? "body" = some b → n'.child? "body" = some b' →
      (∀ c ∈ b.children, c.kind ≠ "ERROR") ∧ List.Forall₂ Node.ItemLike b.children b'.children)
    (construct : Construct) :
    (s.typeDeclaration construct ⟨before, n⟩ x).names =
      (s'.typeDeclaration construct ⟨before', n'⟩ x').names := by
  unfold typeDeclaration
  dsimp only
  rw [agrees.reader, Reader.name?_eq s'.reader hn]
  cases s'.reader.name? n' with
  | none => exact h
  | some name =>
    dsimp only
    have hqualified := agrees.qualify name
    rw [hqualified]
    refine names_declare h rfl ?_
    have hhead : ∀ {d d' : Declaration} (ms ms' : List Mention),
        d.qualifiedName = d'.qualifiedName →
        ((x.push d).mentionAll ms).names = ((x'.push d').mentionAll ms').names := by
      intro d d' ms ms' hd
      rw [names_mentionAll, names_mentionAll]
      exact names_push h hd
    rcases Node.child?_cases hn.tags "body" with ⟨hb, hb'⟩ | ⟨b, b', hb, hb'⟩
    · rw [hb, hb']
      exact hhead _ _ rfl
    · rw [hb, hb']
      obtain ⟨hreadable, hitems⟩ := hbody b b' hb hb'
      exact names_items agrees hreadable hitems [] [] _ (hhead _ _ rfl)

end Setting

/-! ## §4. Statements -/

namespace Scope

theorem current_importClause (group : String) (s : Scope) (c : ImportClause) :
    (s.importClause group c).current = s.current := by
  unfold importClause importAs
  dsimp only
  split <;> rfl

/-- A `use` declaration stays in its namespace. -/
theorem current_afterUse (r : Reader) (s : Scope) (n : Node) :
    (s.afterUse r n).current = s.current := by
  unfold afterUse
  split
  next => rfl
  next =>
    dsimp only
    generalize List.filterMap _ _ = clauses
    induction clauses generalizing s with
    | nil => rfl
    | cons c rest ih => rw [List.foldl_cons, ih, current_importClause]

end Scope

namespace Walk

/-- Two walks are in the same namespace and have found the same names. -/
structure SameNames (w w' : Walk) : Prop where
  current : w.scope.current = w'.scope.current
  names : w.found.names = w'.found.names

/-- Two statements find the same names, wherever they stand. -/
def Alike (r : Reader) (n n' : Node) : Prop :=
  ∀ before before' w w', SameNames w w' →
    SameNames (statement r before n w) (statement r before' n' w')

variable {r : Reader} {w w' : Walk} {n n' : Node}

theorem SameNames.agrees (h : SameNames w w') (r : Reader) : (w.setting r).Agrees (w'.setting r) :=
  ⟨rfl, h.current⟩

theorem sameNames_statements {ns ns' : List Node} (hns : List.Forall₂ (Alike r) ns ns')
    {before before' : List Node} (h : SameNames w w') :
    SameNames (statements r before ns w) (statements r before' ns' w') := by
  induction hns generalizing before before' w w' with
  | nil =>
    unfold statements
    exact h
  | cons hn _ ih =>
    unfold statements
    exact ih (hn _ _ _ _ h)

theorem namespaceName_eq (r : Reader) (tags : n.children.map Node.tag = n'.children.map Node.tag) :
    namespaceName r n.children = namespaceName r n'.children := by
  unfold namespaceName
  have hfind : (n.children.find? (·.field == "name")).bind (some ∘ r.text) =
      (n'.children.find? (·.field == "name")).bind (some ∘ r.text) :=
    Reader.bind_eq_of_tag (fun htag => congrArg some (Reader.text_eq_of_tag r htag))
      (Node.map_tag_find? tags (·.field == "name"))
  rw [Option.map_eq_bind, Option.map_eq_bind, hfind]

/-- **Statements are alike if they agree in what their role looks at.** -/
theorem alike_of_parts (readable : n.Readable) (item : n.ItemLike n')
    (type : ∀ construct, n.role = .type construct → ∀ b b', n.child? "body" = some b →
      n'.child? "body" = some b' → List.Forall₂ Node.ItemLike b.children b'.children)
    (scope : n.role = .scope → ∀ b b', n.child? "body" = some b →
      n'.child? "body" = some b' → List.Forall₂ (Alike r) b.children b'.children)
    (passage : n.role = .passage → List.Forall₂ (Alike r) n.children n'.children) :
    Alike r n n' := by
  intro before before' w w' h
  have hsame : n'.role = n.role := (Node.role_eq_of_tag item.tag).symm
  have agrees := h.agrees r
  rw [statement_eq, statement_eq, hsame]
  cases hrole : n.role with
  | type construct =>
    refine ⟨h.current, ?_⟩
    apply Setting.names_typeDeclaration agrees h.names item.toResembles
    intro b b' hb hb'
    refine ⟨?_, type construct hrole b b' hb hb'⟩
    intro c hc
    exact ((readable.child (Node.mem_of_child? hb)).child hc).kind_ne
  | scope =>
    dsimp only [statementAs]
    rw [blockOf_eq, blockOf_eq, namespaceName_eq r item.tags]
    have hentered : SameNames (w.enter (namespaceName r n'.children))
        (w'.enter (namespaceName r n'.children)) := ⟨rfl, h.names⟩
    rcases Node.child?_cases item.tags "body" with ⟨hb, hb'⟩ | ⟨b, b', hb, hb'⟩
    · rw [hb, hb']
      exact hentered
    · rw [hb, hb']
      have hinner : SameNames (statements r [] b.children _) (statements r [] b'.children _) :=
        sameNames_statements (scope hrole b b' hb hb') hentered
      exact ⟨h.current, hinner.names⟩
  | imports =>
    refine ⟨?_, h.names⟩
    show (w.scope.afterUse r n).current = (w'.scope.afterUse r n').current
    rw [Scope.current_afterUse, Scope.current_afterUse]
    exact h.current
  | function =>
    exact ⟨h.current, Setting.names_callable agrees h.names item.toResembles none .function⟩
  | constants =>
    have hkind : n.kind = "const_declaration" := Node.kind_of_role hrole rfl
    exact ⟨h.current,
      Setting.names_constants agrees h.names (item.elements (.inr hkind)) item.tags none⟩
  | region =>
    have hkind : n.kind = "ERROR" := Node.kind_of_role hrole rfl
    exact absurd hkind readable.kind_ne
  | inert => exact h
  | passage => exact sameNames_statements (passage hrole) h

/-- **A statement finds names by the names found before and the namespace alone.** -/
theorem alike_refl (r : Reader) (readable : n.Readable) : Alike r n n := by
  have hboth : Alike r n n ∧ List.Forall₂ (Alike r) n.children n.children := by
    -- the children are needed for blocks, which skip a level
    induction n using Node.induction_children with
    | node n ih =>
      have hchildren : List.Forall₂ (Alike r) n.children n.children :=
        List.forall₂_same.mpr fun c hc => (ih c hc (readable.child hc)).1
      refine ⟨?_, hchildren⟩
      apply alike_of_parts readable (.refl n)
      · intro construct _ b b' hb hb'
        rw [hb] at hb'
        rw [← Option.some.inj hb']
        exact List.forall₂_same.mpr fun c _ => .refl c
      · intro _ b b' hb hb'
        rw [hb] at hb'
        rw [← Option.some.inj hb']
        have hmem := Node.mem_of_child? hb
        exact (ih b hmem (readable.child hmem)).2
      · exact fun _ => hchildren
  exact hboth.1

end Walk

/-! ## §5. Statements without declarations -/

/-- A statement declares something or enters a namespace, or one that it passes on to does. -/
inductive Node.Holds : Node → Prop
  | type {n : Node} {construct : Construct} (role : n.role = .type construct) : Holds n
  | function {n : Node} (role : n.role = .function) : Holds n
  | constants {n : Node} (role : n.role = .constants) : Holds n
  | scope {n : Node} (role : n.role = .scope) : Holds n
  | within {n c : Node} (role : n.role = .passage) (child : c ∈ n.children) (rest : Holds c) :
      Holds n

namespace Walk

variable {r : Reader} {w w' : Walk} {n n' : Node}

theorem SameNames.trans {w'' : Walk} (h : SameNames w w') (h' : SameNames w' w'') :
    SameNames w w'' := ⟨h.current.trans h'.current, h.names.trans h'.names⟩

theorem SameNames.symm (h : SameNames w w') : SameNames w' w := ⟨h.current.symm, h.names.symm⟩

theorem sameNames_quiet_statements {ns : List Node}
    (each : ∀ n ∈ ns, ∀ before w, SameNames w (statement r before n w)) (before : List Node)
    (w : Walk) : SameNames w (statements r before ns w) := by
  induction ns generalizing before w with
  | nil =>
    unfold statements
    exact ⟨rfl, rfl⟩
  | cons n rest ih =>
    unfold statements
    exact (each n List.mem_cons_self before w).trans
      (ih (fun c hc => each c (List.mem_cons_of_mem n hc)) _ _)

/-- A statement that holds nothing changes nothing. -/
theorem sameNames_of_quiet (readable : n.Readable) (quiet : ¬n.Holds) (before : List Node)
    (w : Walk) : SameNames w (statement r before n w) := by
  induction n using Node.induction_children generalizing before w with
  | node n ih =>
    rw [statement_eq]
    cases hrole : n.role with
    | type construct => exact absurd (.type hrole) quiet
    | scope => exact absurd (.scope hrole) quiet
    | imports => exact ⟨(Scope.current_afterUse r w.scope n).symm, rfl⟩
    | function => exact absurd (.function hrole) quiet
    | constants => exact absurd (.constants hrole) quiet
    | region =>
      have hkind : n.kind = "ERROR" := Node.kind_of_role hrole rfl
      exact absurd hkind readable.kind_ne
    | inert => exact ⟨rfl, rfl⟩
    | passage =>
      apply sameNames_quiet_statements
      intro c hc before w
      exact ih c hc (readable.child hc) (fun hholds => quiet (.within hrole hc hholds)) before w

/-- Statements that hold nothing are alike. -/
theorem alike_of_quiet (readable : n.Readable) (readable' : n'.Readable) (quiet : ¬n.Holds)
    (quiet' : ¬n'.Holds) : Alike r n n' := by
  intro before before' w w' h
  exact (sameNames_of_quiet readable quiet before w).symm.trans
    (h.trans (sameNames_of_quiet readable' quiet' before' w'))

end Walk

end CodeAtlas
