/-
  CodeAtlas.Proofs.Extraction.Scopes — the same statements, read in two scopes.

  Two scopes may have different imports under some aliases.  What is read in them differs very
  little: the same names are declared and the same names are mentioned, and a hint differs only if a
  mentioned name starts with one of the aliases.  Whether a mention is new does not depend on its
  hint, so no difference grows on the way.

  Main results:
    * `SameBut.expand` — names that start with none of the aliases are expanded alike.
    * `sameBut_afterUse` — a `use` declaration touches the aliases that it enters only.
    * `sameBut_callable`, `sameBut_typeDeclaration`, `sameBut_recoverFrom` — declarations and
      regions find the same in both scopes, some hints apart.
    * `inStepBut_statement` — so does every statement.
-/
import Mathlib.Data.List.Forall2
import CodeAtlas.Proofs.Extraction.Imports
import CodeAtlas.Proofs.Extraction.Names

namespace CodeAtlas

/-! ## §1. Scopes -/

/-- The first segment of a written name. -/
def Name.firstPart (written : String) : String := (Text.split '\\' written).headD ""

namespace Scope

/-- Two scopes are the same, some aliases apart. -/
structure SameBut (aliases : List String) (s s' : Scope) : Prop where
  current : s.current = s'.current
  imports : ∀ k, k ∉ aliases → s.imports.get? k = s'.imports.get? k

variable {aliases : List String} {s s' : Scope}

theorem SameBut.refl (aliases : List String) (s : Scope) : s.SameBut aliases s :=
  ⟨rfl, fun _ _ => rfl⟩

theorem SameBut.qualify (h : s.SameBut aliases s') (name : String) :
    s.qualify name = s'.qualify name := by
  unfold Scope.qualify
  rw [h.current]

/-- **A name that starts with none of the aliases stands for the same in both scopes.** -/
theorem SameBut.expand (h : s.SameBut aliases s') {written : String}
    (free : Text.lowerAscii (Name.firstPart written) ∉ aliases) :
    s.expand written = s'.expand written := by
  by_cases hroot : Text.startsWith "\\" written = true
  · obtain ⟨rest, rfl⟩ := Text.startsWith_iff.mp hroot
    rw [expand_rooted, expand_rooted]
  by_cases hrelative : Text.startsWith "namespace\\" written = true
  · obtain ⟨rest, rfl⟩ := Text.startsWith_iff.mp hrelative
    rw [expand_relative, expand_relative, h.qualify]
  -- what is left is looked up under its first segment
  rw [Bool.not_eq_true] at hroot hrelative
  cases hsplit : Text.split '\\' written with
  | nil =>
    unfold Text.split at hsplit
    exact absurd (List.map_eq_nil_iff.mp hsplit) (Chars.split_ne_nil '\\' written.toList)
  | cons first rest =>
    unfold Name.firstPart at free
    rw [hsplit, List.headD_cons] at free
    rw [expand_of_split s hroot hrelative hsplit, expand_of_split s' hroot hrelative hsplit,
      h.imports _ free, h.current, h.qualify]

end Scope

/-! ## §2. Entries of `use` declarations -/

/-- The lower-cased alias and the path that a clause of a group enters in the table of imports. -/
def ImportClause.entry? (group : String) (c : ImportClause) : Option (String × String) :=
  let path := c.fullPath group
  let short := c.shortName.getD (Name.lastPart path)
  if path.isEmpty || short.isEmpty then none else some (Text.lowerAscii short, path)

/-- All that a `use` declaration enters in the table, in order. -/
def Reader.useEntries (r : Reader) (decl : Node) : List (String × String) :=
  if decl.children.any fun n => n.kind == "function" || n.kind == "const" then []
  else
    let group := ((decl.children.filter (·.kind == "namespace_name")).getLast?.map r.text).getD ""
    ((Node.outermostAll ImportClause.isClause decl.children).filterMap
      (ImportClause.read? r)).filterMap (ImportClause.entry? group)

/-- The last entry under a key counts. -/
theorem Table.get?_foldl_insert (t : Table String String) (entries : List (String × String))
    (k : String) : (entries.foldl (fun t e => t.insert e.1 e.2) t).get? k =
      ((entries.filter (·.1 == k)).getLast?.map (·.2)).or (t.get? k) := by
  induction entries generalizing t with
  | nil => rfl
  | cons e entries ih =>
    rw [List.foldl_cons, ih, Table.get?_insert]
    by_cases he : e.1 = k
    · rw [if_pos he.symm, List.filter_cons_of_pos (by simp [he]), List.getLast?_cons]
      cases (entries.filter (·.1 == k)).getLast? <;> rfl
    · rw [if_neg (Ne.symm he), List.filter_cons_of_neg (by simp [he])]

namespace Scope

variable {aliases : List String} {s s' : Scope} {r : Reader}

theorem imports_importClause (group : String) (s : Scope) (c : ImportClause) :
    (s.importClause group c).imports =
      (c.entry? group).toList.foldl (fun t e => t.insert e.1 e.2) s.imports := by
  unfold importClause importAs ImportClause.entry?
  dsimp only
  split
  next => rfl
  next => rfl

/-- The table after a `use` declaration. -/
theorem imports_afterUse (r : Reader) (s : Scope) (decl : Node) : (s.afterUse r decl).imports =
    (r.useEntries decl).foldl (fun t e => t.insert e.1 e.2) s.imports := by
  unfold afterUse Reader.useEntries
  split
  next => rfl
  next =>
    dsimp only
    generalize List.filterMap (ImportClause.read? r) _ = clauses
    induction clauses generalizing s with
    | nil => rfl
    | cons c rest ih =>
      rw [List.foldl_cons, ih, imports_importClause, List.filterMap_cons]
      cases ImportClause.entry? _ c <;> rfl

/-- The entries under a key that is none of the aliases. -/
theorem filter_key_of_free {k : String} (free : k ∉ aliases) (entries : List (String × String)) :
    entries.filter (·.1 == k) =
      (entries.filter fun e => decide (e.1 ∉ aliases)).filter (·.1 == k) := by
  rw [List.filter_filter]
  apply List.filter_congr
  intro e _
  by_cases he : e.1 = k
  · simp [he, free]
  · simp [he]

/-- **Declarations that enter the same, some aliases apart**, keep scopes the same that far. -/
theorem sameBut_afterUse (h : s.SameBut aliases s') {d d' : Node}
    (hentries : (r.useEntries d).filter (fun e => decide (e.1 ∉ aliases)) =
      (r.useEntries d').filter (fun e => decide (e.1 ∉ aliases))) :
    (s.afterUse r d).SameBut aliases (s'.afterUse r d') where
  current := by rw [current_afterUse, current_afterUse, h.current]
  imports := by
    intro k hk
    rw [imports_afterUse, imports_afterUse, Table.get?_foldl_insert, Table.get?_foldl_insert,
      filter_key_of_free hk, hentries, ← filter_key_of_free hk, h.imports k hk]

/-- A declaration all of whose aliases are among those can be left out. -/
theorem sameBut_afterUse_left (h : s.SameBut aliases s') {d : Node}
    (covered : ∀ e ∈ r.useEntries d, e.1 ∈ aliases) :
    (s.afterUse r d).SameBut aliases s' where
  current := by rw [current_afterUse, h.current]
  imports := by
    intro k hk
    have hnone : (r.useEntries d).filter (·.1 == k) = [] := by
      rw [List.filter_eq_nil_iff]
      intro e he hkey
      exact hk (beq_iff_eq.mp hkey ▸ covered e he)
    rw [imports_afterUse, Table.get?_foldl_insert, hnone, h.imports k hk]
    rfl

theorem SameBut.symm (h : s.SameBut aliases s') : s'.SameBut aliases s :=
  ⟨h.current.symm, fun k hk => (h.imports k hk).symm⟩

end Scope

/-! ## §3. Mentions -/

namespace Mention

/-- A mention writes the name of a class or a function: as it stands, or in front of a member. -/
def Writes (m : Mention) (written : String) : Prop :=
  m.name = written ∨ ∃ member, m.name = written ++ "::" ++ member

/-- Two mentions are the same; so are their hints, if no name in them starts with an alias. -/
structure SameBut (aliases : List String) (m m' : Mention) : Prop where
  source : m.source = m'.source
  name : m.name = m'.name
  kind : m.kind = m'.kind
  line : m.line = m'.line
  hint : (∀ written, m.Writes written → Text.lowerAscii (Name.firstPart written) ∉ aliases) →
    m.hint = m'.hint

theorem SameBut.refl (aliases : List String) (m : Mention) : m.SameBut aliases m :=
  ⟨rfl, rfl, rfl, rfl, fun _ => rfl⟩

/-- A name without colons is written as it stands. -/
theorem writes_iff_of_plain {m : Mention} (plain : ':' ∉ m.name.toList) {written : String} :
    m.Writes written ↔ m.name = written := by
  constructor
  · intro h
    rcases h with h | ⟨member, h⟩
    · exact h
    · rw [h] at plain
      simp at plain
  · exact .inl

end Mention

namespace Mentioning

/-- The same declaration, seen in another scope. -/
def within (m : Mentioning) (scope : Scope) : Mentioning := { m with scope := scope }

variable {aliases : List String} {m : Mentioning} {scope : Scope} {kind : ReferenceKind} {n : Node}

theorem sameBut_mention {name : String} {hint hint' : Option String}
    (h : (∀ written, (name = written ∨ ∃ member, name = written ++ "::" ++ member) →
      Text.lowerAscii (Name.firstPart written) ∉ aliases) → hint = hint') :
    (m.mention kind name hint n).SameBut aliases ((m.within scope).mention kind name hint' n) where
  source := rfl
  name := rfl
  kind := rfl
  line := rfl
  hint := by
    intro free
    show hint.filter _ = hint'.filter _
    rw [h free]

section

variable (h : m.scope.SameBut aliases scope)
include h

theorem sameBut_ofClass (kind : ReferenceKind) (n : Node) :
    Option.Rel (Mention.SameBut aliases) (m.ofClass kind n) ((m.within scope).ofClass kind n) := by
  unfold ofClass
  dsimp only [within]
  split
  next => exact .none
  next => exact .some (sameBut_mention fun free => h.expand (free _ (.inl rfl)))

theorem sameBut_ofFunctionCall (n : Node) :
    Option.Rel (Mention.SameBut aliases) (m.ofFunctionCall n)
      ((m.within scope).ofFunctionCall n) := by
  unfold ofFunctionCall
  cases n.child? "function" with
  | none => exact .none
  | some f =>
    rw [Option.bind_some, Option.bind_some]
    dsimp only [within]
    split
    next => exact .some (sameBut_mention fun free => h.expand (free _ (.inl rfl)))
    next => exact .none

/-- Of a static call the class is expanded. -/
theorem scopedHint_eq (place : Node) {className : String} (member : String)
    (free : Text.lowerAscii (Name.firstPart className) ∉ aliases) :
    m.scopedHint place className member = (m.within scope).scopedHint place className member := by
  unfold scopedHint
  dsimp only [within]
  rw [h.expand free]

theorem sameBut_ofScopedCall (n : Node) :
    Option.Rel (Mention.SameBut aliases) (m.ofScopedCall n) ((m.within scope).ofScopedCall n) := by
  unfold ofScopedCall
  cases n.child? "scope" with
  | none => exact .none
  | some place =>
    cases n.child? "name" with
    | none => exact .none
    | some member =>
      dsimp only [within]
      split
      next =>
        exact .some (sameBut_mention fun free =>
          scopedHint_eq h place _ (free _ (.inr ⟨_, rfl⟩)))
      next => exact .none

omit h in
/-- A call on `$this` is hinted by the type around it. -/
theorem sameBut_ofMemberCall (n : Node) :
    Option.Rel (Mention.SameBut aliases) (m.ofMemberCall n) ((m.within scope).ofMemberCall n) := by
  have hsame : (m.within scope).ofMemberCall n = m.ofMemberCall n := rfl
  rw [hsame]
  cases m.ofMemberCall n with
  | none => exact .none
  | some mention => exact .some (.refl aliases mention)

theorem sameBut_ofBodyNode (n : Node) :
    Option.Rel (Mention.SameBut aliases) (m.ofBodyNode n) ((m.within scope).ofBodyNode n) := by
  unfold ofBodyNode
  split
  · exact sameBut_ofFunctionCall h n
  · exact sameBut_ofScopedCall h n
  · exact sameBut_ofMemberCall n
  · cases n.children.find? Node.isName with
    | none => exact .none
    | some name => exact sameBut_ofClass h .instantiates name
  · exact .none

theorem sameBut_inBody (body : Node) :
    List.Forall₂ (Mention.SameBut aliases) (m.inBody body) ((m.within scope).inBody body) := by
  unfold inBody
  apply List.rel_filterMap (R := Eq) _ (List.forall₂_refl _)
  intro n n' hn
  exact hn ▸ sameBut_ofBodyNode h n

theorem sameBut_ofNames (kind : ReferenceKind) (nodes : List Node) :
    List.Forall₂ (Mention.SameBut aliases) (m.ofNames kind nodes)
      ((m.within scope).ofNames kind nodes) := by
  unfold ofNames
  apply List.rel_filterMap (R := Eq) _ (List.forall₂_refl _)
  intro n n' hn
  exact hn ▸ sameBut_ofClass h kind n

theorem sameBut_inTypeHead (n : Node) :
    List.Forall₂ (Mention.SameBut aliases) (m.inTypeHead n) ((m.within scope).inTypeHead n) := by
  unfold inTypeHead
  apply List.rel_flatMap (R := Eq) (List.forall₂_refl _)
  intro c c' hc
  rw [← hc]
  dsimp only
  split
  · exact sameBut_ofNames h .inherits c.children
  · exact sameBut_ofNames h .implements c.children
  · exact .nil

theorem sameBut_inCallable (n : Node) :
    List.Forall₂ (Mention.SameBut aliases) (m.inCallable n) ((m.within scope).inCallable n) := by
  unfold inCallable
  dsimp only
  refine List.rel_append (List.rel_append ?_ ?_) ?_
  · apply List.rel_flatMap (R := Eq) (List.forall₂_refl _)
    intro type type' htype
    exact htype ▸ sameBut_ofNames h .parameterType _
  · cases n.child? "return_type" with
    | none => exact .nil
    | some type => exact sameBut_ofNames h .returnType _
  · cases n.child? "body" with
    | none => exact .nil
    | some body => exact sameBut_inBody h body

end

end Mentioning

/-! ## §4. Findings -/

namespace Extraction

/-- Two findings have the same names and problems and the same mentions, some hints apart. -/
structure SameBut (aliases : List String) (x x' : Extraction) : Prop where
  names : x.names = x'.names
  references : List.Forall₂ (Mention.SameBut aliases) x.references x'.references
  warnings : x.warnings = x'.warnings

variable {aliases : List String} {x x' : Extraction}

theorem SameBut.warn (h : x.SameBut aliases x') (r : Reader) (line : Nat) (message : String) :
    (x.warn r line message).SameBut aliases (x'.warn r line message) where
  names := h.names
  references := h.references
  warnings := by
    unfold Extraction.warn
    rw [h.warnings]

theorem SameBut.push (h : x.SameBut aliases x') {d d' : Declaration}
    (hd : d.qualifiedName = d'.qualifiedName) : (x.push d).SameBut aliases (x'.push d') where
  names := names_push h.names hd
  references := h.references
  warnings := h.warnings

/-- Whether a mention was made before does not depend on hints. -/
theorem SameBut.mentions (h : x.SameBut aliases x') {m m' : Mention} (hm : m.SameBut aliases m') :
    x.mentions m = x'.mentions m' := by
  unfold Extraction.mentions
  have hreferences := h.references
  generalize x.references = ps at hreferences
  generalize x'.references = ps' at hreferences
  induction hreferences with
  | nil => rfl
  | cons hp _ ih =>
    rw [List.any_cons, List.any_cons, ih, hp.source, hp.kind, hp.name, hm.source, hm.kind, hm.name]

theorem SameBut.mention (h : x.SameBut aliases x') {m m' : Mention} (hm : m.SameBut aliases m') :
    (x.mention m).SameBut aliases (x'.mention m') := by
  unfold Extraction.mention
  rw [h.mentions hm]
  split
  next => exact h
  next => exact ⟨h.names, List.rel_append h.references (.cons hm .nil), h.warnings⟩

theorem SameBut.mentionAll {ms ms' : List Mention}
    (hms : List.Forall₂ (Mention.SameBut aliases) ms ms') (h : x.SameBut aliases x') :
    (x.mentionAll ms).SameBut aliases (x'.mentionAll ms') := by
  unfold Extraction.mentionAll
  induction hms generalizing x x' with
  | nil => exact h
  | cons hm _ ih => exact ih (h.mention hm)

/-- Both walks declare, and go on if the name is free. -/
theorem SameBut.declare (h : x.SameBut aliases x') (r : Reader) (place : Node)
    {d d' : Declaration} {next next' : Extraction → Extraction}
    (hd : d.qualifiedName = d'.qualifiedName)
    (hnext : (x.push d).SameBut aliases (x'.push d') →
      (next (x.push d)).SameBut aliases (next' (x'.push d'))) :
    (x.declare r place d next).SameBut aliases (x'.declare r place d' next') := by
  unfold Extraction.declare
  rw [declares_eq h.names, hd]
  split
  next => exact h.warn r _ _
  next => exact hnext (h.push hd)

theorem sameBut_foldl {α : Type} {f f' : Extraction → α → Extraction}
    (round : ∀ x x' a, x.SameBut aliases x' → (f x a).SameBut aliases (f' x' a)) (l : List α)
    (h : x.SameBut aliases x') : (l.foldl f x).SameBut aliases (l.foldl f' x') := by
  induction l generalizing x x' with
  | nil => exact h
  | cons a l ih => exact ih (round x x' a h)

end Extraction

/-! ## §5. Declarations -/

namespace Setting

open Extraction

/-- The same file, read in another scope. -/
def within (s : Setting) (scope : Scope) : Setting := { s with scope := scope }

@[simp] theorem reader_within (s : Setting) (scope : Scope) :
    (s.within scope).reader = s.reader := rfl

@[simp] theorem scope_within (s : Setting) (scope : Scope) :
    (s.within scope).scope = scope := rfl

variable {aliases : List String} {s : Setting} {scope : Scope} {x x' : Extraction}
  (hscope : s.scope.SameBut aliases scope)
include hscope

theorem qualify_within (container : Option String) (name : String) :
    s.qualify container name = (s.within scope).qualify container name := by
  cases container with
  | none => exact hscope.qualify name
  | some c => rfl

/-- A declaration mentions the same names in both scopes. -/
theorem sameBut_inCallable (source : String) (container : Option String) (n : Node) :
    List.Forall₂ (Mention.SameBut aliases) ((s.mentioning source container).inCallable n)
      (((s.within scope).mentioning source container).inCallable n) :=
  Mentioning.sameBut_inCallable (m := s.mentioning source container) hscope n

theorem sameBut_ofNames (source : String) (container : Option String) (kind : ReferenceKind)
    (nodes : List Node) :
    List.Forall₂ (Mention.SameBut aliases) ((s.mentioning source container).ofNames kind nodes)
      (((s.within scope).mentioning source container).ofNames kind nodes) :=
  Mentioning.sameBut_ofNames (m := s.mentioning source container) hscope kind nodes

theorem sameBut_callable (h : x.SameBut aliases x') (container : Option String)
    (construct : Construct) (before before' : List Node) (n : Node) :
    (s.callable container construct ⟨before, n⟩ x).SameBut aliases
      ((s.within scope).callable container construct ⟨before', n⟩ x') := by
  unfold callable
  rw [reader_within]
  dsimp only
  cases s.reader.name? n with
  | none => exact h.warn s.reader _ _
  | some name =>
    dsimp only
    have hqualified := qualify_within hscope container name
    split
    next =>
      apply h.declare s.reader n hqualified
      intro hpushed
      apply hpushed.mentionAll
      rw [hqualified]
      exact sameBut_inCallable hscope _ container n
    next => exact h

theorem sameBut_property (h : x.SameBut aliases x') (container : String) (site : Site)
    (visibility : Visibility) (element : Node) :
    (s.property container site visibility x element).SameBut aliases
      ((s.within scope).property container site visibility x' element) := by
  unfold property
  rw [reader_within]
  cases s.reader.propertyName? element with
  | none => exact h.warn s.reader _ _
  | some name =>
    apply h.declare s.reader element rfl
    intro hpushed
    cases site.node.child? "type" with
    | none => exact hpushed
    | some type => exact hpushed.mentionAll (sameBut_ofNames hscope _ _ .propertyType _)

theorem sameBut_constant (h : x.SameBut aliases x') (container : Option String)
    (before before' : List Node) (n : Node) (visibility : Visibility) (element : Node) :
    (s.constant container ⟨before, n⟩ visibility x element).SameBut aliases
      ((s.within scope).constant container ⟨before', n⟩ visibility x' element) := by
  unfold constant
  rw [reader_within]
  cases s.reader.constantName? element with
  | none => exact h.warn s.reader _ _
  | some name => exact h.declare s.reader element (qualify_within hscope container name) id

theorem sameBut_constants (h : x.SameBut aliases x') (container : Option String)
    (before before' : List Node) (n : Node) :
    (s.constants container ⟨before, n⟩ x).SameBut aliases
      ((s.within scope).constants container ⟨before', n⟩ x') := by
  unfold constants
  rw [reader_within]
  dsimp only
  split
  next =>
    apply sameBut_foldl _ _ h
    intro x x' element hx
    exact sameBut_constant hscope hx container before before' n _ element
  next => exact h

theorem sameBut_member (h : x.SameBut aliases x') (container : String) (site : Site) :
    (s.member container x site).SameBut aliases
      ((s.within scope).member container x' site) := by
  unfold member
  split
  · exact sameBut_callable hscope h (some container) .method site.before site.before site.node
  · unfold properties
    rw [reader_within]
    dsimp only
    split
    next =>
      apply sameBut_foldl _ _ h
      intro x x' element hx
      exact sameBut_property hscope hx container site _ element
    next => exact h
  · exact sameBut_constants hscope h (some container) site.before site.before site.node
  · unfold enumCase
    rw [reader_within]
    cases s.reader.name? site.node with
    | none => exact h.warn s.reader _ _
    | some name => exact h.declare s.reader site.node rfl id
  · exact h.mentionAll (sameBut_ofNames hscope container (some container) .usesTrait _)
  · exact h

theorem sameBut_members (h : x.SameBut aliases x') (container : String) (body : List Node) :
    (s.members container body x).SameBut aliases
      ((s.within scope).members container body x') := by
  unfold members
  apply sameBut_foldl _ _ h
  intro x x' site hx
  exact sameBut_member hscope hx container site

theorem sameBut_typeDeclaration (h : x.SameBut aliases x') (construct : Construct)
    (before before' : List Node) (n : Node) :
    (s.typeDeclaration construct ⟨before, n⟩ x).SameBut aliases
      ((s.within scope).typeDeclaration construct ⟨before', n⟩ x') := by
  unfold typeDeclaration
  rw [reader_within]
  dsimp only
  cases s.reader.name? n with
  | none => exact h.warn s.reader _ _
  | some name =>
    dsimp only
    rw [scope_within, ← hscope.qualify name]
    -- the documentation may differ, the qualified name does not
    refine h.declare s.reader n ?_ ?_
    · rfl
    intro hpushed
    have hhead := hpushed.mentionAll (Mentioning.sameBut_inTypeHead
      (m := s.mentioning (s.scope.qualify name) none) hscope n)
    cases n.child? "body" with
    | none => exact hhead
    | some body => exact sameBut_members hscope hhead _ body.children

/-- A loose keyword declares the same in both scopes: only the namespace counts. -/
theorem loose?_within (endRow : Nat) (container : Option String) (l : Loose) :
    s.loose? endRow container l = (s.within scope).loose? endRow container l := by
  have hrecovered : ∀ construct nameNode name,
      s.recovered endRow l construct container nameNode name =
        (s.within scope).recovered endRow l construct container nameNode name := by
    intro construct nameNode name
    unfold recovered
    dsimp only
    rw [qualify_within hscope]
    rfl
  unfold loose?
  simp only [hrecovered]
  rfl

/-- **A region** declares and mentions the same in both scopes. -/
theorem sameBut_recoverFrom (endRow : Nat) (region before after : List Node)
    (container : Option String) (h : x.SameBut aliases x') :
    (s.recoverFrom endRow region before after container x).SameBut aliases
      ((s.within scope).recoverFrom endRow region before after container x') := by
  induction after generalizing before container x x' with
  | nil =>
    unfold recoverFrom
    exact h
  | cons token after ih =>
    unfold recoverFrom
    rw [← loose?_within hscope]
    cases s.loose? endRow container ⟨before, token, after⟩ with
    | none => exact ih _ _ h
    | some d =>
      dsimp only
      rw [declares_eq h.names]
      split
      next => exact ih _ _ (h.warn s.reader _ _)
      next =>
        have hpushed := (h.push (rfl : d.qualifiedName = d.qualifiedName)).warn s.reader d.lineStart
          (recoveryText d)
        split
        next => exact ih _ _ (sameBut_members hscope hpushed _ region)
        next => exact ih _ _ hpushed

end Setting

/-! ## §6. Walks -/

namespace Walk

/-- Two walks are in the same scope and have found the same, some aliases apart. -/
structure InStepBut (aliases : List String) (w w' : Walk) : Prop where
  scope : w.scope.SameBut aliases w'.scope
  found : w.found.SameBut aliases w'.found

variable {r : Reader} {aliases : List String} {w w' : Walk}

theorem inStepBut_statements {ns : List Node}
    (each : ∀ n ∈ ns, ∀ before before' w w', InStepBut aliases w w' →
      InStepBut aliases (statement r before n w) (statement r before' n w'))
    (before before' : List Node) (h : InStepBut aliases w w') :
    InStepBut aliases (statements r before ns w) (statements r before' ns w') := by
  induction ns generalizing before before' w w' with
  | nil =>
    unfold statements
    exact h
  | cons n rest ih =>
    unfold statements
    apply ih fun c hc => each c (List.mem_cons_of_mem n hc)
    exact each n List.mem_cons_self before before' w w' h

/-- **One statement** keeps two walks in step. -/
theorem inStepBut_statement (n : Node) (before before' : List Node)
    (h : InStepBut aliases w w') :
    InStepBut aliases (statement r before n w) (statement r before' n w') := by
  have hboth : (∀ before before' w w', InStepBut aliases w w' →
      InStepBut aliases (statement r before n w) (statement r before' n w')) ∧
      ∀ before before' w w', InStepBut aliases w w' → InStepBut aliases
        (statements r before n.children w) (statements r before' n.children w') := by
    -- the children are needed for blocks, which skip a level
    induction n using Node.induction_children with
    | node n ih =>
      have hchildren : ∀ before before' w w', InStepBut aliases w w' → InStepBut aliases
          (statements r before n.children w) (statements r before' n.children w') :=
        fun before before' w w' h => inStepBut_statements (fun c hc => (ih c hc).1) before before' h
      refine ⟨?_, hchildren⟩
      intro before before' w w' h
      rw [statement_eq, statement_eq]
      cases n.role with
      | type construct =>
        exact ⟨h.scope, Setting.sameBut_typeDeclaration (s := w.setting r) h.scope h.found
          construct before before' n⟩
      | scope =>
        dsimp only [statementAs]
        rw [blockOf_eq, blockOf_eq]
        have hentered : InStepBut aliases (w.enter (namespaceName r n.children))
            (w'.enter (namespaceName r n.children)) := ⟨.refl aliases _, h.found⟩
        cases hbody : n.child? "body" with
        | none => exact hentered
        | some body =>
          have hinner := (ih body (Node.mem_of_child? hbody)).2 [] [] _ _ hentered
          exact ⟨h.scope, hinner.found⟩
      | imports => exact ⟨Scope.sameBut_afterUse h.scope rfl, h.found⟩
      | function =>
        exact ⟨h.scope, Setting.sameBut_callable (s := w.setting r) h.scope h.found none .function
          before before' n⟩
      | constants =>
        exact ⟨h.scope, Setting.sameBut_constants (s := w.setting r) h.scope h.found none
          before before' n⟩
      | region =>
        -- a region is recovered in the scope that its statements leave behind
        have hinner := hchildren [] [] w w' h
        refine ⟨hinner.scope, ?_⟩
        exact Setting.sameBut_recoverFrom (s := (statements r [] n.children w).setting r)
          hinner.scope n.endRow n.children [] n.children none hinner.found
      | inert => exact h
      | passage => exact hchildren [] [] w w' h
  exact hboth.1 before before' w w' h

end Walk
end CodeAtlas
