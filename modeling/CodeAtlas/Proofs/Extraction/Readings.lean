/-
  CodeAtlas.Proofs.Extraction.Readings — declarations with the nodes that they are read from.

  A declaration does not say which node it was read from, and two declarations may be read from one
  node.  A reading is a declaration together with the address of its node.  The readings of a tree
  follow the walk through the tree, function by function.

  Main results:
    * `statement_eq`, `statementReadings_eq` — what happens at a statement goes by its role alone.
    * `blockReadings_of_some`, `map_placedSites` — blocks and items in closed form, with addresses.
-/
import Mathlib.Tactic.SplitIfs
import CodeAtlas.Extraction.Statements

namespace CodeAtlas

/-! ## §1. Addresses -/

/-- The way from a node down to another: the positions of the children to go through. -/
abbrev Address := List Nat

namespace Node

/-- The node at an address. -/
def at? : Node → Address → Option Node
  | n, [] => some n
  | n, i :: a => n.children[i]?.bind fun c => at? c a

/-- The node at an address that starts with a position among some nodes. -/
def amid? (ns : List Node) : Address → Option Node
  | [] => none
  | i :: a => ns[i]?.bind fun c => c.at? a

/-- The position of the first child that stands in the field `body`. -/
def bodyIndex? (n : Node) : Option Nat := n.children.findIdx? (·.field == "body")

theorem at?_cons {n c : Node} {i : Nat} (h : n.children[i]? = some c) (a : Address) :
    n.at? (i :: a) = c.at? a := by
  rw [at?, h]
  rfl

theorem amid?_cons {ns : List Node} {c : Node} {i : Nat} (h : ns[i]? = some c) (a : Address) :
    amid? ns (i :: a) = c.at? a := by
  rw [amid?, h]
  rfl

/-- Addresses are followed one after the other. -/
theorem at?_append {n k : Node} {a : Address} (h : n.at? a = some k) (b : Address) :
    n.at? (a ++ b) = k.at? b := by
  induction a generalizing n with
  | nil =>
    rw [List.nil_append, Option.some.inj h]
  | cons i a ih =>
    obtain ⟨c, hc, hrest⟩ := Option.bind_eq_some_iff.mp h
    rw [List.cons_append, at?_cons hc]
    exact ih hrest

theorem amid?_append {ns : List Node} {k : Node} {a : Address} (h : amid? ns a = some k)
    (b : Address) : amid? ns (a ++ b) = k.at? b := by
  cases a with
  | nil => exact nomatch h
  | cons i a =>
    obtain ⟨c, hc, hrest⟩ := Option.bind_eq_some_iff.mp h
    rw [List.cons_append, amid?_cons hc]
    exact at?_append hrest b

theorem at?_of_amid? {n k : Node} {a : Address} (h : amid? n.children a = some k) :
    n.at? a = some k := by
  cases a with
  | nil => exact nomatch h
  | cons i a => exact h

/-- Behind its predecessors a node stands at their number. -/
theorem getElem?_reverse_append (before rest : List Node) (n : Node) :
    (before.reverse ++ n :: rest)[before.length]? = some n := by
  have hlen : before.reverse.length = before.length := List.length_reverse
  rw [← hlen, List.getElem?_append_right (Nat.le_refl _), Nat.sub_self]
  rfl

theorem bodyIndex?_of_none {n : Node} (h : n.child? "body" = none) : n.bodyIndex? = none := by
  rw [bodyIndex?, List.findIdx?_eq_none_iff]
  intro c hc
  exact Bool.eq_false_iff.mpr (List.find?_eq_none.mp h c hc)

theorem exists_bodyIndex? {n b : Node} (h : n.child? "body" = some b) :
    ∃ j, n.bodyIndex? = some j ∧ n.children[j]? = some b := by
  unfold child? at h
  unfold bodyIndex?
  generalize n.children = cs at h
  induction cs with
  | nil => exact nomatch h
  | cons c cs ih =>
    rw [List.find?_cons] at h
    rw [List.findIdx?_cons]
    split at h
    next hc =>
      rw [if_pos hc]
      exact ⟨0, rfl, h⟩
    next hc =>
      obtain ⟨j, hj, hget⟩ := ih h
      rw [if_neg (by simp [hc]), hj]
      exact ⟨j + 1, rfl, hget⟩

end Node

/-! ## §2. Roles -/

/-- What the walk takes a statement for. -/
inductive Role where
  | type (construct : Construct)
  | scope
  | imports
  | function
  | constants
  | region
  | inert
  /-- A statement that is only searched. -/
  | passage
  deriving DecidableEq

/-- The role that a kind of nodes has as a statement. -/
def Role.ofKind (kind : String) : Role :=
  match Walk.typeConstruct? kind with
  | some construct => .type construct
  | none =>
    if kind = "namespace_definition" then .scope
    else if kind = "namespace_use_declaration" then .imports
    else if kind = "function_definition" then .function
    else if kind = "const_declaration" then .constants
    else if kind = "ERROR" then .region
    else if Walk.isInert kind then .inert
    else .passage

/-- The role of a node as a statement. -/
def Node.role (n : Node) : Role := Role.ofKind n.kind

/-- Whether the children of a statement are gone through as statements. -/
def Node.Passes (n : Node) : Prop := n.role = .passage ∨ n.role = .region

namespace Role

/-- The only kind of nodes with a role, if there is only one. -/
def word? : Role → Option String
  | scope => some "namespace_definition"
  | imports => some "namespace_use_declaration"
  | function => some "function_definition"
  | constants => some "const_declaration"
  | region => some "ERROR"
  | type _ | inert | passage => none

theorem kind_of_word? {kind word : String} (h : (ofKind kind).word? = some word) : kind = word := by
  unfold ofKind at h
  split at h
  · exact nomatch h
  · split_ifs at h with hkind hkind hkind hkind hkind
    all_goals first | exact hkind.trans (Option.some.inj h) | exact nomatch h

theorem construct_of_type {kind : String} {construct : Construct}
    (h : ofKind kind = .type construct) : Walk.typeConstruct? kind = some construct := by
  unfold ofKind at h
  split at h
  next found hfound =>
    rw [hfound, Role.type.inj h]
  next =>
    split_ifs at h

end Role

theorem Node.kind_of_role {n : Node} {role : Role} {word : String} (h : n.role = role)
    (hword : role.word? = some word) : n.kind = word :=
  Role.kind_of_word? (by rw [← hword, ← h]; rfl)

namespace Walk

/-- One statement, by its role. -/
def statementAs (r : Reader) (before : List Node) (n : Node) (w : Walk) : Role → Walk
  | .type construct =>
    w.withFound ((w.setting r).typeDeclaration construct ⟨before, n⟩ w.found)
  | .scope =>
    let entered := w.enter (namespaceName r n.children)
    ((blockOf r n.children entered).map fun inner => { inner with scope := w.scope }).getD entered
  | .imports => { w with scope := w.scope.afterUse r n }
  | .function => w.withFound ((w.setting r).callable none .function ⟨before, n⟩ w.found)
  | .constants => w.withFound ((w.setting r).constants none ⟨before, n⟩ w.found)
  | .region =>
    let inner := statements r [] n.children w
    inner.withFound ((inner.setting r).recover n.endRow n.children inner.found)
  | .inert => w
  | .passage => statements r [] n.children w

theorem statement_eq (r : Reader) (before : List Node) (n : Node) (w : Walk) :
    statement r before n w = statementAs r before n w n.role := by
  obtain ⟨⟨kind, named, missing, field, startByte, endByte, startRow, endRow⟩, children⟩ := n
  unfold statement
  dsimp only [Node.role, Node.kind, Node.tag]
  unfold Role.ofKind
  cases typeConstruct? kind with
  | some construct => rfl
  | none =>
    dsimp only
    split
    · dsimp only [statementAs, Node.children, if_true]
      cases blockOf r children (w.enter (namespaceName r children)) <;> rfl
    · rfl
    · rfl
    · rfl
    · rfl
    · next hscope himports hfunction hconstants hregion =>
      rw [if_neg hscope, if_neg himports, if_neg hfunction, if_neg hconstants, if_neg hregion]
      split <;> rfl

/-- A block is the first child in the field `body`. -/
theorem blockOf_eq (r : Reader) (n : Node) (w : Walk) :
    blockOf r n.children w = (n.child? "body").map fun b => statements r [] b.children w := by
  unfold Node.child?
  induction n.children with
  | nil =>
    unfold blockOf
    rfl
  | cons c rest ih =>
    obtain ⟨tag, children⟩ := c
    unfold blockOf
    rw [List.find?_cons]
    by_cases hbody : (tag.field == "body") = true
    · rw [if_pos hbody]
      have hfield : ((Node.mk tag children).field == "body") = true := hbody
      rw [hfield]
      rfl
    · rw [if_neg hbody, ih]
      have hfield : ((Node.mk tag children).field == "body") = false :=
        Bool.eq_false_iff.mpr hbody
      rw [hfield]

end Walk

/-! ## §3. Readings -/

/-- A declaration with the address of the node that it was read from. -/
structure Reading where
  place : Address
  declaration : Declaration

/-- A reading, seen from further up. -/
def Reading.below (a : Address) (e : Reading) : Reading := { e with place := a ++ e.place }

/-- What is declared after a step and was not before, read from the node at hand. -/
def Extraction.readHere (x y : Extraction) : List Reading :=
  (y.declarations.drop x.declarations.length).map fun d => ⟨[], d⟩

/-- The readings of a loop whose rounds `step` through placed items and `read` each of them. -/
def loopReadings {α : Type} (step : Extraction → α → Extraction)
    (read : Extraction → α → List Reading) : List (Address × α) → Extraction → List Reading
  | [], _ => []
  | p :: rest, x => (read x p.2).map (·.below p.1) ++ loopReadings step read rest (step x p.2)

/-- The children of a kind, in their places. -/
def Node.placedChildren (kind : String) (n : Node) : List (Address × Node) :=
  (n.children.zipIdx.filter (·.1.kind == kind)).map fun c => ([c.2], c.1)

namespace Setting

/-- The readings of the elements of a declaration, unless its visibility is unwanted. -/
def elementReadings (s : Setting) (kind : String) (n : Node)
    (step : Visibility → Extraction → Node → Extraction) (x : Extraction) : List Reading :=
  let visibility := s.reader.visibility n.children
  if s.reader.shows visibility then
    loopReadings (step visibility) (fun x c => x.readHere (step visibility x c))
      (n.placedChildren kind) x
  else []

/-- The readings of constants. -/
def constantReadings (s : Setting) (container : Option String) (site : Site) :
    Extraction → List Reading :=
  s.elementReadings "const_element" site.node (s.constant container site)

/-- The readings of one item in the body of a type. -/
def memberReadings (s : Setting) (container : String) (x : Extraction) (site : Site) :
    List Reading :=
  match site.node.kind with
  | "method_declaration" => x.readHere (s.callable (some container) .method site x)
  | "property_declaration" =>
    s.elementReadings "property_element" site.node (s.property container site) x
  | "const_declaration" => s.constantReadings (some container) site x
  | "enum_case" => x.readHere (s.enumCase container site x)
  | _ => []

mutual

/-- The items of a body, in their places. -/
def placedSites (before : List Node) : List Node → List (Address × Site)
  | [] => []
  | n :: rest =>
    (placedSite before n).map (fun p => (before.length :: p.1, p.2)) ++
      placedSites (n :: before) rest

/-- The items that one node stands for, in their places. -/
def placedSite (before : List Node) : Node → List (Address × Site)
  | .mk tag children =>
    if tag.kind == "ERROR" then placedSites [] children else [([], ⟨before, .mk tag children⟩)]

end

/-- The readings of members. -/
def membersReadings (s : Setting) (container : String) (body : List Node) :
    Extraction → List Reading :=
  loopReadings (s.member container) (s.memberReadings container) (placedSites [] body)

/-- The readings of the body of a type. -/
def bodyReadings (s : Setting) (container : String) (n : Node) (x : Extraction) : List Reading :=
  match n.bodyIndex?, n.child? "body" with
  | some j, some body => (s.membersReadings container body.children x).map (·.below [j])
  | _, _ => []

/-- The readings of a type: itself and its members. -/
def typeReadings (s : Setting) (construct : Construct) (site : Site) (x : Extraction) :
    List Reading :=
  match s.reader.name? site.node with
  | none => []
  | some name =>
    let qualified := s.scope.qualify name
    let d := s.reader.declaration site construct name qualified none .publicAccess
    if x.declares qualified then []
    else
      let x := (x.push d).mentionAll ((s.mentioning qualified none).inTypeHead site.node)
      ⟨[], d⟩ :: s.bodyReadings qualified site.node x

/-- The readings of a region, from the nodes that are left of it. -/
def recoverReadings (s : Setting) (endRow : Nat) (region : List Node) :
    List Node → List Node → Option String → Extraction → List Reading
  | _, [], _, _ => []
  | before, token :: after, container, x =>
    match s.loose? endRow container ⟨before, token, after⟩ with
    | none => s.recoverReadings endRow region (token :: before) after container x
    | some d =>
      if x.declares d.qualifiedName then
        let x := x.warn s.reader token.line (Extraction.duplicateText d.qualifiedName)
        s.recoverReadings endRow region (token :: before) after container x
      else
        let x := (x.push d).warn s.reader d.lineStart (recoveryText d)
        ⟨[before.length], d⟩ ::
          if d.kind = .type && container.isNone then
            s.membersReadings d.qualifiedName region x ++
              s.recoverReadings endRow region (token :: before) after (some d.qualifiedName)
                (s.members d.qualifiedName region x)
          else s.recoverReadings endRow region (token :: before) after container x

end Setting

namespace Walk

mutual

/-- The readings of statements. -/
def statementsReadings (r : Reader) (before : List Node) : List Node → Walk → List Reading
  | [], _ => []
  | n :: rest, w =>
    (statementReadings r before n w).map (·.below [before.length]) ++
      statementsReadings r (n :: before) rest (statement r before n w)

/-- The readings of one statement. -/
def statementReadings (r : Reader) (before : List Node) : Node → Walk → List Reading
  | .mk tag children, w =>
    let site : Site := ⟨before, .mk tag children⟩
    match Role.ofKind tag.kind with
    | .type construct => (w.setting r).typeReadings construct site w.found
    | .scope => blockReadings r 0 children (w.enter (namespaceName r children))
    | .imports => []
    | .function => w.found.readHere ((w.setting r).callable none .function site w.found)
    | .constants => (w.setting r).constantReadings none site w.found
    | .region =>
      let inner := statements r [] children w
      statementsReadings r [] children w ++
        (inner.setting r).recoverReadings tag.endRow children [] children none inner.found
    | .inert => []
    | .passage => statementsReadings r [] children w

/-- The readings of a block; `j` is the position of the first node. -/
def blockReadings (r : Reader) (j : Nat) : List Node → Walk → List Reading
  | [], _ => []
  | .mk tag children :: rest, w =>
    if tag.field == "body" then (statementsReadings r [] children w).map (·.below [j])
    else blockReadings r (j + 1) rest w

end

end Walk

/-- The readings of a syntax tree. -/
def Extraction.readings (r : Reader) (tree : Node) : List Reading :=
  Walk.statementsReadings r [] tree.children {}

/-! ## §4. Closed forms -/

namespace Setting

theorem map_placedChildren (kind : String) (n : Node) :
    (n.placedChildren kind).map (·.2) = n.children.filter (·.kind == kind) := by
  unfold Node.placedChildren
  rw [List.map_map]
  show (n.children.zipIdx.filter ((·.kind == kind) ∘ Prod.fst)).map Prod.fst = _
  rw [← List.filter_map, List.zipIdx_map_fst]

theorem of_mem_placedChildren {kind : String} {n : Node} {p : Address × Node}
    (h : p ∈ n.placedChildren kind) :
    ∃ i, p.1 = [i] ∧ n.children[i]? = some p.2 ∧ p.2.kind = kind := by
  obtain ⟨⟨c, i⟩, hc, rfl⟩ := List.mem_map.mp h
  obtain ⟨hmem, hkind⟩ := List.mem_filter.mp hc
  exact ⟨i, rfl, List.mem_zipIdx_iff_getElem?.mp hmem, by simpa using hkind⟩

theorem bodyReadings_of_none {n : Node} (h : n.child? "body" = none) (s : Setting)
    (container : String) (x : Extraction) : s.bodyReadings container n x = [] := by
  unfold bodyReadings
  rw [Node.bodyIndex?_of_none h, h]

theorem bodyReadings_of_some {n b : Node} {j : Nat} (hj : n.bodyIndex? = some j)
    (hb : n.child? "body" = some b) (s : Setting) (container : String) (x : Extraction) :
    s.bodyReadings container n x =
      (s.membersReadings container b.children x).map (·.below [j]) := by
  unfold bodyReadings
  rw [hj, hb]

mutual

theorem map_placedSites (before ns : List Node) :
    (placedSites before ns).map (·.2) = itemSites before ns := by
  match ns with
  | [] =>
    unfold placedSites itemSites
    rfl
  | n :: rest =>
    unfold placedSites itemSites
    rw [List.map_append, List.map_map, map_placedSites (n :: before) rest]
    show (placedSite before n).map (·.2) ++ _ = _
    rw [map_placedSite before n]

theorem map_placedSite (before : List Node) (n : Node) :
    (placedSite before n).map (·.2) = itemSite before n := by
  match n with
  | .mk tag children =>
    unfold placedSite itemSite
    split
    · exact map_placedSites [] children
    · rfl

end

mutual

theorem amid?_of_mem_placedSites (before ns : List Node) :
    ∀ p ∈ placedSites before ns, Node.amid? (before.reverse ++ ns) p.1 = some p.2.node := by
  match ns with
  | [] =>
    intro p hp
    unfold placedSites at hp
    exact absurd hp List.not_mem_nil
  | n :: rest =>
    intro p hp
    unfold placedSites at hp
    rcases List.mem_append.mp hp with hfirst | hrest
    · obtain ⟨q, hq, rfl⟩ := List.mem_map.mp hfirst
      rw [Node.amid?_cons (Node.getElem?_reverse_append before rest n)]
      exact at?_of_mem_placedSite before n q hq
    · have hmem := amid?_of_mem_placedSites (n :: before) rest p hrest
      rw [List.reverse_cons, List.append_assoc] at hmem
      exact hmem

theorem at?_of_mem_placedSite (before : List Node) (n : Node) :
    ∀ p ∈ placedSite before n, n.at? p.1 = some p.2.node := by
  match n with
  | .mk tag children =>
    intro p hp
    unfold placedSite at hp
    split at hp
    · exact Node.at?_of_amid? (amid?_of_mem_placedSites [] children p hp)
    · rw [List.mem_singleton.mp hp]
      rfl

end

end Setting

namespace Walk

/-- The readings of one statement, by its role. -/
def readingsAs (r : Reader) (before : List Node) (n : Node) (w : Walk) : Role → List Reading
  | .type construct => (w.setting r).typeReadings construct ⟨before, n⟩ w.found
  | .scope => blockReadings r 0 n.children (w.enter (namespaceName r n.children))
  | .function => w.found.readHere ((w.setting r).callable none .function ⟨before, n⟩ w.found)
  | .constants => (w.setting r).constantReadings none ⟨before, n⟩ w.found
  | .region =>
    let inner := statements r [] n.children w
    statementsReadings r [] n.children w ++
      (inner.setting r).recoverReadings n.endRow n.children [] n.children none inner.found
  | .passage => statementsReadings r [] n.children w
  | .imports | .inert => []

theorem statementReadings_eq (r : Reader) (before : List Node) (n : Node) (w : Walk) :
    statementReadings r before n w = readingsAs r before n w n.role := by
  obtain ⟨tag, children⟩ := n
  unfold statementReadings Node.role
  show _ = readingsAs r before _ w (Role.ofKind tag.kind)
  cases Role.ofKind tag.kind <;> rfl

theorem blockReadings_of_some {cs : List Node} {b : Node} {j : Nat}
    (hj : cs.findIdx? (·.field == "body") = some j) (hb : cs[j]? = some b) (r : Reader) (k : Nat)
    (w : Walk) :
    blockReadings r k cs w = (statementsReadings r [] b.children w).map (·.below [k + j]) := by
  induction cs generalizing j k with
  | nil => exact nomatch hb
  | cons c rest ih =>
    obtain ⟨tag, children⟩ := c
    unfold blockReadings
    rw [List.findIdx?_cons] at hj
    by_cases hbody : (tag.field == "body") = true
    · rw [if_pos hbody]
      rw [if_pos (show ((Node.mk tag children).field == "body") = true from hbody)] at hj
      obtain rfl : 0 = j := Option.some.inj hj
      rw [← Option.some.inj hb]
      rfl
    · rw [if_neg hbody]
      rw [if_neg (show ¬((Node.mk tag children).field == "body") = true from hbody)] at hj
      obtain ⟨i, hi, rfl⟩ := Option.map_eq_some_iff.mp hj
      rw [ih hi hb, Nat.add_right_comm, Nat.add_assoc]

theorem blockReadings_of_none {cs : List Node} (h : cs.find? (·.field == "body") = none)
    (r : Reader) (k : Nat) (w : Walk) : blockReadings r k cs w = [] := by
  induction cs generalizing k with
  | nil => unfold blockReadings; rfl
  | cons c rest ih =>
    obtain ⟨tag, children⟩ := c
    rw [List.find?_cons] at h
    unfold blockReadings
    split at h
    next => exact nomatch h
    next hbody =>
      rw [if_neg (show ¬(tag.field == "body") = true from Bool.eq_false_iff.mp hbody)]
      exact ih h (k + 1)

end Walk
end CodeAtlas
