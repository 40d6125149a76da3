/-
  CodeAtlas.Proofs.Extraction.Origin — where in a tree declarations come from.

  The walk and its readings are compared function by function.  What a step adds to an extraction
  are the declarations of its readings, no more and no less, and a reading gives the address of a
  node that spells what is declared.  A declaration without a parent comes from a node to which the
  walk has found its way, and `Opens` says which ways there are.

  Main results:
    * `Accounts` — what was added between two extractions, with the loops that keep it.
    * `accounts_statement` — ONE induction over the walk: every declaration is accounted for by a
      reading, and every reading by the node at its address.
    * `sourced_ofTree` — the readings of a whole tree.
-/
import CodeAtlas.Proofs.Extraction.Readings
import CodeAtlas.Proofs.Extraction.Steps
import CodeAtlas.Proofs.Tree

namespace CodeAtlas

/-! ## §1. What a node declares -/

/-- The construct that a kind of nodes declares. -/
def Construct.ofKind? : String → Option Construct
  | "function_definition" => some .function
  | "method_declaration" => some .method
  | "property_element" => some .property
  | "const_element" => some .constant
  | "enum_case" => some .enumCase
  | kind => Walk.typeConstruct? kind

/-- The name that a node of a kind spells for what it declares. -/
def Reader.spelling? (r : Reader) (kind : String) (n : Node) : Option String :=
  match kind with
  | "property_element" => r.propertyName? n
  | "const_element" => r.constantName? n
  | _ => r.name? n

/-- How a node comes to be read as a declaration: it spells the declaration, or it is a keyword that
stands loose in a region. -/
inductive ReadFrom (r : Reader) (n : Node) (d : Declaration) : Prop
  | spelled (construct : Construct.ofKind? n.kind = some d.construct)
      (name : r.spelling? n.kind n = some d.name)
  | loose {container : Option String}
      (construct : Setting.looseConstruct? n.kind container = some d.construct)

theorem ReadFrom.of_kind {r : Reader} {n : Node} {d : Declaration} {kind : String}
    (hkind : n.kind = kind) (hconstruct : Construct.ofKind? kind = some d.construct)
    (hname : r.spelling? kind n = some d.name) : ReadFrom r n d := by
  subst hkind
  exact .spelled hconstruct hname

/-! ## §2. Ways -/

/-- `n` is a statement, and the children of the node at an address below it are gone through as
statements. -/
inductive Node.Opens : Node → Address → Prop
  | here {n : Node} (passes : n.Passes) : Opens n []
  | within {n c : Node} {i : Nat} {a : Address} (passes : n.Passes)
      (child : n.children[i]? = some c) (rest : Opens c a) : Opens n (i :: a)
  | block {n b : Node} {j : Nat} (scope : n.role = .scope) (body : n.bodyIndex? = some j)
      (child : n.children[j]? = some b) : Opens n [j]
  | inBlock {n b c : Node} {i j : Nat} {a : Address} (scope : n.role = .scope)
      (body : n.bodyIndex? = some j) (child : n.children[j]? = some b)
      (item : b.children[i]? = some c) (rest : Opens c a) : Opens n (j :: i :: a)

/-- A reading that a statement accounts for: its node is there, and a declaration without a parent
is reached through opened nodes only, but for namespaces and lists of constants. -/
structure Traced (r : Reader) (n : Node) (e : Reading) : Prop where
  source : ∃ k, n.at? e.place = some k ∧ ReadFrom r k e.declaration
  ways : e.declaration.parent = none → ∀ p, p <+: e.place → p ≠ e.place →
    n.Opens p ∨ ∃ k, n.at? p = some k ∧ (k.role = .scope ∨ k.role = .constants)

/-- A reading that one of several statements accounts for. -/
def TracedAmong (r : Reader) (ns : List Node) (e : Reading) : Prop :=
  ∃ i c e', ns[i]? = some c ∧ Traced r c e' ∧ e = e'.below [i]

/-- A reading below a node whose declaration has a parent. -/
def ReadInside (r : Reader) (container : String) (n : Node) (e : Reading) : Prop :=
  e.declaration.parent = some container ∧ ∃ k, n.at? e.place = some k ∧ ReadFrom r k e.declaration

section Traced

variable {r : Reader} {n : Node} {e : Reading}

theorem ReadInside.traced {container : String} (h : ReadInside r container n e) : Traced r n e := by
  refine ⟨h.2, ?_⟩
  intro hnone
  rw [h.1] at hnone
  exact nomatch hnone

/-- A proper beginning of an address is empty, or starts with the same step. -/
theorem eq_nil_or_cons_of_prefix {p a : Address} {i : Nat} (h : p <+: i :: a) (hne : p ≠ i :: a) :
    p = [] ∨ ∃ q, p = i :: q ∧ q <+: a ∧ q ≠ a := by
  rcases List.prefix_cons_iff.mp h with hnil | ⟨q, rfl, hq⟩
  · exact .inl hnil
  · exact .inr ⟨q, rfl, hq, fun heq => hne (by rw [heq])⟩

theorem traced_of_among (passes : n.Passes) (h : TracedAmong r n.children e) : Traced r n e := by
  obtain ⟨i, c, e', hc, htraced, rfl⟩ := h
  constructor
  · obtain ⟨k, hk, hread⟩ := htraced.source
    exact ⟨k, (Node.at?_cons hc _).trans hk, hread⟩
  · intro hnone p hp hne
    rcases eq_nil_or_cons_of_prefix hp hne with rfl | ⟨q, rfl, hq, hqne⟩
    · exact .inl (.here passes)
    · rcases htraced.ways hnone q hq hqne with hopens | ⟨k, hk, hkind⟩
      · exact .inl (.within passes hc hopens)
      · exact .inr ⟨k, (Node.at?_cons hc _).trans hk, hkind⟩

theorem traced_of_block {b : Node} {j : Nat} (scope : n.role = .scope)
    (body : n.bodyIndex? = some j) (child : n.children[j]? = some b)
    (h : TracedAmong r b.children e) : Traced r n (e.below [j]) := by
  obtain ⟨i, c, e', hc, htraced, rfl⟩ := h
  have hat : ∀ a, n.at? (j :: i :: a) = c.at? a := by
    intro a
    rw [Node.at?_cons child, Node.at?_cons hc]
  constructor
  · obtain ⟨k, hk, hread⟩ := htraced.source
    exact ⟨k, (hat _).trans hk, hread⟩
  · -- two steps lead to a statement of the block: to the block, and into it
    intro hnone p hp hne
    rcases eq_nil_or_cons_of_prefix hp hne with rfl | ⟨p', rfl, hp', hne'⟩
    · exact .inr ⟨n, rfl, .inl scope⟩
    · rcases eq_nil_or_cons_of_prefix hp' hne' with rfl | ⟨q, rfl, hq, hqne⟩
      · exact .inl (.block scope body child)
      · rcases htraced.ways hnone q hq hqne with hopens | ⟨k, hk, hkind⟩
        · exact .inl (.inBlock scope body child hc hopens)
        · exact .inr ⟨k, (hat _).trans hk, hkind⟩

/-- What a statement declares itself has no way to go. -/
theorem traced_here {d : Declaration} (h : ReadFrom r n d) : Traced r n ⟨[], d⟩ := by
  refine ⟨⟨n, rfl, h⟩, ?_⟩
  intro _ p hp hne
  exact absurd (List.prefix_nil.mp hp) hne

/-- What one of its children declares is one step away. -/
theorem traced_child {d : Declaration} {c : Node} {i : Nat} (child : n.children[i]? = some c)
    (h : ReadFrom r c d) (open? : n.Opens [] ∨ n.role = .constants) : Traced r n ⟨[i], d⟩ := by
  refine ⟨⟨c, Node.at?_cons child [], h⟩, ?_⟩
  intro _ p hp hne
  rcases eq_nil_or_cons_of_prefix hp hne with rfl | ⟨q, rfl, hq, hqne⟩
  · rcases open? with hopens | hconstants
    · exact .inl hopens
    · exact .inr ⟨n, rfl, .inr hconstants⟩
  · exact absurd (List.prefix_nil.mp hq) hqne

end Traced

/-! ## §3. Accounts -/

/-- From `x` to `y` exactly the declarations of some readings are added, all of which satisfy
`P`. -/
structure Accounts (P : Reading → Prop) (x : Extraction) (l : List Reading) (y : Extraction) :
    Prop where
  declared : y.declarations = x.declarations ++ l.map (·.declaration)
  sound : ∀ e ∈ l, P e

/-- From `x` to `y` at most one declaration is added, which satisfies `p`. -/
def Extraction.Takes (p : Declaration → Prop) (x y : Extraction) : Prop :=
  y.declarations = x.declarations ∨ ∃ d, y.declarations = x.declarations ++ [d] ∧ p d

namespace Accounts

variable {P Q : Reading → Prop} {x y z : Extraction} {l l' : List Reading}

theorem nil (h : y.declarations = x.declarations) : Accounts P x [] y :=
  ⟨by rw [h, List.map_nil, List.append_nil], fun e he => absurd he List.not_mem_nil⟩

theorem append (h : Accounts P x l y) (h' : Accounts P y l' z) : Accounts P x (l ++ l') z where
  declared := by rw [h'.declared, h.declared, List.map_append, List.append_assoc]
  sound e he := by
    rcases List.mem_append.mp he with hleft | hright
    · exact h.sound e hleft
    · exact h'.sound e hright

theorem map_below (h : Accounts P x l y) (a : Address) (lift : ∀ e, P e → Q (e.below a)) :
    Accounts Q x (l.map (·.below a)) y where
  declared := by
    rw [h.declared, List.map_map]
    rfl
  sound e he := by
    obtain ⟨e', he', rfl⟩ := List.mem_map.mp he
    exact lift e' (h.sound e' he')

theorem mono (h : Accounts P x l y) (lift : ∀ e, P e → Q e) : Accounts Q x l y :=
  ⟨h.declared, fun e he => lift e (h.sound e he)⟩

/-- Warnings and mentions do not matter. -/
theorem congr {x' y' : Extraction} (h : Accounts P x l y) (hx : x'.declarations = x.declarations)
    (hy : y'.declarations = y.declarations) : Accounts P x' l y' :=
  ⟨by rw [hx, hy, h.declared], h.sound⟩

theorem cons {d : Declaration} {a : Address} (first : P ⟨a, d⟩) (h : Accounts P (x.push d) l y) :
    Accounts P x (⟨a, d⟩ :: l) y where
  declared := by
    rw [h.declared, List.map_cons]
    show (x.declarations ++ [d]) ++ _ = _
    rw [List.append_assoc, List.singleton_append]
  sound e he := by
    rcases List.mem_cons.mp he with rfl | hrest
    · exact first
    · exact h.sound e hrest

/-- What a step takes is read here. -/
theorem of_takes {p : Declaration → Prop} (h : x.Takes p y) (lift : ∀ d, p d → P ⟨[], d⟩) :
    Accounts P x (x.readHere y) y := by
  unfold Extraction.readHere
  rcases h with hsame | ⟨d, hone, hd⟩
  · rw [hsame, List.drop_length]
    exact nil hsame
  · rw [hone, List.drop_left]
    constructor
    · rw [hone]
      rfl
    · intro e he
      rw [List.mem_singleton.mp he]
      exact lift d hd

/-- **A loop accounts for what its rounds account for.** -/
theorem loop {α : Type} {step : Extraction → α → Extraction}
    {read : Extraction → α → List Reading} {Q : α → Reading → Prop} (l : List (Address × α))
    (x : Extraction) (round : ∀ p ∈ l, ∀ x, Accounts (Q p.2) x (read x p.2) (step x p.2))
    (lift : ∀ p ∈ l, ∀ e, Q p.2 e → P (e.below p.1)) :
    Accounts P x (loopReadings step read l x) ((l.map (·.2)).foldl step x) := by
  induction l generalizing x with
  | nil => exact nil rfl
  | cons p rest ih =>
    have hfirst := (round p List.mem_cons_self x).map_below p.1 (lift p List.mem_cons_self)
    apply hfirst.append
    apply ih
    · intro q hq
      exact round q (List.mem_cons_of_mem p hq)
    · intro q hq
      exact lift q (List.mem_cons_of_mem p hq)

end Accounts

/-! ## §4. Single declarations -/

/-- A declaration has the rows of the node at a site and the comment in front of it. -/
structure Site.Shows (r : Reader) (site : Site) (d : Declaration) : Prop where
  first : d.lineStart = site.node.line
  last : d.lineEnd = site.node.endRow + 1
  documentation : d.documentation = PhpDoc.attached r.text site.node.startRow site.before

theorem Site.shows_declaration (r : Reader) (site : Site) (construct : Construct)
    (name qualified : String) (parent : Option String) (visibility : Visibility) :
    site.Shows r (r.declaration site construct name qualified parent visibility) :=
  ⟨rfl, rfl, rfl⟩

namespace Setting

open Extraction

variable {s : Setting} {x : Extraction}

theorem takes_declare {p : Declaration → Prop} {r : Reader} {place : Node} {d : Declaration}
    {next : Extraction → Extraction}
    (rest : (next (x.push d)).declarations = (x.push d).declarations) (hd : p d) :
    x.Takes p (x.declare r place d next) := by
  unfold declare
  split
  next => exact .inl rfl
  next => exact .inr ⟨d, rest, hd⟩

theorem takes_callable (container : Option String) (construct : Construct) (site : Site) :
    x.Takes (fun d => d.parent = container ∧ d.construct = construct ∧
      s.reader.name? site.node = some d.name ∧ site.Shows s.reader d)
        (s.callable container construct site x) := by
  unfold callable
  split
  next => exact .inl rfl
  next name hname =>
    by_cases hshow : s.reader.shows (s.reader.visibility site.node.children) = true
    · simp only [hshow, if_true]
      exact takes_declare (declarations_mentionAll _ _)
        ⟨rfl, rfl, hname, Site.shows_declaration ..⟩
    · simp only [hshow]
      exact .inl rfl

theorem takes_property (container : String) (site : Site) (visibility : Visibility)
    (element : Node) : x.Takes (fun d => d.parent = some container ∧ d.construct = .property ∧
      s.reader.propertyName? element = some d.name ∧ site.Shows s.reader d)
        (s.property container site visibility x element) := by
  unfold property
  split
  next => exact .inl rfl
  next name hname =>
    apply takes_declare _ ⟨rfl, rfl, hname, Site.shows_declaration ..⟩
    split
    next => exact declarations_mentionAll _ _
    next => rfl

theorem takes_constant (container : Option String) (site : Site) (visibility : Visibility)
    (element : Node) : x.Takes (fun d => d.parent = container ∧ d.construct = .constant ∧
      s.reader.constantName? element = some d.name ∧ site.Shows s.reader d)
        (s.constant container site visibility x element) := by
  unfold constant
  split
  next => exact .inl rfl
  next name hname => exact takes_declare rfl ⟨rfl, rfl, hname, Site.shows_declaration ..⟩

theorem takes_enumCase (container : String) (site : Site) :
    x.Takes (fun d => d.parent = some container ∧ d.construct = .enumCase ∧
      s.reader.name? site.node = some d.name ∧ site.Shows s.reader d)
        (s.enumCase container site x) := by
  unfold enumCase
  split
  next => exact .inl rfl
  next name hname => exact takes_declare rfl ⟨rfl, rfl, hname, Site.shows_declaration ..⟩

/-! ## §5. Elements and members -/

/-- A declaration with elements: each of them is read at its position. -/
theorem accounts_elements {P : Reading → Prop} {p : Node → Declaration → Prop} {kind : String}
    {n : Node} {step : Visibility → Extraction → Node → Extraction}
    (takes : ∀ v x c, Extraction.Takes (p c) x (step v x c))
    (lift : ∀ i c d, n.children[i]? = some c → c.kind = kind → p c d → P ⟨[i], d⟩) :
    Accounts P x (s.elementReadings kind n step x)
      (if s.reader.shows (s.reader.visibility n.children) then
        (n.children.filter (·.kind == kind)).foldl (step (s.reader.visibility n.children)) x
      else x) := by
  unfold elementReadings
  dsimp only
  split
  next =>
    rw [← map_placedChildren]
    apply Accounts.loop (Q := fun c e => e.place = [] ∧ p c e.declaration)
    · intro q _ x
      exact .of_takes (takes _ x q.2) fun d hd => ⟨rfl, hd⟩
    · rintro q hq ⟨place, d⟩ ⟨rfl, hd⟩
      obtain ⟨i, hi, hget, hkind⟩ := of_mem_placedChildren hq
      have hlifted := lift i q.2 d hget hkind hd
      show P ⟨q.1 ++ [], d⟩
      rw [hi, List.append_nil]
      exact hlifted
  next => exact .nil rfl

theorem readFrom_constant {c : Node} {d : Declaration} (hkind : c.kind = "const_element")
    (hconstruct : d.construct = .constant) (hname : s.reader.constantName? c = some d.name) :
    ReadFrom s.reader c d :=
  .of_kind hkind (by rw [hconstruct]; rfl) hname

theorem accounts_constants {P : Reading → Prop} (container : Option String) (site : Site)
    (lift : ∀ i c d, site.node.children[i]? = some c → ReadFrom s.reader c d →
      d.parent = container → P ⟨[i], d⟩) :
    Accounts P x (s.constantReadings container site x) (s.constants container site x) := by
  apply accounts_elements (fun v x c => takes_constant container site v c)
  rintro i c d hget hkind ⟨hparent, hconstruct, hname, _⟩
  exact lift i c d hget (readFrom_constant hkind hconstruct hname) hparent

/-- What one item of a body adds is read inside of it. -/
theorem accounts_member (container : String) (site : Site) :
    Accounts (ReadInside s.reader container site.node) x (s.memberReadings container x site)
      (s.member container x site) := by
  unfold memberReadings
  split
  next hkind =>
    unfold member
    rw [hkind]
    refine .of_takes (takes_callable (some container) .method site) ?_
    rintro d ⟨hparent, hconstruct, hname, _⟩
    refine ⟨hparent, site.node, rfl, .of_kind hkind ?_ hname⟩
    rw [hconstruct]
    rfl
  next hkind =>
    unfold member
    rw [hkind]
    apply accounts_elements (fun v x c => takes_property container site v c)
    rintro i c d hget hc ⟨hparent, hconstruct, hname, _⟩
    refine ⟨hparent, c, Node.at?_cons hget [], .of_kind hc ?_ hname⟩
    rw [hconstruct]
    rfl
  next hkind =>
    unfold member
    rw [hkind]
    apply accounts_constants
    intro i c d hget hread hparent
    exact ⟨hparent, c, Node.at?_cons hget [], hread⟩
  next hkind =>
    unfold member
    rw [hkind]
    refine .of_takes (takes_enumCase container site) ?_
    rintro d ⟨hparent, hconstruct, hname, _⟩
    refine ⟨hparent, site.node, rfl, .of_kind hkind ?_ hname⟩
    rw [hconstruct]
    rfl
  next hmethod hproperty hconstant hcase =>
    -- the uses of traits are mentions, and other items are passed over
    apply Accounts.nil
    unfold member
    split
    · next hkind => exact absurd hkind hmethod
    · next hkind => exact absurd hkind hproperty
    · next hkind => exact absurd hkind hconstant
    · next hkind => exact absurd hkind hcase
    · exact declarations_mentionAll _ _
    · rfl

/-- **The members of a body** are read at the places of its items. -/
theorem accounts_members (container : String) (body : List Node) :
    Accounts (fun e => e.declaration.parent = some container ∧
        ∃ k, Node.amid? body e.place = some k ∧ ReadFrom s.reader k e.declaration)
      x (s.membersReadings container body x) (s.members container body x) := by
  unfold membersReadings members
  rw [← map_placedSites]
  apply Accounts.loop (Q := fun site e => ReadInside s.reader container site.node e)
  · intro p _ x
    exact accounts_member container p.2
  · rintro p hp e ⟨hparent, k, hk, hread⟩
    have hsite := amid?_of_mem_placedSites [] body p hp
    exact ⟨hparent, k, (Node.amid?_append hsite e.place).trans hk, hread⟩

/-! ## §6. Types and regions -/

theorem readFrom_type {n : Node} {d : Declaration}
    (hconstruct : Walk.typeConstruct? n.kind = some d.construct)
    (hname : s.reader.name? n = some d.name) : ReadFrom s.reader n d := by
  generalize hkind : n.kind = kind at hconstruct
  unfold Walk.typeConstruct? at hconstruct
  split at hconstruct
  all_goals first | exact .of_kind hkind hconstruct hname | exact nomatch hconstruct

/-- A type is read at its own node, and its members in its body. -/
theorem accounts_typeDeclaration {construct : Construct} {site : Site}
    (hconstruct : Walk.typeConstruct? site.node.kind = some construct) :
    Accounts (Traced s.reader site.node) x (s.typeReadings construct site x)
      (s.typeDeclaration construct site x) := by
  unfold typeReadings typeDeclaration
  cases hname : s.reader.name? site.node with
  | none => exact .nil rfl
  | some name =>
    have hhere : ReadFrom s.reader site.node (s.reader.declaration site construct name
        (s.scope.qualify name) none .publicAccess) := readFrom_type hconstruct hname
    have hqualified : (s.reader.declaration site construct name (s.scope.qualify name) none
        .publicAccess).qualifiedName = s.scope.qualify name := rfl
    dsimp only
    generalize s.reader.declaration site construct name (s.scope.qualify name) none
      .publicAccess = d at hhere hqualified
    unfold declare
    rw [hqualified]
    by_cases htaken : x.declares (s.scope.qualify name) = true
    · rw [if_pos htaken, if_pos htaken]
      exact .nil rfl
    · rw [if_neg htaken, if_neg htaken]
      apply Accounts.cons (traced_here hhere)
      dsimp only
      generalize hhead : (x.push d).mentionAll _ = y
      have hsame : y.declarations = (x.push d).declarations := by
        rw [← hhead, declarations_mentionAll]
      cases hbody : site.node.child? "body" with
      | none =>
        rw [bodyReadings_of_none hbody]
        exact .nil hsame
      | some body =>
        obtain ⟨j, hj, hget⟩ := Node.exists_bodyIndex? hbody
        rw [bodyReadings_of_some hj hbody]
        have hmembers := accounts_members (s := s) (x := y) (s.scope.qualify name) body.children
        apply (hmembers.map_below [j] _).congr hsame.symm rfl
        rintro e ⟨hparent, k, hk, hread⟩
        apply ReadInside.traced
        exact ⟨hparent, k, (Node.at?_cons hget _).trans (Node.at?_of_amid? hk), hread⟩

/-- A region is read at its loose keywords, and for members if one of these is a type. -/
theorem accounts_recoverFrom {n : Node} (hregion : n.role = .region) (endRow : Nat)
    (before after : List Node) (container : Option String) (x : Extraction)
    (split : n.children = before.reverse ++ after) :
    Accounts (Traced s.reader n) x (s.recoverReadings endRow n.children before after container x)
      (s.recoverFrom endRow n.children before after container x) := by
  have hopens : n.Opens [] := .here (.inr hregion)
  induction after generalizing before container x with
  | nil =>
    unfold recoverReadings recoverFrom
    exact .nil rfl
  | cons token after ih =>
    have hnext : n.children = (token :: before).reverse ++ after := by
      rw [split, List.reverse_cons, List.append_assoc]
      rfl
    have hget : n.children[before.length]? = some token := by
      rw [split]
      exact Node.getElem?_reverse_append before after token
    unfold recoverReadings recoverFrom
    cases hloose : s.loose? endRow container ⟨before, token, after⟩ with
    | none => exact ih _ _ _ hnext
    | some d =>
      dsimp only
      by_cases htaken : x.declares d.qualifiedName = true
      · simp only [htaken, if_true]
        exact (ih _ _ _ hnext).congr rfl rfl
      · simp only [htaken, Bool.false_eq_true, if_false]
        apply Accounts.cons
        · exact traced_child hget (.loose (construct_of_loose? hloose)) (.inl hopens)
        · by_cases hfirst : (decide (d.kind = .type) && container.isNone) = true
          · -- the first type of the region takes the members of the whole region
            simp only [hfirst, if_true]
            have hmembers :
                Accounts _ ((x.push d).warn s.reader d.lineStart (recoveryText d)) _ _ :=
              accounts_members (s := s) d.qualifiedName n.children
            refine ((hmembers.mono ?_).append (ih _ _ _ hnext)).congr rfl rfl
            rintro e ⟨hparent, k, hk, hfrom⟩
            exact ReadInside.traced ⟨hparent, k, Node.at?_of_amid? hk, hfrom⟩
          · simp only [hfirst, Bool.false_eq_true, if_false]
            exact (ih _ _ _ hnext).congr rfl rfl

end Setting

/-! ## §7. Trees -/

namespace Walk

theorem accounts_statements (r : Reader) (before ns : List Node) (w : Walk)
    (each : ∀ n ∈ ns, ∀ before w, Accounts (Traced r n) w.found (statementReadings r before n w)
      (statement r before n w).found) :
    Accounts (TracedAmong r (before.reverse ++ ns)) w.found (statementsReadings r before ns w)
      (statements r before ns w).found := by
  induction ns generalizing before w with
  | nil =>
    unfold statementsReadings statements
    exact .nil rfl
  | cons n rest ih =>
    unfold statementsReadings statements
    have hfirst := each n List.mem_cons_self before w
    have hrest := ih (n :: before) (statement r before n w)
      fun c hc => each c (List.mem_cons_of_mem n hc)
    rw [List.reverse_cons, List.append_assoc] at hrest
    apply (hfirst.map_below [before.length] _).append hrest
    intro e he
    exact ⟨before.length, n, e, Node.getElem?_reverse_append before rest n, he, rfl⟩

/-- **Every declaration of a statement is accounted for by a reading, and every reading by a node.**
The second half is about the children of the node as statements, which a block needs of its body. -/
theorem accounts_statement (r : Reader) (n : Node) :
    (∀ before w, Accounts (Traced r n) w.found (statementReadings r before n w)
      (statement r before n w).found) ∧
    ∀ w, Accounts (TracedAmong r n.children) w.found (statementsReadings r [] n.children w)
      (statements r [] n.children w).found := by
  induction n using Node.induction_children with
  | node n ih =>
    have hinner : ∀ w, Accounts (TracedAmong r n.children) w.found
        (statementsReadings r [] n.children w) (statements r [] n.children w).found :=
      fun w => accounts_statements r [] n.children w fun c hc => (ih c hc).1
    refine ⟨?_, hinner⟩
    intro before w
    rw [statement_eq, statementReadings_eq]
    cases hrole : n.role with
    | type construct =>
      have hconstruct : typeConstruct? (Site.mk before n).node.kind = some construct :=
        Role.construct_of_type hrole
      exact Setting.accounts_typeDeclaration (s := w.setting r) hconstruct
    | scope =>
      dsimp only [readingsAs, statementAs]
      rw [blockOf_eq]
      cases hbody : n.child? "body" with
      | none =>
        rw [blockReadings_of_none hbody]
        exact .nil rfl
      | some b =>
        obtain ⟨j, hj, hb⟩ := Node.exists_bodyIndex? hbody
        rw [blockReadings_of_some hj hb, Nat.zero_add]
        have hblock := (ih b (Node.mem_of_child? hbody)).2 (w.enter (namespaceName r n.children))
        exact hblock.map_below [j] fun e he => traced_of_block hrole hj hb he
    | imports => exact .nil rfl
    | function =>
      have hkind : n.kind = "function_definition" := Node.kind_of_role hrole rfl
      refine .of_takes (Setting.takes_callable none .function ⟨before, n⟩) ?_
      rintro d ⟨_, hconstruct, hname, _⟩
      exact traced_here (.of_kind hkind (by rw [hconstruct]; rfl) hname)
    | constants =>
      apply Setting.accounts_constants
      intro i c d hget hread _
      exact traced_child hget hread (.inr hrole)
    | region =>
      have hpasses : n.Passes := .inr hrole
      refine ((hinner w).mono fun e he => traced_of_among hpasses he).append ?_
      exact Setting.accounts_recoverFrom (s := (statements r [] n.children w).setting r) hrole
        n.endRow [] n.children none _ rfl
    | inert => exact .nil rfl
    | passage => exact (hinner w).mono fun e he => traced_of_among (.inl hrole) he

end Walk

namespace Extraction

/-- The readings of a tree are its declarations, each with the node that it was read from. -/
structure Sourced (r : Reader) (tree : Node) : Prop where
  declared : (ofTree r tree).declarations = (readings r tree).map (·.declaration)
  source : ∀ e ∈ readings r tree, ∃ k, tree.at? e.place = some k ∧ ReadFrom r k e.declaration

theorem tracedAmong_of_mem_readings {r : Reader} {tree : Node} {e : Reading}
    (h : e ∈ readings r tree) : TracedAmong r tree.children e :=
  ((Walk.accounts_statement r tree).2 {}).sound e h

/-- **Nothing is declared that no node accounts for.** -/
theorem sourced_ofTree (r : Reader) (tree : Node) : Sourced r tree where
  declared := ((Walk.accounts_statement r tree).2 {}).declared
  source e he := by
    obtain ⟨i, c, e', hc, htraced, rfl⟩ := tracedAmong_of_mem_readings he
    obtain ⟨k, hk, hread⟩ := htraced.source
    exact ⟨k, (Node.at?_cons hc _).trans hk, hread⟩

end Extraction
end CodeAtlas
