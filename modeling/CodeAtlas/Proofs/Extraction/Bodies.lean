/-
  CodeAtlas.Proofs.Extraction.Bodies — which bodies are searched for declarations.

  The walk does not look into types and functions, but it looks into every statement of a kind that
  it does not know, and so it comes to closures, arrow functions and anonymous classes, and through
  these to the bodies of methods.  A declaration that stands there is declared as if it stood at top
  level.  Elsewhere a body is of no consequence: it can be emptied, and the same names are found.

  Main results:
    * `kind_of_opens` — the ways of the walk lead through no type and no function.
    * `alike_emptyAt` — a statement with an emptied body below it finds the same names, unless the
      body was searched and holds a declaration, or is read as an item of a type.
    * `sheltered_ofTree` — both for whole trees.
-/
import CodeAtlas.Proofs.Extraction.Names
import CodeAtlas.Proofs.Extraction.Origin

namespace CodeAtlas

namespace Node

/-! ## §1. Emptied nodes -/

/-- A tree without what is below an address. -/
def emptyAt : Node → Address → Node
  | n, [] => .mk n.tag []
  | n, i :: a => .mk n.tag (n.children.modify i fun c => c.emptyAt a)

theorem tag_emptyAt (n : Node) (a : Address) : (n.emptyAt a).tag = n.tag := by
  cases a <;> rfl

/-- Nodes correspond to each other if one of them is changed and the others are left alone. -/
theorem forall₂_modify {R : Node → Node → Prop} {f : Node → Node} {ns : List Node} {i : Nat}
    (same : ∀ c ∈ ns, R c c) (changed : ∀ c, ns[i]? = some c → R c (f c)) :
    List.Forall₂ R ns (ns.modify i f) := by
  induction ns generalizing i with
  | nil =>
    rw [List.modify_nil]
    exact .nil
  | cons c rest ih =>
    have hrest : ∀ d ∈ rest, R d d := fun d hd => same d (List.mem_cons_of_mem c hd)
    cases i with
    | zero =>
      rw [List.modify_zero_cons]
      exact .cons (changed c rfl) (List.forall₂_same.mpr hrest)
    | succ i =>
      rw [List.modify_succ_cons]
      exact .cons (same c List.mem_cons_self) (ih hrest fun d hd => changed d hd)

theorem map_tag_of_forall₂ {ns ns' : List Node}
    (h : List.Forall₂ (fun c c' => c.tag = c'.tag) ns ns') :
    ns.map Node.tag = ns'.map Node.tag := by
  induction h with
  | nil => rfl
  | cons htag _ ih => rw [List.map_cons, List.map_cons, htag, ih]

/-- Emptied below its children, a node resembles itself. -/
theorem resembles_emptyAt (n : Node) {a : Address} (ha : a ≠ []) : n.Resembles (n.emptyAt a) := by
  cases a with
  | nil => exact absurd rfl ha
  | cons i a =>
    refine ⟨rfl, ?_⟩
    apply map_tag_of_forall₂
    exact forall₂_modify (fun _ _ => rfl) (fun c _ => (tag_emptyAt c a).symm)

theorem bodyIndex?_eq_of_tags {n n' : Node}
    (h : n.children.map Node.tag = n'.children.map Node.tag) : n.bodyIndex? = n'.bodyIndex? := by
  have hmap : ∀ n : Node,
      n.bodyIndex? = (n.children.map Node.tag).findIdx? (·.field == "body") := by
    intro n
    rw [List.findIdx?_map]
    rfl
  rw [hmap, hmap, h]

/-- The body of a node that is emptied somewhere below: it is left alone, or emptied itself. -/
theorem child?_emptyAt {n b b' : Node} {i : Nat} {a : Address} (hb : n.child? "body" = some b)
    (hb' : (n.emptyAt (i :: a)).child? "body" = some b') :
    b' = b ∨ n.bodyIndex? = some i ∧ n.children[i]? = some b ∧ b' = b.emptyAt a := by
  obtain ⟨j, hj, hget⟩ := exists_bodyIndex? hb
  obtain ⟨j', hj', hget'⟩ := exists_bodyIndex? hb'
  have hindex := bodyIndex?_eq_of_tags (n.resembles_emptyAt (List.cons_ne_nil i a)).tags
  rw [hj, hj'] at hindex
  obtain rfl : j = j' := Option.some.inj hindex
  have hmodified : (n.children.modify i fun c => c.emptyAt a)[j]? = some b' := hget'
  rw [List.getElem?_modify, hget] at hmodified
  by_cases hij : i = j
  · subst hij
    refine .inr ⟨hj, hget, ?_⟩
    simpa using hmodified.symm
  · left
    simpa [hij] using hmodified.symm

/-! ## §2. Bodies -/

/-- The kinds of named types and functions. -/
def declaredKinds : List String :=
  ["class_declaration", "interface_declaration", "trait_declaration", "enum_declaration",
    "function_definition"]

/-- The kinds of functions, methods, closures and anonymous classes. -/
def bodiedKinds : List String :=
  ["function_definition", "method_declaration", "anonymous_function", "arrow_function",
    "anonymous_class"]

theorem role_of_bodied {n : Node} (h : n.kind ∈ bodiedKinds) :
    n.role = .function ∨ n.role = .passage := by
  have hall : ∀ kind ∈ bodiedKinds, Role.ofKind kind = .function ∨ Role.ofKind kind = .passage := by
    decide
  exact hall n.kind h

theorem role_of_declared {n : Node} (h : n.kind ∈ declaredKinds) : ¬n.Passes ∧ n.role ≠ .scope := by
  have hall : ∀ kind ∈ declaredKinds, ¬(Role.ofKind kind = .passage ∨ Role.ofKind kind = .region) ∧
      Role.ofKind kind ≠ .scope := by
    decide
  exact hall n.kind h

theorem role_of_enclosing {n : Node} (h : n.kind ∈ declaredKinds ++ bodiedKinds) :
    ¬(n.role = .scope ∨ n.role = .constants) := by
  have hall : ∀ kind ∈ declaredKinds ++ bodiedKinds,
      ¬(Role.ofKind kind = .scope ∨ Role.ofKind kind = .constants) := by
    decide
  exact hall n.kind h

/-- As an item, a node does not change if a body below it is emptied. -/
theorem itemLike_emptyAt {n e : Node} {p : Address} (hat : n.at? p = some e)
    (bodied : e.kind ∈ bodiedKinds) (j : Nat) : n.ItemLike (n.emptyAt (p ++ [j])) := by
  refine ⟨n.resembles_emptyAt (by simp), ?_⟩
  intro hlist
  cases p with
  | nil =>
    -- the node has a body itself, and is no list
    obtain rfl : n = e := Option.some.inj hat
    rcases hlist with hlist | hlist
    · rw [hlist] at bodied
      exact absurd bodied (by decide)
    · rw [hlist] at bodied
      exact absurd bodied (by decide)
  | cons i q => exact forall₂_modify (fun c _ => .refl c) (fun c _ => c.resembles_emptyAt (by simp))

theorem readable_emptied {n : Node} (h : n.Readable) : (n.emptyAt []).Readable := by
  intro k hk
  rcases mem_preorder_iff.mp hk with rfl | ⟨c, hc, _⟩
  · exact h.kind_ne
  · exact absurd hc List.not_mem_nil

theorem quiet_emptied {n : Node} (h : ¬n.Holds) : ¬(n.emptyAt []).Holds := by
  have hrole : (n.emptyAt []).role = n.role := role_eq_of_tag rfl
  intro hholds
  apply h
  cases hholds with
  | type role => exact .type (hrole.symm.trans role)
  | function role => exact .function (hrole.symm.trans role)
  | constants role => exact .constants (hrole.symm.trans role)
  | scope role => exact .scope (hrole.symm.trans role)
  | within _ child _ => exact absurd child List.not_mem_nil

/-! ## §3. Ways -/

/-- The children of the node at an address are gone through as statements, if those of `n` are. -/
def Searches (n : Node) (a : Address) : Prop :=
  a = [] ∨ ∃ i c b, a = i :: b ∧ n.children[i]? = some c ∧ c.Opens b

/-- `n` is a statement, and the node at an address below it is the body of a type that it
declares. -/
inductive TypeBody : Node → Address → Prop
  | here {n : Node} {construct : Construct} {j : Nat} (role : n.role = .type construct)
      (body : n.bodyIndex? = some j) : TypeBody n [j]
  | within {n c : Node} {i : Nat} {a : Address} (passes : n.Passes)
      (child : n.children[i]? = some c) (rest : TypeBody c a) : TypeBody n (i :: a)
  | inBlock {n b c : Node} {i j : Nat} {a : Address} (scope : n.role = .scope)
      (body : n.bodyIndex? = some j) (child : n.children[j]? = some b)
      (item : b.children[i]? = some c) (rest : TypeBody c a) : TypeBody n (j :: i :: a)

/-- The same for a node whose children are statements. -/
def TypeBodyAmong (n : Node) (a : Address) : Prop :=
  ∃ i c b, a = i :: b ∧ n.children[i]? = some c ∧ c.TypeBody b

/-- The node at an address is the block of a namespace. -/
def BlockAt (n : Node) (a : Address) : Prop :=
  ∃ q j m, a = q ++ [j] ∧ n.at? q = some m ∧ m.role = .scope ∧ m.bodyIndex? = some j

section Ways

variable {n b c k : Node} {i j : Nat} {a p q : Address}

theorem Searches.opens (passes : n.Passes) (h : n.Searches a) : n.Opens a := by
  rcases h with rfl | ⟨i, c, b, rfl, hc, hopens⟩
  · exact .here passes
  · exact .within passes hc hopens

theorem Searches.opens_block (scope : n.role = .scope) (body : n.bodyIndex? = some j)
    (child : n.children[j]? = some b) (h : b.Searches a) : n.Opens (j :: a) := by
  rcases h with rfl | ⟨i, c, a, rfl, hc, hopens⟩
  · exact .block scope body child
  · exact .inBlock scope body child hc hopens

theorem TypeBodyAmong.typeBody (passes : n.Passes) (h : n.TypeBodyAmong a) : n.TypeBody a := by
  obtain ⟨i, c, b, rfl, hc, hbody⟩ := h
  exact .within passes hc hbody

theorem TypeBodyAmong.typeBody_block (scope : n.role = .scope) (body : n.bodyIndex? = some j)
    (child : n.children[j]? = some b) (h : b.TypeBodyAmong a) : n.TypeBody (j :: a) := by
  obtain ⟨i, c, a, rfl, hc, hbody⟩ := h
  exact .inBlock scope body child hc hbody

theorem BlockAt.below (child : n.children[i]? = some c) (h : c.BlockAt a) : n.BlockAt (i :: a) := by
  obtain ⟨q, j, m, rfl, hm, hscope, hj⟩ := h
  exact ⟨i :: q, j, m, rfl, (at?_cons child q).trans hm, hscope, hj⟩

/-- **What lies on a way is passed through, or is a namespace, or the block of one.** -/
theorem kind_of_opens (h : n.Opens p) (hq : q <+: p) (hk : n.at? q = some k) :
    k.Passes ∨ k.role = .scope ∨ n.BlockAt q := by
  induction h generalizing q with
  | here passes =>
    rw [List.prefix_nil.mp hq] at hk
    exact .inl (Option.some.inj hk ▸ passes)
  | within passes child _ ih =>
    rcases List.prefix_cons_iff.mp hq with rfl | ⟨q, rfl, hrest⟩
    · exact .inl (Option.some.inj hk ▸ passes)
    · rw [at?_cons child] at hk
      rcases ih hrest hk with hpasses | hscope | hblock
      · exact .inl hpasses
      · exact .inr (.inl hscope)
      · exact .inr (.inr (hblock.below child))
  | block scope body child =>
    rcases List.prefix_cons_iff.mp hq with rfl | ⟨q, rfl, hrest⟩
    · exact .inr (.inl (Option.some.inj hk ▸ scope))
    · rw [List.prefix_nil.mp hrest]
      exact .inr (.inr ⟨[], _, _, rfl, rfl, scope, body⟩)
  | inBlock scope body child item _ ih =>
    rcases List.prefix_cons_iff.mp hq with rfl | ⟨q, rfl, hrest⟩
    · exact .inr (.inl (Option.some.inj hk ▸ scope))
    · rcases List.prefix_cons_iff.mp hrest with rfl | ⟨q, rfl, hinner⟩
      · exact .inr (.inr ⟨[], _, _, rfl, rfl, scope, body⟩)
      · rw [at?_cons child, at?_cons item] at hk
        rcases ih hinner hk with hpasses | hscope | hblock
        · exact .inl hpasses
        · exact .inr (.inl hscope)
        · exact .inr (.inr ((hblock.below item).below child))

/-- No way leads through a named type or function. -/
theorem blockAt_of_searches (h : n.Searches p) (hq : q <+: p) (hk : n.at? q = some k)
    (declared : k.kind ∈ declaredKinds) : q = [] ∨ n.BlockAt q := by
  obtain ⟨hpasses, hscope⟩ := role_of_declared declared
  rcases h with rfl | ⟨i, c, a, rfl, hc, hopens⟩
  · exact .inl (List.prefix_nil.mp hq)
  · rcases List.prefix_cons_iff.mp hq with rfl | ⟨q, rfl, hrest⟩
    · exact .inl rfl
    · rw [at?_cons hc] at hk
      rcases kind_of_opens hopens hrest hk with h | h | hblock
      · exact absurd h hpasses
      · exact absurd h hscope
      · exact .inr (hblock.below hc)

end Ways

end Node

/-! ## §4. Emptied bodies -/

namespace Walk

open Node

/-- **A body can be emptied**, unless it is searched and holds something, or is itself read as an
item.  The second half is about the children of the node as statements. -/
theorem alike_emptyAt (r : Reader) {e b : Node} {j : Nat} (bodied : e.kind ∈ bodiedKinds)
    (child : e.children[j]? = some b) {p : Address} {n : Node} (readable : n.Readable)
    (hat : n.at? p = some e) :
    ((n.Opens p → ¬b.Holds) → ¬n.TypeBody p → Alike r n (n.emptyAt (p ++ [j]))) ∧
    ((n.Searches p → ¬b.Holds) → ¬n.TypeBodyAmong p →
      List.Forall₂ (Alike r) n.children (n.emptyAt (p ++ [j])).children) := by
  have hsame : ∀ {n : Node}, n.Readable → ∀ c ∈ n.children, Alike r c c :=
    fun h c hc => alike_refl r (h.child hc)
  -- by induction on the address: blocks need the second half one step down, the rest the first
  induction p generalizing n with
  | nil =>
    obtain rfl : n = e := Option.some.inj hat
    have hchildren : ¬b.Holds → List.Forall₂ (Alike r) n.children (n.emptyAt [j]).children := by
      intro hquiet
      apply forall₂_modify (hsame readable)
      intro c hc
      obtain rfl : b = c := Option.some.inj (child.symm.trans hc)
      have hb : b.Readable := readable.child (List.mem_of_getElem? child)
      exact alike_of_quiet hb (readable_emptied hb) hquiet (quiet_emptied hquiet)
    constructor
    · intro quiet _
      have hrole := role_of_bodied bodied
      apply alike_of_parts readable (itemLike_emptyAt hat bodied j)
      · intro construct htype
        rw [htype] at hrole
        exact absurd hrole (by simp)
      · intro hscope
        rw [hscope] at hrole
        exact absurd hrole (by simp)
      · intro hpassage
        exact hchildren (quiet (.here (.inl hpassage)))
    · intro quiet _
      exact hchildren (quiet (.inl rfl))
  | cons i q ih =>
    obtain ⟨c, hc, hrest⟩ := Option.bind_eq_some_iff.mp hat
    have hchildren : (n.Searches (i :: q) → ¬b.Holds) → ¬n.TypeBodyAmong (i :: q) →
        List.Forall₂ (Alike r) n.children (n.emptyAt (i :: q ++ [j])).children := by
      intro quiet loose
      apply forall₂_modify (hsame readable)
      intro c' hc'
      obtain rfl : c = c' := Option.some.inj (hc.symm.trans hc')
      apply (ih (readable.child (List.mem_of_getElem? hc)) hrest).1
      · exact fun hopens => quiet (.inr ⟨i, c, q, rfl, hc, hopens⟩)
      · exact fun hbody => loose ⟨i, c, q, rfl, hc, hbody⟩
    refine ⟨?_, hchildren⟩
    intro quiet loose
    apply alike_of_parts readable (itemLike_emptyAt hat bodied j)
    · -- of a type only the items of its body count
      intro construct htype d d' hd hd'
      rcases child?_emptyAt hd hd' with rfl | ⟨hindex, hget, rfl⟩
      · exact List.forall₂_same.mpr fun c _ => .refl c
      · obtain rfl : c = d := Option.some.inj (hc.symm.trans hget)
        cases q with
        | nil => exact absurd (.here htype hindex) loose
        | cons i' q =>
          apply forall₂_modify fun k _ => .refl k
          intro k hk
          rw [at?_cons hk] at hrest
          exact itemLike_emptyAt hrest bodied j
    · intro hscope d d' hd hd'
      have hdr : d.Readable := readable.child (mem_of_child? hd)
      rcases child?_emptyAt hd hd' with rfl | ⟨hindex, hget, rfl⟩
      · exact List.forall₂_same.mpr (hsame hdr)
      · obtain rfl : c = d := Option.some.inj (hc.symm.trans hget)
        apply (ih hdr hrest).2
        · exact fun h => quiet (h.opens_block hscope hindex hget)
        · exact fun h => loose (h.typeBody_block hscope hindex hget)
    · intro hpassage
      have hpasses : n.Passes := .inl hpassage
      exact hchildren (fun h => quiet (h.opens hpasses)) (fun h => loose (h.typeBody hpasses))

end Walk

/-! ## §5. Trees -/

namespace Extraction

open Node

/-- Which bodies of a tree matter for its declarations. -/
structure Sheltered (r : Reader) (tree : Node) : Prop where
  sourced : Sourced r tree
  /-- What encloses a declaration without a parent has been searched. -/
  leaks : ∀ e ∈ readings r tree, e.declaration.parent = none → ∀ p n, p <+: e.place →
    p ≠ e.place → tree.at? p = some n → n.kind ∈ declaredKinds ++ bodiedKinds → tree.Searches p
  /-- Named types and functions are not searched, nor is anything inside of them. -/
  closed : ∀ p, tree.Searches p → ∀ q n, q <+: p → tree.at? q = some n →
    n.kind ∈ declaredKinds → q = [] ∨ tree.BlockAt q
  /-- The body of a function, as any other child of it, can be emptied if it is not searched or
  holds nothing.  The function must not stand where a type has its body, as no function of a file
  does. -/
  emptied : ∀ p e j b, tree.at? p = some e → e.kind ∈ bodiedKinds → e.children[j]? = some b →
    (tree.Searches p → ¬b.Holds) → ¬tree.TypeBodyAmong p →
      (ofTree r (tree.emptyAt (p ++ [j]))).names = (ofTree r tree).names

theorem searches_of_reading {r : Reader} {tree n : Node} {e : Reading} {p : Address}
    (he : e ∈ readings r tree) (hnone : e.declaration.parent = none) (hp : p <+: e.place)
    (hne : p ≠ e.place) (hn : tree.at? p = some n)
    (hkind : n.kind ∈ declaredKinds ++ bodiedKinds) : tree.Searches p := by
  obtain ⟨i, c, e', hc, htraced, rfl⟩ := tracedAmong_of_mem_readings he
  rcases eq_nil_or_cons_of_prefix hp hne with rfl | ⟨q, rfl, hq, hqne⟩
  · exact .inl rfl
  · rcases htraced.ways hnone q hq hqne with hopens | ⟨k, hk, hrole⟩
    · exact .inr ⟨i, c, q, rfl, hc, hopens⟩
    · rw [at?_cons hc, hk] at hn
      obtain rfl : k = n := Option.some.inj hn
      exact absurd hrole (role_of_enclosing hkind)

/-- **Only bodies that the walk comes to are searched**, and they are all that matters. -/
theorem sheltered_ofTree (r : Reader) {tree : Node} (readable : tree.Readable) :
    Sheltered r tree where
  sourced := sourced_ofTree r tree
  leaks _ he hnone _ _ hp hne hn hkind := searches_of_reading he hnone hp hne hn hkind
  closed _ hsearches _ _ hq hn hkind := blockAt_of_searches hsearches hq hn hkind
  emptied p e j b hat bodied child quiet loose := by
    have halike := (Walk.alike_emptyAt r bodied child readable hat).2 quiet loose
    have hstart : Walk.SameNames {} {} := ⟨rfl, rfl⟩
    exact (Walk.sameNames_statements halike hstart).names.symm

/-- A class that is declared in a closure. -/
def closureReader : Reader :=
  ⟨"src/Test.php", "<?php\ncall(function () \x7b class A \x7b\x7d \x7d);\n".toList, false⟩

/-- The tree of that file. -/
def closureTree : Node :=
  .mk ⟨"program", true, false, "", 0, 40, 0, 2⟩ [
    .mk ⟨"php_tag", true, false, "", 0, 5, 0, 0⟩ [],
    .mk ⟨"expression_statement", true, false, "", 6, 39, 1, 1⟩ [
      .mk ⟨"function_call_expression", true, false, "", 6, 38, 1, 1⟩ [
        .mk ⟨"name", true, false, "function", 6, 10, 1, 1⟩ [],
        .mk ⟨"arguments", true, false, "arguments", 10, 38, 1, 1⟩ [
          .mk ⟨"(", false, false, "", 10, 11, 1, 1⟩ [],
          .mk ⟨"argument", true, false, "", 11, 37, 1, 1⟩ [
            .mk ⟨"anonymous_function", true, false, "", 11, 37, 1, 1⟩ [
              .mk ⟨"function", false, false, "", 11, 19, 1, 1⟩ [],
              .mk ⟨"formal_parameters", true, false, "parameters", 20, 22, 1, 1⟩ [
                .mk ⟨"(", false, false, "", 20, 21, 1, 1⟩ [],
                .mk ⟨")", false, false, "", 21, 22, 1, 1⟩ []],
              .mk ⟨"compound_statement", true, false, "body", 23, 37, 1, 1⟩ [
                .mk ⟨"\x7b", false, false, "", 23, 24, 1, 1⟩ [],
                .mk ⟨"class_declaration", true, false, "", 25, 35, 1, 1⟩ [
                  .mk ⟨"class", false, false, "", 25, 30, 1, 1⟩ [],
                  .mk ⟨"name", true, false, "name", 31, 32, 1, 1⟩ [],
                  .mk ⟨"declaration_list", true, false, "body", 33, 35, 1, 1⟩ [
                    .mk ⟨"\x7b", false, false, "", 33, 34, 1, 1⟩ [],
                    .mk ⟨"\x7d", false, false, "", 34, 35, 1, 1⟩ []]],
                .mk ⟨"\x7d", false, false, "", 36, 37, 1, 1⟩ []]]],
          .mk ⟨")", false, false, "", 37, 38, 1, 1⟩ []]],
      .mk ⟨";", false, false, "", 38, 39, 1, 1⟩ []]]

theorem sheltered_ofTree_closure : closureTree.Readable ∧ Sheltered closureReader closureTree :=
  ⟨by decide +kernel, sheltered_ofTree closureReader (by decide +kernel)⟩

/-- The class is declared without a parent though it stands inside of the closure, and it is gone if
the body of the closure is emptied. -/
theorem leaking_closure :
    closureTree.Readable ∧
      (closureTree.at? [1, 0, 1, 1, 0]).map (·.kind) = some "anonymous_function" ∧
      (readings closureReader closureTree).map
          (fun e => (e.place, e.declaration.qualifiedName, e.declaration.parent)) =
        [([1, 0, 1, 1, 0, 2, 1], "A", none)] ∧
      (ofTree closureReader closureTree).names = ["A"] ∧
      (ofTree closureReader (closureTree.emptyAt [1, 0, 1, 1, 0, 2])).names = [] := by
  decide +kernel

end Extraction
end CodeAtlas
