/-
  CodeAtlas.Proofs.Extraction.Occurrences — what a body mentions, and where it does so first.

  A body is gone through node by node.  A node that calls or instantiates something by name is a
  candidate; of the candidates that say the same the first in document order is kept, unless the
  head of the declaration or an earlier one has said it.  Document order is the order of addresses:
  a node comes in front of what is below it, and what is below a child in front of the next child.

  Main results:
    * `mem_placed_iff`, `increasing_placed` — the nodes of a tree, each at its address, in order.
    * `loop_iff` — a loop with a stack of nodes to come ends, and finds what is found in document
      order.
    * `mem_firsts_iff` — which candidates are kept.
    * `collects_inBody` — the mentions of ANY body, whatever was found before.
-/
import CodeAtlas.Proofs.Extraction.Readings
import CodeAtlas.Proofs.Extraction.WellFormed
import CodeAtlas.Proofs.Tree

namespace CodeAtlas

/-! ## §1. Addresses in document order -/

namespace Node

mutual

/-- The nodes of a tree in document order, each with its address. -/
def placed : Node → List (Address × Node)
  | mk tag children => ([], mk tag children) :: placedFrom 0 children

/-- The nodes of neighbouring trees, the first of which stands at position `i`. -/
def placedFrom (i : Nat) : List Node → List (Address × Node)
  | [] => []
  | n :: rest => (placed n).map (fun p => (i :: p.1, p.2)) ++ placedFrom (i + 1) rest

end

theorem placed_eq (n : Node) : n.placed = ([], n) :: placedFrom 0 n.children := by
  cases n with
  | mk tag children => rw [placed]; rfl

/-- The nodes with addresses are the nodes. -/
theorem map_placed (n : Node) : n.placed.map (·.2) = n.preorder := by
  have hall : ∀ (ns : List Node), (∀ c ∈ ns, c.placed.map (·.2) = c.preorder) → ∀ i,
      (placedFrom i ns).map (·.2) = preorderAll ns := by
    intro ns
    induction ns with
    | nil => intro _ i; rw [placedFrom, preorderAll]; rfl
    | cons c rest ih =>
      intro h i
      rw [placedFrom, preorderAll, List.map_append, List.map_map,
        ih (fun d hd => h d (List.mem_cons_of_mem c hd)) (i + 1), ← h c List.mem_cons_self]
      rfl
  induction n using induction_children with
  | node n ih =>
    cases n with
    | mk tag children =>
      rw [placed, preorder, List.map_cons, hall children ih 0]

theorem mem_placedFrom_iff {ns : List Node} {i : Nat} {a : Address} {k : Node} :
    (a, k) ∈ placedFrom i ns ↔
      ∃ j b c, ns[j]? = some c ∧ a = (i + j) :: b ∧ (b, k) ∈ c.placed := by
  induction ns generalizing i with
  | nil => simp [placedFrom]
  | cons n rest ih =>
    rw [placedFrom, List.mem_append, ih]
    constructor
    · intro h
      rcases h with hfirst | ⟨j, b, c, hc, ha, hk⟩
      · obtain ⟨⟨b, k'⟩, hk, heq⟩ := List.mem_map.mp hfirst
        cases heq
        exact ⟨0, b, n, rfl, rfl, hk⟩
      · exact ⟨j + 1, b, c, hc, by rw [ha]; congr 1; omega, hk⟩
    · intro h
      obtain ⟨j, b, c, hc, ha, hk⟩ := h
      cases j with
      | zero =>
        cases hc
        exact .inl (List.mem_map.mpr ⟨(b, k), hk, by rw [ha]; rfl⟩)
      | succ j => exact .inr ⟨j, b, c, hc, by rw [ha]; congr 1; omega, hk⟩

/-- **A node stands in the list with the address that leads to it.** -/
theorem mem_placed_iff {n k : Node} {a : Address} : (a, k) ∈ n.placed ↔ n.at? a = some k := by
  induction n using induction_children generalizing a with
  | node n ih =>
    rw [placed_eq, List.mem_cons, mem_placedFrom_iff]
    cases a with
    | nil => simp [at?, eq_comm]
    | cons i a =>
      rw [at?, Option.bind_eq_some_iff]
      constructor
      · intro h
        rcases h with hroot | ⟨j, b, c, hc, ha, hk⟩
        · exact absurd hroot (by simp)
        · obtain ⟨hi, rfl⟩ := List.cons.inj ha
          rw [Nat.zero_add] at hi
          exact ⟨c, hi ▸ hc, (ih c (List.mem_of_getElem? hc)).mp hk⟩
      · intro h
        obtain ⟨c, hc, hk⟩ := h
        exact .inr ⟨i, a, c, hc, by rw [Nat.zero_add], (ih c (List.mem_of_getElem? hc)).mpr hk⟩

/-- **The list is in document order**: addresses increase. -/
theorem increasing_placed (n : Node) : (n.placed.map (·.1)).Pairwise (· < ·) := by
  have hall : ∀ (ns : List Node), (∀ c ∈ ns, (c.placed.map (·.1)).Pairwise (· < ·)) → ∀ i,
      ((placedFrom i ns).map (·.1)).Pairwise (· < ·) := by
    intro ns
    induction ns with
    | nil => intro _ i; rw [placedFrom]; exact List.Pairwise.nil
    | cons c rest ih =>
      intro h i
      rw [placedFrom, List.map_append, List.pairwise_append]
      refine ⟨?_, ih (fun d hd => h d (List.mem_cons_of_mem c hd)) (i + 1), ?_⟩
      · rw [List.map_map, List.pairwise_map]
        refine (List.pairwise_map.mp (h c List.mem_cons_self)).imp ?_
        intro p q hpq
        exact List.cons_lt_cons_iff.mpr (.inr ⟨rfl, hpq⟩)
      · -- what is below one child comes before what is below the next ones
        intro a ha b hb
        obtain ⟨p, hp, rfl⟩ := List.mem_map.mp ha
        obtain ⟨p', _, rfl⟩ := List.mem_map.mp hp
        obtain ⟨⟨b', k⟩, hq, rfl⟩ := List.mem_map.mp hb
        obtain ⟨j, b'', d, _, hb', _⟩ := mem_placedFrom_iff.mp hq
        show i :: p'.1 < b'
        rw [hb']
        exact List.cons_lt_cons_iff.mpr (.inl (by omega))
  induction n using induction_children with
  | node n ih =>
    rw [placed_eq, List.map_cons, List.pairwise_cons]
    refine ⟨?_, hall n.children ih 0⟩
    intro a ha
    obtain ⟨⟨a', k⟩, hp, rfl⟩ := List.mem_map.mp ha
    obtain ⟨j, b, c, _, ha', _⟩ := mem_placedFrom_iff.mp hp
    show [] < a'
    rw [ha']
    exact List.nil_lt_cons _ _

end Node

/-! ## §2. Candidates -/

namespace Mentioning

/-- What a mention says of a name that is written at a node: who mentions it, in which role, on
which line, and the suggested name unless that only repeats the written one. -/
structure Tells (m : Mentioning) (role : ReferenceKind) (written : String)
    (suggested : Option String) (place : Node) (c : Mention) : Prop where
  source : c.source = m.source
  name : c.name = written
  hint : ∀ h, c.hint = some h ↔ suggested = some h ∧ h ≠ written
  kind : c.kind = role
  line : c.line = place.startRow + 1

/-- The name that a static call suggests: the member of the class that is named, or of the type
around the call. -/
inductive Suggests (m : Mentioning) (scope : Node) (member : String) : Option String → Prop
  | ofClass (name : scope.isName = true) (free : Name.isReserved (m.reader.text scope) = false) :
    Suggests m scope member
      ((m.scope.expand (m.reader.text scope)).map fun path => path ++ "." ++ member)
  | ofContainer (kind : scope.kind = "relative_scope" ∨ scope.kind = "name")
    (own : m.reader.text scope = "self" ∨ m.reader.text scope = "static") :
    Suggests m scope member (m.container.map fun path => path ++ "." ++ member)
  | nothing (unnamed : scope.isName = false ∨ Name.isReserved (m.reader.text scope) = true)
    (foreign : ¬ ((scope.kind = "relative_scope" ∨ scope.kind = "name") ∧
      (m.reader.text scope = "self" ∨ m.reader.text scope = "static"))) :
    Suggests m scope member none

/-- The four ways in which a node of a body mentions something. -/
inductive Candidate (m : Mentioning) (n : Node) (c : Mention) : Prop
  /-- A function that is called by its name. -/
  | function {f : Node} (kind : n.kind = "function_call_expression")
    (callee : n.child? "function" = some f) (name : f.isName = true)
    (tells : m.Tells .calls (m.reader.text f) (m.scope.expand (m.reader.text f)) f c)
  /-- A static call of a member with a plain name. -/
  | static {scope member : Node} {suggested : Option String}
    (kind : n.kind = "scoped_call_expression")
    (left : n.child? "scope" = some scope) (right : n.child? "name" = some member)
    (plain : Name.isIdentifier (m.reader.text member) = true)
    (suggests : m.Suggests scope (m.reader.text member) suggested)
    (tells : m.Tells .calls (m.reader.text scope ++ "::" ++ m.reader.text member) suggested scope c)
  /-- A call on `$this` inside a type. -/
  | this {object member : Node} {container : String} (kind : n.kind = "member_call_expression")
    (left : n.child? "object" = some object) (right : n.child? "name" = some member)
    (inside : m.container = some container) (self : m.reader.text object = "$this")
    (plain : Name.isIdentifier (m.reader.text member) = true)
    (tells : m.Tells .calls ("$this->" ++ m.reader.text member)
      (some (container ++ "." ++ m.reader.text member)) member c)
  /-- An instantiation of a class with a name of its own. -/
  | creation {k : Node} (kind : n.kind = "object_creation_expression")
    (first : n.children.find? Node.isName = some k) (nonempty : m.reader.text k ≠ "")
    (free : Name.isReserved (m.reader.text k) = false)
    (tells : m.Tells .instantiates (m.reader.text k) (m.scope.expand (m.reader.text k)) k c)

variable {m : Mentioning} {n : Node} {c : Mention}

theorem tells_iff {role : ReferenceKind} {written : String} {suggested : Option String}
    {place : Node} : m.Tells role written suggested place c ↔
      c = m.mention role written suggested place := by
  have hhint : ∀ h, (suggested.filter (· != written)) = some h ↔
      suggested = some h ∧ h ≠ written := by
    intro h
    rw [Option.filter_eq_some_iff, bne_iff_ne]
  constructor
  · rintro ⟨source, name, hint, kind, line⟩
    have hsame : c.hint = suggested.filter (· != written) := by
      apply Option.ext
      intro h
      rw [hint, hhint]
    cases c
    simp only at source name hsame kind line
    rw [source, name, hsame, kind, line]
    rfl
  · rintro rfl
    exact ⟨rfl, rfl, hhint, rfl, rfl⟩

theorem suggests_iff {scope : Node} {member : String} {suggested : Option String} :
    m.Suggests scope member suggested ↔
      suggested = m.scopedHint scope (m.reader.text scope) member := by
  have hreserved : ∀ s, s = "self" ∨ s = "static" → Name.isReserved s = true := by
    rintro s (rfl | rfl)
    · decide
    · decide
  unfold scopedHint
  constructor
  · intro h
    cases h with
    | ofClass name free =>
      rw [if_pos (by simp [name, free])]
      rfl
    | ofContainer kind own =>
      rw [if_neg (by simp [hreserved _ own]), if_pos (by simpa using ⟨kind, own⟩)]
      rfl
    | nothing unnamed foreign =>
      rw [if_neg ?_, if_neg (by simpa using foreign)]
      rcases unnamed with h | h
      · simp [h]
      · simp [h]
  · rintro rfl
    split
    next hclass =>
      simp only [Bool.and_eq_true, Bool.not_eq_true'] at hclass
      exact .ofClass hclass.1 hclass.2
    next hclass =>
      split
      next hown =>
        simp only [Bool.and_eq_true, Bool.or_eq_true, beq_iff_eq] at hown
        exact .ofContainer hown.1 hown.2
      next hown =>
        refine .nothing ?_ (by simpa using hown)
        cases hname : scope.isName with
        | false => exact .inl rfl
        | true => exact .inr (by simpa [hname] using hclass)

theorem ofFunctionCall_eq_some_iff : m.ofFunctionCall n = some c ↔
    ∃ f, n.child? "function" = some f ∧ f.isName = true ∧
      c = m.mention .calls (m.reader.text f) (m.scope.expand (m.reader.text f)) f := by
  unfold ofFunctionCall
  simp only [Option.bind_eq_some_iff, Option.ite_none_right_eq_some, Option.some.injEq]
  simp only [eq_comm (a := c)]

theorem ofScopedCall_eq_some_iff : m.ofScopedCall n = some c ↔
    ∃ scope member, n.child? "scope" = some scope ∧ n.child? "name" = some member ∧
      Name.isIdentifier (m.reader.text member) = true ∧
      c = m.mention .calls (m.reader.text scope ++ "::" ++ m.reader.text member)
        (m.scopedHint scope (m.reader.text scope) (m.reader.text member)) scope := by
  unfold ofScopedCall
  cases n.child? "scope" with
  | none => simp
  | some scope =>
    cases n.child? "name" with
    | none => simp
    | some member => simp [eq_comm (a := c)]

theorem ofMemberCall_eq_some_iff : m.ofMemberCall n = some c ↔
    ∃ object member container, n.child? "object" = some object ∧ n.child? "name" = some member ∧
      m.container = some container ∧ m.reader.text object = "$this" ∧
      Name.isIdentifier (m.reader.text member) = true ∧
      c = m.mention .calls ("$this->" ++ m.reader.text member)
        (some (Name.member container (m.reader.text member))) member := by
  unfold ofMemberCall
  cases n.child? "object" with
  | none => simp
  | some object =>
    cases n.child? "name" with
    | none => simp
    | some member =>
      cases m.container with
      | none => simp
      | some container => simp [and_assoc, eq_comm (a := c)]

theorem ofClass_eq_some_iff {kind : ReferenceKind} : m.ofClass kind n = some c ↔
    m.reader.text n ≠ "" ∧ Name.isReserved (m.reader.text n) = false ∧
      c = m.mention kind (m.reader.text n) (m.scope.expand (m.reader.text n)) n := by
  unfold ofClass
  simp [and_assoc, eq_comm (a := c)]

/-- A node is a candidate in one of the four ways, by its kind. -/
theorem ofBodyNode_eq_some_iff : m.ofBodyNode n = some c ↔ m.Candidate n c := by
  unfold ofBodyNode
  constructor
  · intro h
    split at h
    next kind =>
      obtain ⟨f, callee, name, hc⟩ := ofFunctionCall_eq_some_iff.mp h
      exact .function kind callee name (tells_iff.mpr hc)
    next kind =>
      obtain ⟨scope, member, left, right, plain, hc⟩ := ofScopedCall_eq_some_iff.mp h
      exact .static kind left right plain (suggests_iff.mpr rfl) (tells_iff.mpr hc)
    next kind =>
      obtain ⟨object, member, container, left, right, inside, self, plain, hc⟩ :=
        ofMemberCall_eq_some_iff.mp h
      exact .this kind left right inside self plain (tells_iff.mpr hc)
    next kind =>
      obtain ⟨k, first, hk⟩ := Option.bind_eq_some_iff.mp h
      obtain ⟨nonempty, free, hc⟩ := ofClass_eq_some_iff.mp hk
      exact .creation kind first nonempty free (tells_iff.mpr hc)
    next => exact absurd h (by simp)
  · intro h
    cases h with
    | function kind callee name tells =>
      rw [kind]
      exact ofFunctionCall_eq_some_iff.mpr ⟨_, callee, name, tells_iff.mp tells⟩
    | static kind left right plain suggests tells =>
      rw [kind]
      rw [suggests_iff.mp suggests, tells_iff] at tells
      exact ofScopedCall_eq_some_iff.mpr ⟨_, _, left, right, plain, tells⟩
    | this kind left right inside self plain tells =>
      rw [kind]
      exact ofMemberCall_eq_some_iff.mpr
        ⟨_, _, _, left, right, inside, self, plain, tells_iff.mp tells⟩
    | creation kind first nonempty free tells =>
      rw [kind]
      exact Option.bind_eq_some_iff.mpr
        ⟨_, first, ofClass_eq_some_iff.mpr ⟨nonempty, free, tells_iff.mp tells⟩⟩

/-! ## §3. The loop -/

/-- A loop with a stack of nodes to come, the next one on top.  Each round takes the top node off,
notes what it mentions, and puts its children in its place. -/
inductive Loop (m : Mentioning) : List Node → Extraction → Extraction → Prop
  | done {x : Extraction} : Loop m [] x x
  | round {n : Node} {rest : List Node} {x y : Extraction}
    (next : Loop m (n.children ++ rest) (x.mentionAll (m.ofBodyNode n).toList) y) :
    Loop m (n :: rest) x y

theorem mentionAll_append (x : Extraction) (ms ms' : List Mention) :
    x.mentionAll (ms ++ ms') = (x.mentionAll ms).mentionAll ms' := List.foldl_append

/-- What a node and the nodes below it mention, round by round. -/
theorem filterMap_preorder (m : Mentioning) (n : Node) :
    n.preorder.filterMap m.ofBodyNode =
      (m.ofBodyNode n).toList ++ (Node.preorderAll n.children).filterMap m.ofBodyNode := by
  cases n with
  | mk tag children =>
    rw [Node.preorder, List.filterMap_cons]
    cases m.ofBodyNode (.mk tag children) <;> rfl

theorem preorderAll_append (ns ns' : List Node) :
    Node.preorderAll (ns ++ ns') = Node.preorderAll ns ++ Node.preorderAll ns' := by
  rw [Node.preorderAll_eq, Node.preorderAll_eq, Node.preorderAll_eq, List.flatMap_append]

/-- What the loop finds is what the nodes on its stack mention in document order. -/
theorem eq_of_loop {stack : List Node} {x y : Extraction} (h : m.Loop stack x y) :
    y = x.mentionAll ((Node.preorderAll stack).filterMap m.ofBodyNode) := by
  induction h with
  | done => rw [Node.preorderAll]; rfl
  | @round n rest x y _ ih =>
    rw [ih, preorderAll_append, Node.preorderAll, List.filterMap_append, List.filterMap_append,
      filterMap_preorder, mentionAll_append, mentionAll_append, mentionAll_append]

/-- The loop ends: a node and all nodes below it are worked off before the rest of the stack. -/
theorem loop_node (n : Node) : ∀ (rest : List Node) (x y : Extraction),
    m.Loop rest (x.mentionAll (n.preorder.filterMap m.ofBodyNode)) y → m.Loop (n :: rest) x y := by
  have hall : ∀ (ns : List Node), (∀ c ∈ ns, ∀ rest x y,
      m.Loop rest (x.mentionAll (c.preorder.filterMap m.ofBodyNode)) y → m.Loop (c :: rest) x y) →
      ∀ rest x y, m.Loop rest (x.mentionAll ((Node.preorderAll ns).filterMap m.ofBodyNode)) y →
        m.Loop (ns ++ rest) x y := by
    intro ns
    induction ns with
    | nil =>
      intro _ rest x y h
      rw [Node.preorderAll] at h
      exact h
    | cons c cs ih =>
      intro hc rest x y h
      rw [Node.preorderAll, List.filterMap_append, mentionAll_append] at h
      apply hc c List.mem_cons_self
      exact ih (fun d hd => hc d (List.mem_cons_of_mem c hd)) rest _ y h
  induction n using Node.induction_children with
  | node n ih =>
    intro rest x y h
    rw [filterMap_preorder, mentionAll_append] at h
    exact .round (hall n.children ih rest _ y h)

/-- **The loop ends, and finds what stands in the body in document order.** -/
theorem loop_iff {body : Node} {x y : Extraction} :
    m.Loop [body] x y ↔ y = x.mentionAll (m.inBody body) := by
  constructor
  · intro h
    have hy := eq_of_loop h
    rw [Node.preorderAll, Node.preorderAll, List.append_nil] at hy
    exact hy
  · intro h
    rw [h]
    exact loop_node body [] x _ .done

end Mentioning

/-! ## §4. First occurrences -/

/-- What a mention says. -/
abbrev Triple := String × ReferenceKind × String

/-- Of mentions in order, those that say what was not said before. -/
def firsts (said : List Triple) : List (Address × Mention) → List (Address × Mention)
  | [] => []
  | p :: rest =>
    if p.2.triple ∈ said then firsts said rest else p :: firsts (said ++ [p.2.triple]) rest

theorem firsts_sublist (said : List Triple) (l : List (Address × Mention)) :
    (firsts said l).Sublist l := by
  induction l generalizing said with
  | nil => exact List.Sublist.refl []
  | cons p rest ih =>
    rw [firsts]
    split
    next => exact (ih said).cons p
    next => exact (ih _).cons_cons p

/-- What is not kept was said before, or is said by something that is kept. -/
theorem said_or_kept {said : List Triple} {l : List (Address × Mention)} {p : Address × Mention}
    (hp : p ∈ l) : p.2.triple ∈ said ∨ ∃ q ∈ firsts said l, q.2.triple = p.2.triple := by
  induction l generalizing said with
  | nil => exact absurd hp List.not_mem_nil
  | cons q rest ih =>
    rw [firsts]
    split
    next hsaid =>
      rcases List.mem_cons.mp hp with rfl | hrest
      · exact .inl hsaid
      · exact ih hrest
    next =>
      rcases List.mem_cons.mp hp with rfl | hrest
      · exact .inr ⟨p, List.mem_cons_self, rfl⟩
      · have hlater : p.2.triple ∈ said ++ [q.2.triple] ∨ _ := ih hrest
        rcases hlater with hsaid | ⟨q', hq', heq⟩
        · rcases List.mem_append.mp hsaid with hold | hfirst
          · exact .inl hold
          · exact .inr ⟨q, List.mem_cons_self, (List.mem_singleton.mp hfirst).symm⟩
        · exact .inr ⟨q', List.mem_cons_of_mem q hq', heq⟩

/-- **A mention is kept if neither an earlier one says the same nor anything said before.** -/
theorem mem_firsts_iff {said : List Triple} {l : List (Address × Mention)}
    (ordered : (l.map (·.1)).Pairwise (· < ·)) {a : Address} {c : Mention} :
    (a, c) ∈ firsts said l ↔ (a, c) ∈ l ∧ c.triple ∉ said ∧
      ∀ b c', (b, c') ∈ l → b < a → c'.triple ≠ c.triple := by
  induction l generalizing said with
  | nil => simp [firsts]
  | cons p rest ih =>
    obtain ⟨first, tail⟩ := List.pairwise_cons.mp ordered
    have hafter : ∀ b c', (b, c') ∈ rest → p.1 < b := fun b c' hb =>
      first b (List.mem_map.mpr ⟨(b, c'), hb, rfl⟩)
    rw [firsts]
    by_cases hsaid : p.2.triple ∈ said
    · -- the first mention says nothing new, and nothing that is kept says the same
      rw [if_pos hsaid, ih tail]
      constructor
      · intro ⟨hmem, hnew, hearlier⟩
        refine ⟨List.mem_cons_of_mem p hmem, hnew, ?_⟩
        intro b c' hb hlt heq
        rcases List.mem_cons.mp hb with rfl | hrest
        · exact hnew (heq ▸ hsaid)
        · exact hearlier b c' hrest hlt heq
      · intro ⟨hmem, hnew, hearlier⟩
        rcases List.mem_cons.mp hmem with rfl | hrest
        · exact absurd hsaid hnew
        · exact ⟨hrest, hnew, fun b c' hb => hearlier b c' (List.mem_cons_of_mem p hb)⟩
    · -- the first mention is kept, and what says the same is not
      rw [if_neg hsaid, List.mem_cons, ih tail, List.mem_append, List.mem_singleton]
      constructor
      · intro h
        rcases h with rfl | ⟨hmem, hnew, hearlier⟩
        · refine ⟨List.mem_cons_self, hsaid, ?_⟩
          intro b c' hb hlt heq
          rcases List.mem_cons.mp hb with hself | hrest
          · cases hself
            exact List.lt_irrefl a hlt
          · exact List.lt_irrefl a (List.lt_trans (hafter b c' hrest) hlt)
        · refine ⟨List.mem_cons_of_mem p hmem, fun h => hnew (.inl h), ?_⟩
          intro b c' hb hlt heq
          rcases List.mem_cons.mp hb with rfl | hrest
          · exact hnew (.inr heq.symm)
          · exact hearlier b c' hrest hlt heq
      · intro ⟨hmem, hnew, hearlier⟩
        rcases List.mem_cons.mp hmem with heq | hrest
        · exact .inl heq
        · refine .inr ⟨hrest, ?_, fun b c' hb => hearlier b c' (List.mem_cons_of_mem p hb)⟩
          intro h
          rcases h with hold | hfirst
          · exact hnew hold
          · exact hearlier p.1 p.2 List.mem_cons_self (hafter a c hrest) hfirst.symm

namespace Extraction

theorem mentions_iff {x : Extraction} {c : Mention} :
    x.mentions c = true ↔ c.triple ∈ x.references.map Mention.triple := by
  unfold mentions
  rw [List.any_eq_true, List.mem_map]
  apply exists_congr
  intro p
  apply and_congr_right
  intro _
  simp [Mention.triple, and_assoc]

/-- Adding mentions in order keeps the first ones. -/
theorem references_mentionAll (x : Extraction) (l : List (Address × Mention)) :
    (x.mentionAll (l.map (·.2))).references =
      x.references ++ (firsts (x.references.map Mention.triple) l).map (·.2) := by
  induction l generalizing x with
  | nil => exact (List.append_nil _).symm
  | cons p rest ih =>
    show ((x.mention p.2).mentionAll (rest.map (·.2))).references = _
    rw [ih, firsts]
    unfold mention
    by_cases hmade : x.mentions p.2 = true
    · rw [if_pos hmade, if_pos (mentions_iff.mp hmade)]
    · rw [if_neg hmade, if_neg (fun h => hmade (mentions_iff.mpr h))]
      simp [List.map_append]

theorem warnings_mentionAll (x : Extraction) (ms : List Mention) :
    (x.mentionAll ms).warnings = x.warnings := by
  induction ms generalizing x with
  | nil => rfl
  | cons c rest ih =>
    show ((x.mention c).mentionAll rest).warnings = _
    rw [ih]
    unfold mention
    split <;> rfl

end Extraction

/-! ## §5. Bodies -/

namespace Mentioning

/-- The candidate `c` at the address `a` is the first in its body that says what it says, and that
was not said before. -/
structure First (m : Mentioning) (body : Node) (x : Extraction) (a : Address) (c : Mention) :
    Prop where
  here : ∃ n, body.at? a = some n ∧ m.Candidate n c
  new : ∀ p ∈ x.references, p.triple ≠ c.triple
  first : ∀ b < a, ∀ n c', body.at? b = some n → m.Candidate n c' → c'.triple ≠ c.triple

/-- What is found in a body, from what was found before. -/
structure Collects (m : Mentioning) (body : Node) (x y : Extraction) : Prop where
  /-- The loop through the body ends with it, and with nothing else. -/
  loop : ∀ z, m.Loop [body] x z ↔ z = y
  /-- Declarations and warnings stay as they were. -/
  kept : y.declarations = x.declarations ∧ y.warnings = x.warnings
  /-- The first candidates are added, in document order. -/
  added : ∃ new : List (Address × Mention), y.references = x.references ++ new.map (·.2) ∧
    (new.map (·.1)).Pairwise (· < ·) ∧ ∀ a c, (a, c) ∈ new ↔ m.First body x a c
  /-- What any node of the body mentions, however deep, is there. -/
  complete : ∀ a n c, body.at? a = some n → m.Candidate n c →
    ∃ p ∈ y.references, p.source = c.source ∧ p.kind = c.kind ∧ p.name = c.name

/-- The candidates of a body in document order, each with its address. -/
def candidates (m : Mentioning) (body : Node) : List (Address × Mention) :=
  body.placed.filterMap fun p => (m.ofBodyNode p.2).map fun c => (p.1, c)

theorem map_candidates (m : Mentioning) (body : Node) :
    (m.candidates body).map (·.2) = m.inBody body := by
  unfold candidates inBody
  rw [List.map_filterMap, ← Node.map_placed, List.filterMap_map]
  congr 1
  funext p
  show ((m.ofBodyNode p.2).map _).map _ = _
  rw [Option.map_map]
  exact Option.map_id'

theorem mem_candidates_iff {m : Mentioning} {body : Node} {a : Address} {c : Mention} :
    (a, c) ∈ m.candidates body ↔ ∃ n, body.at? a = some n ∧ m.Candidate n c := by
  unfold candidates
  rw [List.mem_filterMap]
  constructor
  · intro h
    obtain ⟨⟨b, n⟩, hn, hc⟩ := h
    obtain ⟨c', hc', heq⟩ := Option.map_eq_some_iff.mp hc
    cases heq
    exact ⟨n, Node.mem_placed_iff.mp hn, ofBodyNode_eq_some_iff.mp hc'⟩
  · intro h
    obtain ⟨n, hn, hc⟩ := h
    refine ⟨(a, n), Node.mem_placed_iff.mpr hn, ?_⟩
    exact Option.map_eq_some_iff.mpr ⟨c, ofBodyNode_eq_some_iff.mpr hc, rfl⟩

theorem increasing_candidates (m : Mentioning) (body : Node) :
    ((m.candidates body).map (·.1)).Pairwise (· < ·) := by
  rw [List.pairwise_map]
  refine List.Pairwise.filterMap _ ?_ (List.pairwise_map.mp (Node.increasing_placed body))
  intro p q hpq p' hp q' hq
  obtain ⟨c, _, rfl⟩ := Option.map_eq_some_iff.mp hp
  obtain ⟨c', _, rfl⟩ := Option.map_eq_some_iff.mp hq
  exact hpq

/-- **A body mentions its first occurrences in document order**, whatever was found before, and
nothing in it is passed over. -/
theorem collects_inBody (m : Mentioning) (body : Node) (x : Extraction) :
    Collects m body x (x.mentionAll (m.inBody body)) := by
  have hrefs := Extraction.references_mentionAll x (m.candidates body)
  rw [map_candidates] at hrefs
  have hmem : ∀ a c, (a, c) ∈ firsts (x.references.map Mention.triple) (m.candidates body) ↔
      m.First body x a c := by
    intro a c
    rw [mem_firsts_iff (increasing_candidates m body), mem_candidates_iff]
    constructor
    · intro ⟨here, new, first⟩
      refine ⟨here, fun p hp heq => new (List.mem_map.mpr ⟨p, hp, heq⟩), ?_⟩
      intro b hb n c' hn hc'
      exact first b c' (mem_candidates_iff.mpr ⟨n, hn, hc'⟩) hb
    · intro ⟨here, new, first⟩
      refine ⟨here, ?_, ?_⟩
      · intro hsaid
        obtain ⟨p, hp, heq⟩ := List.mem_map.mp hsaid
        exact new p hp heq
      · intro b c' hb hlt
        obtain ⟨n, hn, hc'⟩ := mem_candidates_iff.mp hb
        exact first b hlt n c' hn hc'
  constructor
  case loop => exact fun z => loop_iff
  case kept =>
    exact ⟨Extraction.declarations_mentionAll x _, Extraction.warnings_mentionAll x _⟩
  case added =>
    refine ⟨_, hrefs, ?_, hmem⟩
    exact (increasing_candidates m body).sublist ((firsts_sublist _ _).map _)
  case complete =>
    intro a n c hn hc
    have hplace : (a, c) ∈ m.candidates body := mem_candidates_iff.mpr ⟨n, hn, hc⟩
    obtain ⟨p, hp, heq⟩ : ∃ p ∈ (x.mentionAll (m.inBody body)).references, p.triple = c.triple := by
      rw [hrefs]
      rcases said_or_kept hplace with hsaid | ⟨q, hq, heq⟩
      · obtain ⟨p, hp, heq⟩ := List.mem_map.mp hsaid
        exact ⟨p, List.mem_append_left _ hp, heq⟩
      · exact ⟨q.2, List.mem_append_right _ (List.mem_map.mpr ⟨q, hq, rfl⟩), heq⟩
    exact ⟨p, hp, by simpa [Mention.triple] using heq⟩

end Mentioning

end CodeAtlas
