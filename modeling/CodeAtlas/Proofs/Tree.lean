/-
  CodeAtlas.Proofs.Tree — the rows of a syntax tree.

  A tree is laid out when no node ends above the row where it starts, every node lies within the
  rows of its parent, and siblings follow each other: each ends on the row where the next one
  starts, or above.  A tree is readable when the grammar could read all of it.

  Main results:
    * `mem_preorder_iff` — the nodes of a tree by its children.
    * `LaidOut.within_of_mem` — a node lies within the rows of EVERY node above it.
    * `LaidOut.bounds_of_startsAt` — where the nodes of a tree can start.
    * `Stretch` — nodes that follow each other between two rows, to go through one by one.
-/
import CodeAtlas.Syntax.Node

namespace CodeAtlas.Node

variable {k c n : Node}

/-! ## §1. The nodes of a tree -/

/-- Induction from the children of a node to the node. -/
@[elab_as_elim]
theorem induction_children {P : Node → Prop}
    (node : ∀ n : Node, (∀ c ∈ n.children, P c) → P n) (n : Node) : P n := by
  match n with
  | .mk tag children =>
    apply node
    intro c hc
    have hchild : c ∈ children := hc
    exact induction_children node c
termination_by n
decreasing_by
  have hsmaller := List.sizeOf_lt_of_mem hchild
  rw [Node.mk.sizeOf_spec]
  omega

theorem preorderAll_eq (cs : List Node) : preorderAll cs = cs.flatMap preorder := by
  induction cs with
  | nil => unfold preorderAll; rfl
  | cons c cs ih => unfold preorderAll; rw [ih, List.flatMap_cons]

theorem outermostAll_eq (p : Node → Bool) (cs : List Node) :
    outermostAll p cs = cs.flatMap (outermost p) := by
  induction cs with
  | nil => unfold outermostAll; rfl
  | cons c cs ih => unfold outermostAll; rw [ih, List.flatMap_cons]

/-- A node of a tree is its root, or a node of one of the trees below that. -/
theorem mem_preorder_iff : k ∈ n.preorder ↔ k = n ∨ ∃ c ∈ n.children, k ∈ c.preorder := by
  cases n with
  | mk tag children =>
    rw [preorder, preorderAll_eq, List.mem_cons, List.mem_flatMap]
    rfl

theorem mem_preorder_self (n : Node) : n ∈ n.preorder := mem_preorder_iff.mpr (.inl rfl)

theorem mem_preorder_of_child (hc : c ∈ n.children) (hk : k ∈ c.preorder) : k ∈ n.preorder :=
  mem_preorder_iff.mpr (.inr ⟨c, hc, hk⟩)

theorem mem_preorder_trans (hk : k ∈ c.preorder) (hc : c ∈ n.preorder) : k ∈ n.preorder := by
  induction n using induction_children with
  | node n ih =>
    rcases mem_preorder_iff.mp hc with rfl | ⟨d, hd, hbelow⟩
    · exact hk
    · exact mem_preorder_of_child hd (ih d hd hbelow)

theorem mem_preorder_below (hc : c ∈ n.children) {tree : Node} (hn : n ∈ tree.preorder) :
    c ∈ tree.preorder :=
  mem_preorder_trans (mem_preorder_of_child hc (mem_preorder_self c)) hn

/-- What is found by looking for outermost nodes are nodes of the tree. -/
theorem mem_preorder_of_outermost {p : Node → Bool} (h : k ∈ n.outermost p) : k ∈ n.preorder := by
  induction n using induction_children with
  | node n ih =>
    cases n with
    | mk tag children =>
      rw [outermost] at h
      split at h
      · rw [List.mem_singleton.mp h]
        exact mem_preorder_self _
      · rw [outermostAll_eq] at h
        obtain ⟨c, hc, hbelow⟩ := List.mem_flatMap.mp h
        exact mem_preorder_of_child hc (ih c hc hbelow)

theorem mem_of_child? {field : String} (h : n.child? field = some c) : c ∈ n.children :=
  List.mem_of_find?_eq_some h

/-! ## §2. Layout -/

/-- A node lies within the rows of another. -/
def Within (c n : Node) : Prop := n.startRow ≤ c.startRow ∧ c.endRow ≤ n.endRow

instance (c n : Node) : Decidable (c.Within n) :=
  inferInstanceAs (Decidable (n.startRow ≤ c.startRow ∧ c.endRow ≤ n.endRow))

theorem Within.trans (h : k.Within c) (h' : c.Within n) : k.Within n :=
  ⟨Nat.le_trans h'.1 h.1, Nat.le_trans h.2 h'.2⟩

/-- The rows of a node and of its children are in order. -/
structure InOrder (n : Node) : Prop where
  range : n.startRow ≤ n.endRow
  within : ∀ c ∈ n.children, c.Within n
  siblings : n.children.Pairwise fun a b => a.endRow ≤ b.startRow

instance (n : Node) : Decidable n.InOrder :=
  decidable_of_iff (n.startRow ≤ n.endRow ∧ (∀ c ∈ n.children, c.Within n) ∧
      n.children.Pairwise fun a b => a.endRow ≤ b.startRow)
    ⟨fun h => ⟨h.1, h.2.1, h.2.2⟩, fun h => ⟨h.range, h.within, h.siblings⟩⟩

/-- All rows of a tree are in order. -/
def LaidOut (tree : Node) : Prop := ∀ n ∈ tree.preorder, n.InOrder

instance (tree : Node) : Decidable tree.LaidOut :=
  inferInstanceAs (Decidable (∀ n ∈ tree.preorder, n.InOrder))

/-- No region of a tree is unreadable. -/
def Readable (tree : Node) : Prop := ∀ n ∈ tree.preorder, n.kind ≠ "ERROR"

instance (tree : Node) : Decidable tree.Readable :=
  inferInstanceAs (Decidable (∀ n ∈ tree.preorder, n.kind ≠ "ERROR"))

theorem Readable.kind_ne (h : n.Readable) : n.kind ≠ "ERROR" := h n (mem_preorder_self n)

theorem Readable.child (h : n.Readable) (hc : c ∈ n.children) : c.Readable :=
  fun k hk => h k (mem_preorder_of_child hc hk)

namespace LaidOut

theorem inOrder (h : n.LaidOut) : n.InOrder := h n (mem_preorder_self n)

theorem child (h : n.LaidOut) (hc : c ∈ n.children) : c.LaidOut :=
  fun k hk => h k (mem_preorder_of_child hc hk)

end LaidOut

/-- **A node of a tree lies within the rows of its root.** -/
theorem LaidOut.within_of_mem (h : n.LaidOut) (hk : k ∈ n.preorder) : k.Within n := by
  induction n using induction_children with
  | node n ih =>
    rcases mem_preorder_iff.mp hk with rfl | ⟨c, hc, hbelow⟩
    · exact ⟨Nat.le_refl _, Nat.le_refl _⟩
    · have hchild : k.Within c := ih c hc (h.child hc) hbelow
      exact hchild.trans (h.inOrder.within c hc)

/-! ## §3. Lines on which nodes start -/

/-- Some node of the tree starts on a line. -/
def StartsAt (n : Node) (line : Nat) : Prop := ∃ k ∈ n.preorder, k.line = line

theorem startsAt_self (n : Node) : n.StartsAt n.line := ⟨n, mem_preorder_self n, rfl⟩

theorem StartsAt.of_mem {line : Nat} (h : c.StartsAt line) (hc : c ∈ n.preorder) :
    n.StartsAt line := by
  obtain ⟨k, hk, hline⟩ := h
  exact ⟨k, mem_preorder_trans hk hc, hline⟩

theorem StartsAt.of_child {line : Nat} (h : c.StartsAt line) (hc : c ∈ n.children) :
    n.StartsAt line := h.of_mem (mem_preorder_of_child hc (mem_preorder_self c))

theorem LaidOut.bounds_of_startsAt (h : n.LaidOut) {line : Nat} (hline : n.StartsAt line) :
    n.startRow + 1 ≤ line ∧ line ≤ n.endRow + 1 := by
  obtain ⟨k, hk, rfl⟩ := hline
  have hwithin := h.within_of_mem hk
  have hrange := (h k hk).range
  unfold Within at hwithin
  unfold line
  omega

/-! ## §4. Stretches -/

/-- Readable nodes that follow each other between two rows. -/
structure Stretch (lo hi : Nat) (ns : List Node) : Prop where
  laid : ∀ n ∈ ns, n.LaidOut
  readable : ∀ n ∈ ns, n.Readable
  order : ns.Pairwise fun a b => a.endRow ≤ b.startRow
  bounds : ∀ n ∈ ns, lo ≤ n.startRow ∧ n.endRow ≤ hi
  nonneg : lo ≤ hi

/-- The children of a node fill its rows. -/
theorem stretch_children (laid : n.LaidOut) (readable : n.Readable) :
    Stretch n.startRow n.endRow n.children where
  laid _ hc := laid.child hc
  readable _ hc := readable.child hc
  order := laid.inOrder.siblings
  bounds := laid.inOrder.within
  nonneg := laid.inOrder.range

/-- Behind its first node a stretch goes on. -/
theorem Stretch.tail {lo hi : Nat} {ns : List Node} (h : Stretch lo hi (n :: ns)) :
    Stretch n.endRow hi ns where
  laid k hk := h.laid k (List.mem_cons_of_mem n hk)
  readable k hk := h.readable k (List.mem_cons_of_mem n hk)
  order := (List.pairwise_cons.mp h.order).2
  bounds k hk :=
    ⟨(List.pairwise_cons.mp h.order).1 k hk, (h.bounds k (List.mem_cons_of_mem n hk)).2⟩
  nonneg := (h.bounds n List.mem_cons_self).2

end CodeAtlas.Node
