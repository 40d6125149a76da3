/-
  CodeAtlas.Proofs.Extraction.Repeats — how often one node of a tree is read.

  An unreadable region is gone through twice: as statements, and for loose keywords.  If one of
  these names a type, the region is gone through once more for the members of that type, and so are
  the regions inside of it, which in turn may have recovered types of their own.  A node is read
  more than once in this way only: every region around it whose type takes it as a member adds a
  reading, and a constant is read as a constant of the file besides.

  Main results:
    * `times_statementReadings` — ONE induction over the tree, for members and other nodes alike.
    * `recoveredAt_of_recoveries` — what is counted as a recovery has a region.
    * `boundedReadings_ofTree` — the bound for every node of every tree.
-/
import CodeAtlas.Proofs.Extraction.Multiplicity

namespace CodeAtlas

/-! ## §1. Limits -/

/-- Whether a statement of a role declares something at its own node. -/
def Role.declaresItself : Role → Bool
  | type _ | function => true
  | scope | imports | constants | region | inert | passage => false

namespace Node

/-- Below a statement: the number of regions around an address that recover a type and have a member
there. -/
def recoveries (r : Reader) : Node → Address → Nat
  | _, [] => 0
  | n, i :: a =>
    (n.children[i]?.map fun c =>
      match n.role with
      | .region => c.recoveries r a + if n.recoversType r && c.isMember a then 1 else 0
      | .passage => c.recoveries r a
      | .scope =>
        if n.bodyIndex? = some i then
          match a with
          | [] => 0
          | k :: b => (c.children[k]?.map fun d => d.recoveries r b).getD 0
        else 0
      | _ => 0).getD 0

/-- One at the address of a constant. -/
def constantAt (n : Node) (a : Address) : Nat :=
  if (n.at? a).any (·.kind == "const_element") then 1 else 0

/-- How often a statement may read the node at an address.  Itself it reads if it declares a type or
a function; a member of a region may not be read at all if nothing recovers the region. -/
def limit (r : Reader) (n : Node) : Address → Nat
  | [] => if n.role.declaresItself then 1 else 0
  | i :: a =>
    if n.isMember (i :: a) then n.recoveries r (i :: a) + n.constantAt (i :: a)
    else max 1 (n.recoveries r (i :: a) + n.constantAt (i :: a))

variable {r : Reader} {n c b : Node} {i j k : Nat} {a : Address}

theorem recoveries_region (hrole : n.role = .region) (hc : n.children[i]? = some c) (a : Address) :
    n.recoveries r (i :: a) =
      c.recoveries r a + if n.recoversType r && c.isMember a then 1 else 0 := by
  rw [recoveries, hc, hrole]
  rfl

theorem recoveries_passage (hrole : n.role = .passage) (hc : n.children[i]? = some c)
    (a : Address) : n.recoveries r (i :: a) = c.recoveries r a := by
  rw [recoveries, hc, hrole]
  rfl

theorem recoveries_scope (hrole : n.role = .scope) (hj : n.bodyIndex? = some j)
    (hb : n.children[j]? = some b) (hc : b.children[k]? = some c) (a : Address) :
    n.recoveries r (j :: k :: a) = c.recoveries r a := by
  rw [recoveries, hb, hrole]
  simp [hj, hc]

theorem constantAt_cons (hc : n.children[i]? = some c) (a : Address) :
    n.constantAt (i :: a) = c.constantAt a := by
  unfold constantAt
  rw [at?_cons hc]

/-- However often a node may be read, the wider bound holds. -/
theorem limit_le (r : Reader) (n : Node) (a : Address) :
    n.limit r a ≤ max 1 (n.recoveries r a + n.constantAt a) := by
  cases a with
  | nil =>
    rw [limit]
    split <;> omega
  | cons i a =>
    rw [limit]
    split <;> omega

end Node

/-! ## §2. Reading statements -/

namespace Node

variable {r : Reader} {n c : Node} {i : Nat} {a : Address}

theorem role_of_kind {kind : String} (h : n.kind = kind) : n.role = Role.ofKind kind := by
  rw [← h]
  rfl

/-- Outside of regions only elements are members below an item. -/
theorem isMember_element (hkind : n.kind ≠ "ERROR") (hc : n.children[i]? = some c)
    (h : n.isMember (i :: a) = true) :
    a = [] ∧ ((n.kind = "property_declaration" ∧ c.kind = "property_element") ∨
      (n.kind = "const_declaration" ∧ c.kind = "const_element")) := by
  rw [isMember, hc] at h
  simpa [hkind] using h

/-- Only some statements can be items that declare members. -/
theorem role_of_isMember (h : n.isMember a = true) :
    n.role = .passage ∨ n.role = .constants ∨ n.role = .region := by
  cases a with
  | nil =>
    simp only [isMember, Bool.or_eq_true, beq_iff_eq] at h
    rcases h with hkind | hkind
    · exact .inl (role_of_kind hkind)
    · exact .inl (role_of_kind hkind)
  | cons i a =>
    by_cases hkind : n.kind = "ERROR"
    · exact .inr (.inr (role_of_kind hkind))
    · have hchild := h
      rw [isMember, Option.any_eq_true] at hchild
      obtain ⟨c, hc, _⟩ := hchild
      rcases (isMember_element hkind hc h).2 with ⟨hn, _⟩ | ⟨hn, _⟩
      · exact .inl (role_of_kind hn)
      · exact .inr (.inl (role_of_kind hn))

theorem isMember_eq_false (hpassage : n.role ≠ .passage) (hconstants : n.role ≠ .constants)
    (hregion : n.role ≠ .region) (a : Address) : n.isMember a = false := by
  rw [Bool.eq_false_iff]
  intro h
  rcases role_of_isMember h with hrole | hrole | hrole
  · exact hpassage hrole
  · exact hconstants hrole
  · exact hregion hrole

theorem limit_eq_max (h : n.isMember (i :: a) = false) :
    n.limit r (i :: a) = max 1 (n.recoveries r (i :: a) + n.constantAt (i :: a)) := by
  rw [limit, h]
  rfl

/-- A statement that declares nothing itself is not read itself. -/
theorem limit_nil_of_passage (h : n.role = .passage) : n.limit r [] = 0 := by
  rw [limit, h]
  rfl

/-- As a statement, a member that is an item of its own declares nothing. -/
theorem limit_nil_of_isMember (h : n.isMember [] = true) : n.limit r [] = 0 := by
  apply limit_nil_of_passage
  simp only [isMember, Bool.or_eq_true, beq_iff_eq] at h
  rcases h with hkind | hkind
  · exact role_of_kind hkind
  · exact role_of_kind hkind

/-- A member is read as a statement only as far as regions inside recover it, and as a constant. -/
theorem limit_of_isMember (h : n.isMember a = true) :
    n.limit r a ≤ n.recoveries r a + n.constantAt a := by
  cases a with
  | nil =>
    rw [limit_nil_of_isMember h]
    exact Nat.zero_le _
  | cons i a => rw [limit, if_pos h]

end Node

namespace Walk

theorem spread_statementsReadings (r : Reader) (before ns : List Node) (w : Walk)
    (each : ∀ n ∈ ns, ∀ before w a, timesRead (statementReadings r before n w) a ≤ n.limit r a) :
    Spread (Node.limit r) before.length ns (statementsReadings r before ns w) := by
  induction ns generalizing before w with
  | nil =>
    unfold statementsReadings
    exact .nil _ _
  | cons n rest ih =>
    unfold statementsReadings
    apply Spread.cons (each n List.mem_cons_self before w)
    exact ih (n :: before) _ fun c hc => each c (List.mem_cons_of_mem n hc)

/-- A block is read node by node, two steps below its namespace. -/
theorem times_blockReadings {r : Reader} {n b : Node} {j : Nat} {l : List Reading}
    (hrole : n.role = .scope) (hj : n.bodyIndex? = some j) (hb : n.children[j]? = some b)
    (hspread : Spread (Node.limit r) 0 b.children l) (a : Address) :
    timesRead (l.map (·.below [j])) a ≤ n.limit r a := by
  have hmember : ∀ a, n.isMember a = false :=
    Node.isMember_eq_false (by simp [hrole]) (by simp [hrole]) (by simp [hrole])
  by_cases ha : ∃ k a', a = j :: k :: a'
  · obtain ⟨k, a, rfl⟩ := ha
    rw [timesRead_below, Node.limit_eq_max (hmember _)]
    cases hc : b.children[k]? with
    | none =>
      rw [hspread.at_gap hc]
      exact Nat.zero_le _
    | some c =>
      rw [Node.recoveries_scope hrole hj hb hc, Node.constantAt_cons hb, Node.constantAt_cons hc]
      exact (hspread.at_position hc a).trans (c.limit_le r a)
  · -- neither the namespace nor its block is a statement of the block
    have hzero : timesRead (l.map (·.below [j])) a = 0 := by
      by_cases hfirst : ∃ a', a = j :: a'
      · obtain ⟨a', rfl⟩ := hfirst
        rw [timesRead_below]
        cases a' with
        | nil => exact hspread.root
        | cons k a' => exact absurd ⟨k, a', rfl⟩ ha
      · exact timesRead_below_ne fun a' ha' => hfirst ⟨a', ha'⟩
    rw [hzero]
    exact Nat.zero_le _

/-- A statement that is only searched is read as often as its children are. -/
theorem times_passage {r : Reader} {n : Node} {l : List Reading} (hrole : n.role = .passage)
    (hspread : Spread (Node.limit r) 0 n.children l) (a : Address) :
    timesRead l a ≤ n.limit r a := by
  cases a with
  | nil =>
    rw [hspread.root]
    exact Nat.zero_le _
  | cons i a =>
    cases hc : n.children[i]? with
    | none =>
      rw [hspread.at_gap hc]
      exact Nat.zero_le _
    | some c =>
      refine (hspread.at_position hc a).trans ?_
      have hrecoveries := Node.recoveries_passage (r := r) hrole hc a
      have hconstant := Node.constantAt_cons hc a
      cases hmember : n.isMember (i :: a) with
      | false =>
        rw [Node.limit_eq_max hmember, hrecoveries, hconstant]
        exact c.limit_le r a
      | true =>
        -- an element of a property list, which declares nothing as a statement
        have hkind : n.kind ≠ "ERROR" := by
          intro hkind
          exact nomatch hrole.symm.trans (Node.role_of_kind hkind)
        obtain ⟨rfl, ⟨_, hc'⟩ | ⟨hn, _⟩⟩ := Node.isMember_element hkind hc hmember
        · rw [Node.limit_nil_of_passage (Node.role_of_kind hc')]
          exact Nat.zero_le _
        · exact nomatch hrole.symm.trans (Node.role_of_kind hn)

/-- The elements of a constant declaration are read once. -/
theorem times_constants {r : Reader} {n : Node} {l : List Reading} (hrole : n.role = .constants)
    (honce : ∀ a, timesRead l a ≤ 1)
    (hplace : ∀ a, timesRead l a ≠ 0 →
      ∃ i c, a = [i] ∧ n.children[i]? = some c ∧ c.kind = "const_element") (a : Address) :
    timesRead l a ≤ n.limit r a := by
  by_cases hread : timesRead l a = 0
  · rw [hread]
    exact Nat.zero_le _
  · obtain ⟨i, c, rfl, hc, hkind⟩ := hplace a hread
    have hn : n.kind = "const_declaration" := Node.kind_of_role hrole rfl
    have hmember : n.isMember [i] = true := by simp [Node.isMember, hc, hn, hkind]
    have hconstant : n.constantAt [i] = 1 := by
      rw [Node.constantAt_cons hc]
      simp [Node.constantAt, Node.at?, hkind]
    have hi := honce [i]
    rw [Node.limit, if_pos hmember, hconstant]
    omega

theorem keywordLimit_of_isMember {n : Node} {a : Address} (h : n.isMember a = true) :
    Setting.keywordLimit n a = 0 := by
  cases a with
  | nil =>
    simp only [Node.isMember, Bool.or_eq_true, beq_iff_eq] at h
    unfold Setting.keywordLimit
    rcases h with hkind | hkind
    · rw [hkind]
      rfl
    · rw [hkind]
      rfl
  | cons i a => rfl

/-- A keyword is read as such, or a node as a statement. -/
theorem keywordLimit_or_limit (r : Reader) (n : Node) (a : Address) :
    Setting.keywordLimit n a = 0 ∨ Setting.keywordLimit n a = 1 ∧ n.limit r a = 0 := by
  cases a with
  | nil =>
    by_cases hword : Setting.isKeyword n.kind = true
    · exact .inr ⟨if_pos hword, Node.limit_nil_of_passage (Setting.role_of_isKeyword hword)⟩
    · exact .inl (if_neg hword)
  | cons i a => exact .inl rfl

theorem not_readFrom_region {r : Reader} {n : Node} {d : Declaration} (hrole : n.role = .region) :
    ¬ReadFrom r n d := by
  have hkind : n.kind = "ERROR" := Node.kind_of_role hrole rfl
  rintro (⟨hconstruct, _⟩ | hconstruct)
  · rw [hkind] at hconstruct
    exact nomatch hconstruct
  · rw [hkind] at hconstruct
    exact nomatch hconstruct

/-- **A region**: read as statements (`l`), at its keywords and for members (`l'`).  A member is
read for members at most once more than as a statement, and a keyword is no statement. -/
theorem times_region {r : Reader} {n : Node} {l l' : List Reading} (hrole : n.role = .region)
    (hspread : Spread (Node.limit r) 0 n.children l) (hroot : timesRead l' [] = 0)
    (hrecover : ∀ i a, timesRead l' (i :: a) ≤ Setting.keywordsFrom n.children 0 i a +
      Setting.membersIf (n.recoversType r) n.children i a) (a : Address) :
    timesRead (l ++ l') a ≤ n.limit r a := by
  rw [timesRead_append]
  cases a with
  | nil =>
    rw [hspread.root, hroot]
    exact Nat.zero_le _
  | cons i a =>
    have hbound := hrecover i a
    unfold Setting.keywordsFrom Setting.membersIf at hbound
    rw [if_pos (Nat.zero_le i)] at hbound
    cases hc : n.children[i]? with
    | none =>
      have hgap := hspread.at_gap hc a
      simp only [hc, Option.map_none, Option.getD_none, ite_self] at hbound
      omega
    | some c =>
      have hstatement := hspread.at_position hc a
      have hkind : n.kind = "ERROR" := Node.kind_of_role hrole rfl
      have hinside := Node.isMember_region hkind hc a
      have hrecoveries := Node.recoveries_region (r := r) hrole hc a
      have hconstant := Node.constantAt_cons hc a
      simp only [hc, Option.map_some, Option.getD_some] at hbound
      by_cases hmember : c.isMember a = true
      · -- a member: what the region adds for it is in the count of recoveries
        have hlimit := Node.limit_of_isMember (r := r) hmember
        have hword := keywordLimit_of_isMember hmember
        have hone := Setting.memberLimit_le c a
        rw [hmember] at hinside
        rw [hmember, Bool.and_true] at hrecoveries
        rw [Node.limit, if_pos hinside, hrecoveries, hconstant]
        split at hbound <;> split <;> omega
      · -- any other node: read as a statement, or as a keyword, but not as both
        have hnone : Setting.memberLimit c a = 0 := if_neg hmember
        have hlimit := c.limit_le r a
        have hword := keywordLimit_or_limit r c a
        have hfalse : n.isMember (i :: a) = false := by
          rw [hinside]
          exact Bool.eq_false_iff.mpr hmember
        rw [Bool.eq_false_iff.mpr hmember, Bool.and_false] at hrecoveries
        rw [Node.limit_eq_max hfalse, hrecoveries, hconstant]
        simp only [hnone, ite_self, Nat.add_zero] at hbound
        simp only [Bool.false_eq_true, if_false, Nat.add_zero]
        omega

/-- **How often a statement reads the nodes below it**, by its role. -/
theorem times_statementReadings (r : Reader) (n : Node) :
    (∀ before w a, timesRead (statementReadings r before n w) a ≤ n.limit r a) ∧
      ∀ w, Spread (Node.limit r) 0 n.children (statementsReadings r [] n.children w) := by
  induction n using Node.induction_children with
  | node n ih =>
    have hinner : ∀ w, Spread (Node.limit r) 0 n.children (statementsReadings r [] n.children w) :=
      fun w => spread_statementsReadings r [] n.children w fun c hc => (ih c hc).1
    refine ⟨?_, hinner⟩
    intro before w a
    rw [statementReadings_eq]
    cases hrole : n.role with
    | type construct =>
      have honce : timesRead (readingsAs r before n w (.type construct)) a ≤ 1 :=
        Setting.times_typeReadings construct ⟨before, n⟩ w.found a
      cases a with
      | nil =>
        rw [Node.limit, hrole]
        exact honce
      | cons i a =>
        rw [Node.limit_eq_max (Node.isMember_eq_false (by simp [hrole]) (by simp [hrole])
          (by simp [hrole]) _)]
        omega
    | scope =>
      dsimp only [readingsAs]
      cases hbody : n.child? "body" with
      | none =>
        rw [blockReadings_of_none hbody]
        exact Nat.zero_le _
      | some b =>
        obtain ⟨j, hj, hb⟩ := Node.exists_bodyIndex? hbody
        rw [blockReadings_of_some hj hb, Nat.zero_add]
        exact times_blockReadings hrole hj hb ((ih b (Node.mem_of_child? hbody)).2 _) a
    | imports => exact Nat.zero_le _
    | function =>
      have hhere := Setting.times_readHere
        (Setting.takes_callable (s := w.setting r) (x := w.found) none .function ⟨before, n⟩) a
      refine hhere.trans ?_
      cases a with
      | nil => rw [Node.limit, hrole]; rfl
      | cons i a => exact Nat.zero_le _
    | constants =>
      have helements := Setting.times_constantReadings (s := w.setting r) none ⟨before, n⟩ w.found
      exact times_constants hrole (fun a => (helements a).1) (fun a => (helements a).2) a
    | region =>
      let inner := statements r [] n.children w
      have haccounts := Setting.accounts_recoverFrom (s := inner.setting r) hrole n.endRow []
        n.children none inner.found rfl
      apply times_region hrole (hinner w)
      · -- the region itself is not read
        apply timesRead_eq_zero
        intro e he hplace
        obtain ⟨k, hk, hread⟩ := (haccounts.sound e he).source
        rw [hplace] at hk
        rw [← Option.some.inj hk] at hread
        exact not_readFrom_region hrole hread
      · intro i a
        exact Setting.times_recoverReadings (s := inner.setting r) n.endRow n.children []
          n.children none inner.found rfl i a
    | inert => exact Nat.zero_le _
    | passage => exact times_passage hrole (hinner w) a

end Walk

/-! ## §3. Trees -/

namespace Node

variable {r : Reader} {n c : Node} {i : Nat} {a : Address}

/-- The number of regions of a tree around an address that recover a type and have a member
there. -/
def recoveriesIn (r : Reader) (tree : Node) : Address → Nat
  | [] => 0
  | i :: a => (tree.children[i]?.map (·.recoveries r a)).getD 0

/-- What is a member at an address is of one of the kinds that make members. -/
theorem kind_of_isMember (h : n.isMember a = true) : ∃ k, n.at? a = some k ∧
    k.kind ∈ ["method_declaration", "enum_case", "property_element", "const_element"] := by
  induction a generalizing n with
  | nil =>
    simp only [isMember, Bool.or_eq_true, beq_iff_eq] at h
    refine ⟨n, rfl, ?_⟩
    rcases h with hkind | hkind <;> simp [hkind]
  | cons i a ih =>
    have hchild := h
    rw [isMember, Option.any_eq_true] at hchild
    obtain ⟨c, hc, _⟩ := hchild
    by_cases hkind : n.kind = "ERROR"
    · rw [isMember_region hkind hc] at h
      obtain ⟨k, hk, hmem⟩ := ih h
      exact ⟨k, (at?_cons hc a).trans hk, hmem⟩
    · obtain ⟨rfl, helement⟩ := isMember_element hkind hc h
      refine ⟨c, at?_cons hc [], ?_⟩
      rcases helement with ⟨_, hc'⟩ | ⟨_, hc'⟩ <;> simp [hc']

/-- A region that recovers a type and has the node at `a` below `n` as a member. -/
def RecoveredAt (r : Reader) (n : Node) (a : Address) : Prop :=
  ∃ k ∈ n.preorder, k.kind = "ERROR" ∧ k.recoversType r = true ∧
    ∃ b, k.isMember b = true ∧ k.at? b = n.at? a

theorem RecoveredAt.of_child (hc : n.children[i]? = some c) (h : RecoveredAt r c a) :
    RecoveredAt r n (i :: a) := by
  obtain ⟨k, hk, hkind, htype, b, hmember, hat⟩ := h
  refine ⟨k, mem_preorder_of_child (List.mem_of_getElem? hc) hk, hkind, htype, b, hmember, ?_⟩
  rw [hat, at?_cons hc]

/-- **A recovery has a region.** -/
theorem recoveredAt_of_recoveries (h : n.recoveries r a ≠ 0) : RecoveredAt r n a := by
  -- a namespace takes two steps at once, so the induction is on the length of the address
  induction hlen : a.length using Nat.strong_induction_on generalizing n a with
  | h len ih =>
    cases a with
    | nil => exact absurd rfl h
    | cons i a =>
      rw [List.length_cons] at hlen
      cases hc : n.children[i]? with
      | none =>
        rw [recoveries, hc] at h
        exact absurd rfl h
      | some c =>
        cases hrole : n.role with
        | region =>
          rw [recoveries_region hrole hc] at h
          by_cases hinner : c.recoveries r a = 0
          · have hkind : n.kind = "ERROR" := kind_of_role hrole rfl
            have hhere : (n.recoversType r && c.isMember a) = true := by
              by_contra hnot
              rw [hinner, if_neg hnot] at h
              exact h rfl
            rw [Bool.and_eq_true] at hhere
            refine ⟨n, mem_preorder_self n, hkind, hhere.1, i :: a, ?_, rfl⟩
            rw [isMember_region hkind hc]
            exact hhere.2
          · exact .of_child hc (ih a.length (by omega) hinner rfl)
        | passage =>
          rw [recoveries_passage hrole hc] at h
          exact .of_child hc (ih a.length (by omega) h rfl)
        | scope =>
          rw [recoveries, hc, hrole] at h
          by_cases hbody : n.bodyIndex? = some i
          · cases a with
            | nil => simp [hbody] at h
            | cons k a =>
              rw [List.length_cons] at hlen
              cases hd : c.children[k]? with
              | none => simp [hbody, hd] at h
              | some d =>
                simp only [hbody, hd, Option.map_some, Option.getD_some, if_true] at h
                exact .of_child hc (.of_child hd (ih a.length (by omega) h rfl))
          · simp [hbody] at h
        | type | imports | function | constants | inert =>
          rw [recoveries, hc, hrole] at h
          exact absurd rfl h

/-- The same for a whole tree. -/
theorem recoveredAt_of_recoveriesIn (h : n.recoveriesIn r a ≠ 0) : RecoveredAt r n a := by
  cases a with
  | nil => exact absurd rfl h
  | cons i a =>
    rw [recoveriesIn] at h
    cases hc : n.children[i]? with
    | none =>
      rw [hc] at h
      exact absurd rfl h
    | some c =>
      rw [hc] at h
      exact .of_child hc (recoveredAt_of_recoveries h)

end Node

namespace Extraction

/-- How often the nodes of a tree are read. -/
structure BoundedReadings (r : Reader) (tree : Node) : Prop where
  sourced : Sourced r tree
  /-- A node is read once, or once for every region that recovers a type and has it as a member; a
  constant is read once more, as a constant of the file. -/
  bound : ∀ a, timesRead (readings r tree) a ≤ max 1 (tree.recoveriesIn r a + tree.constantAt a)
  /-- Functions are never members. -/
  functions : ∀ a n, tree.at? a = some n → n.kind = "function_definition" →
    timesRead (readings r tree) a ≤ 1
  /-- Where no region recovers a type, every node is read at most once. -/
  once : (∀ n ∈ tree.preorder, n.kind = "ERROR" → n.recoversType r = false) →
    ∀ a, timesRead (readings r tree) a ≤ 1

theorem times_readings (r : Reader) (tree : Node) (a : Address) :
    timesRead (readings r tree) a ≤ max 1 (tree.recoveriesIn r a + tree.constantAt a) := by
  have hspread := (Walk.times_statementReadings r tree).2 {}
  cases a with
  | nil =>
    show timesRead (Walk.statementsReadings r [] tree.children {}) [] ≤ _
    rw [hspread.root]
    exact Nat.zero_le _
  | cons i a =>
    cases hc : tree.children[i]? with
    | none =>
      show timesRead (Walk.statementsReadings r [] tree.children {}) (i :: a) ≤ _
      rw [hspread.at_gap hc]
      exact Nat.zero_le _
    | some c =>
      have hrecoveries : tree.recoveriesIn r (i :: a) = c.recoveries r a := by
        rw [Node.recoveriesIn, hc]
        rfl
      rw [hrecoveries, Node.constantAt_cons hc]
      exact (hspread.at_position hc a).trans (c.limit_le r a)

/-- **No node of any tree is read more often than the regions around it allow.** -/
theorem boundedReadings_ofTree (r : Reader) (tree : Node) : BoundedReadings r tree where
  sourced := sourced_ofTree r tree
  bound := times_readings r tree
  functions a n hn hkind := by
    have hbound := times_readings r tree a
    have hconstant : tree.constantAt a = 0 := by
      unfold Node.constantAt
      rw [hn]
      simp [hkind]
    have hnone : tree.recoveriesIn r a = 0 := by
      by_contra hne
      obtain ⟨k, _, _, _, b, hmember, hat⟩ := Node.recoveredAt_of_recoveriesIn hne
      obtain ⟨m, hm, hkinds⟩ := Node.kind_of_isMember hmember
      rw [hat, hn] at hm
      rw [← Option.some.inj hm, hkind] at hkinds
      exact absurd hkinds (by decide)
    omega
  once hregions a := by
    have hbound := times_readings r tree a
    have hconstant : tree.constantAt a ≤ 1 := by
      unfold Node.constantAt
      split <;> omega
    have hnone : tree.recoveriesIn r a = 0 := by
      by_contra hne
      obtain ⟨k, hk, hkind, htype, _⟩ := Node.recoveredAt_of_recoveriesIn hne
      rw [hregions k hk hkind] at htype
      exact nomatch htype
    omega

/-- A file that breaks off in a class. -/
def brokenReader : Reader :=
  ⟨"src/Test.php", "<?php\nclass A \x7b const int X = 1; public const".toList, false⟩

/-- The tree of that file: all of the class is one region. -/
def brokenTree : Node :=
  .mk ⟨"program", true, false, "", 0, 45, 0, 1⟩ [
    .mk ⟨"php_tag", true, false, "", 0, 5, 0, 0⟩ [],
    .mk ⟨"ERROR", true, false, "", 6, 45, 1, 1⟩ [
      .mk ⟨"class", false, false, "", 6, 11, 1, 1⟩ [],
      .mk ⟨"name", true, false, "", 12, 13, 1, 1⟩ [],
      .mk ⟨"\x7b", false, false, "", 14, 15, 1, 1⟩ [],
      .mk ⟨"const_declaration", true, false, "", 16, 32, 1, 1⟩ [
        .mk ⟨"const", false, false, "", 16, 21, 1, 1⟩ [],
        .mk ⟨"primitive_type", true, false, "type", 22, 25, 1, 1⟩ [
          .mk ⟨"int", false, false, "", 22, 25, 1, 1⟩ []],
        .mk ⟨"const_element", true, false, "", 26, 31, 1, 1⟩ [
          .mk ⟨"name", true, false, "", 26, 27, 1, 1⟩ [],
          .mk ⟨"=", false, false, "", 28, 29, 1, 1⟩ [],
          .mk ⟨"integer", true, false, "", 30, 31, 1, 1⟩ []],
        .mk ⟨";", false, false, "", 31, 32, 1, 1⟩ []],
      .mk ⟨"visibility_modifier", true, false, "", 33, 39, 1, 1⟩ [
        .mk ⟨"public", false, false, "", 33, 39, 1, 1⟩ []],
      .mk ⟨"const", false, false, "", 40, 45, 1, 1⟩ []]]

/-- Its one constant is read twice: in the file, and in the class that is recovered around it. -/
theorem twice_read_constant :
    (ofTree brokenReader brokenTree).declarations.map (fun d => (d.qualifiedName, d.parent)) =
        [("X", none), ("A", none), ("A.X", some "A")] ∧
      (brokenTree.at? [1, 3, 2]).map (·.kind) = some "const_element" ∧
      timesRead (readings brokenReader brokenTree) [1, 3, 2] = 2 ∧
      brokenTree.recoveriesIn brokenReader [1, 3, 2] = 1 := by
  decide +kernel

end Extraction
end CodeAtlas
