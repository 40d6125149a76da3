/-
  CodeAtlas.Proofs.Extraction.Multiplicity — how often types and regions read one node.

  Readings are counted by address.  The members of a body are read at the places of its items, each
  of them once.  A region is read at its loose keywords, and if one of these names a type, for the
  members of that type; the first type takes all members, so that this happens at most once.

  Main results:
    * `Spread` — the readings of several nodes, one after the other, are bounded node by node.
    * `spread_membersReadings` — every member of a body is read at most once.
    * `times_recoverReadings` — what a region reads at its keywords, and for members.
-/
import Mathlib.Data.List.Count
import Mathlib.Data.List.Nodup
import CodeAtlas.Proofs.Extraction.Origin

namespace CodeAtlas

/-! ## §1. Counting readings -/

/-- How many readings are taken at an address. -/
def timesRead (l : List Reading) (a : Address) : Nat := (l.map (·.place)).count a

theorem timesRead_nil (a : Address) : timesRead [] a = 0 := rfl

theorem timesRead_append (l l' : List Reading) (a : Address) :
    timesRead (l ++ l') a = timesRead l a + timesRead l' a := by
  unfold timesRead
  rw [List.map_append, List.count_append]

theorem timesRead_cons (b : Address) (d : Declaration) (l : List Reading) (a : Address) :
    timesRead (⟨b, d⟩ :: l) a = timesRead l a + if b = a then 1 else 0 := by
  unfold timesRead
  rw [List.map_cons, List.count_cons]
  simp only [beq_iff_eq]

theorem timesRead_eq_zero {l : List Reading} {a : Address} (h : ∀ e ∈ l, e.place ≠ a) :
    timesRead l a = 0 := by
  apply List.count_eq_zero.mpr
  intro hmem
  obtain ⟨e, he, hplace⟩ := List.mem_map.mp hmem
  exact h e he hplace

/-- Readings below a position have addresses that start with it. -/
theorem timesRead_below_ne {l : List Reading} {i : Nat} {a : Address}
    (h : ∀ b, a ≠ i :: b) : timesRead (l.map (·.below [i])) a = 0 := by
  apply timesRead_eq_zero
  intro e he hplace
  obtain ⟨e', _, rfl⟩ := List.mem_map.mp he
  exact h e'.place hplace.symm

theorem timesRead_below (l : List Reading) (i : Nat) (a : Address) :
    timesRead (l.map (·.below [i])) (i :: a) = timesRead l a := by
  unfold timesRead
  have hplaces : (l.map (·.below [i])).map (·.place) = (l.map (·.place)).map (i :: ·) := by
    rw [List.map_map, List.map_map]
    rfl
  rw [hplaces]
  exact List.count_map_of_injective _ _ (fun _ _ h => (List.cons.inj h).2) a

theorem timesRead_below_le {l : List Reading} {bound : Nat} (h : ∀ a, timesRead l a ≤ bound)
    (j : Nat) (a : Address) : timesRead (l.map (·.below [j])) a ≤ bound := by
  by_cases ha : ∃ b, a = j :: b
  · obtain ⟨b, rfl⟩ := ha
    rw [timesRead_below]
    exact h b
  · rw [timesRead_below_ne fun b hb => ha ⟨b, hb⟩]
    exact Nat.zero_le bound

/-- The readings `l` of nodes that stand at the positions from `k` on: at each of them the readings
are bounded by `limit`, and elsewhere there are none. -/
structure Spread (limit : Node → Address → Nat) (k : Nat) (ns : List Node) (l : List Reading) :
    Prop where
  root : timesRead l [] = 0
  front : ∀ i a, i < k → timesRead l (i :: a) = 0
  each : ∀ i a, timesRead l ((k + i) :: a) ≤ (ns[i]?.map (limit · a)).getD 0

namespace Spread

variable {limit : Node → Address → Nat} {k : Nat} {n : Node} {ns : List Node} {l l' : List Reading}

theorem nil (limit : Node → Address → Nat) (k : Nat) : Spread limit k [] [] :=
  ⟨rfl, fun _ _ _ => rfl, fun _ _ => Nat.le_refl 0⟩

theorem cons (first : ∀ a, timesRead l a ≤ limit n a) (rest : Spread limit (k + 1) ns l') :
    Spread limit k (n :: ns) (l.map (·.below [k]) ++ l') where
  root := by
    rw [timesRead_append, rest.root, timesRead_below_ne (by simp)]
  front i a hi := by
    have hne : ∀ b, i :: a ≠ k :: b := by
      intro b hb
      have hik := (List.cons.inj hb).1
      omega
    rw [timesRead_append, timesRead_below_ne hne, rest.front i a (by omega)]
  each i a := by
    rw [timesRead_append]
    cases i with
    | zero =>
      have hrest : timesRead l' (k :: a) = 0 := rest.front k a (Nat.lt_succ_self k)
      show timesRead _ (k :: a) + timesRead l' (k :: a) ≤ limit n a
      rw [timesRead_below, hrest]
      exact first a
    | succ i =>
      have hne : ∀ b, (k + (i + 1)) :: a ≠ k :: b := by
        intro b hb
        have hik := (List.cons.inj hb).1
        omega
      have hrest := rest.each i a
      rw [Nat.add_right_comm, Nat.add_assoc] at hrest
      rw [timesRead_below_ne hne, Nat.zero_add]
      exact hrest

theorem at_position (h : Spread limit 0 ns l) {i : Nat} (hn : ns[i]? = some n) (a : Address) :
    timesRead l (i :: a) ≤ limit n a := by
  have hi := h.each i a
  rw [Nat.zero_add, hn] at hi
  exact hi

theorem at_gap (h : Spread limit 0 ns l) {i : Nat} (hn : ns[i]? = none) (a : Address) :
    timesRead l (i :: a) = 0 := by
  have hi := h.each i a
  rw [Nat.zero_add, hn] at hi
  exact Nat.le_zero.mp hi

/-- A bound for all nodes is a bound for all addresses. -/
theorem le (h : Spread limit 0 ns l) {bound : Nat} (hbound : ∀ n a, limit n a ≤ bound)
    (a : Address) : timesRead l a ≤ bound := by
  cases a with
  | nil =>
    rw [h.root]
    exact Nat.zero_le bound
  | cons i a =>
    cases hn : ns[i]? with
    | none =>
      rw [h.at_gap hn]
      exact Nat.zero_le bound
    | some n => exact (h.at_position hn a).trans (hbound n a)

end Spread

/-! ## §2. Members -/

/-- Whether a loose keyword names a type. -/
def Setting.Loose.startsType (r : Reader) (l : Loose) : Bool :=
  ["class", "interface", "trait", "enum"].contains l.token.kind && !l.followsScope &&
    (l.nameNode?.bind r.identifier?).isSome

namespace Node

/-- Whether a node, as an item of a body, declares a member at an address. -/
def isMember : Node → Address → Bool
  | n, [] => n.kind == "method_declaration" || n.kind == "enum_case"
  | n, i :: a =>
    n.children[i]?.any fun c =>
      if n.kind = "ERROR" then c.isMember a
      else
        a.isEmpty && ((n.kind == "property_declaration" && c.kind == "property_element") ||
          (n.kind == "const_declaration" && c.kind == "const_element"))

/-- Whether one of the nodes behind `before` is a loose keyword that names a type. -/
def startTypes (r : Reader) : List Node → List Node → Bool
  | _, [] => false
  | before, token :: after =>
    Setting.Loose.startsType r ⟨before, token, after⟩ || startTypes r (token :: before) after

/-- Whether a type may be recovered from the children of a region. -/
def recoversType (r : Reader) (n : Node) : Bool := startTypes r [] n.children

theorem isMember_region {n c : Node} {i : Nat} (hkind : n.kind = "ERROR")
    (hc : n.children[i]? = some c) (a : Address) :
    n.isMember (i :: a) = c.isMember a := by
  rw [isMember, hc]
  simp [hkind]

end Node

/-! ## §3. Reading members -/

namespace Setting

variable {s : Setting} {x : Extraction}

/-- What a step takes at a node is read there, and once. -/
theorem places_readHere {p : Declaration → Prop} {x y : Extraction} (h : x.Takes p y) :
    (x.readHere y).map (·.place) = [] ∨ (x.readHere y).map (·.place) = [[]] := by
  unfold Extraction.readHere
  rcases h with hsame | ⟨d, hone, _⟩
  · left
    rw [hsame, List.drop_length]
    rfl
  · right
    rw [hone, List.drop_left]
    rfl

theorem times_readHere {p : Declaration → Prop} {x y : Extraction} (h : x.Takes p y) (a : Address) :
    timesRead (x.readHere y) a ≤ if a = [] then 1 else 0 := by
  unfold timesRead
  rcases places_readHere h with hplaces | hplaces
  · rw [hplaces]
    exact Nat.zero_le _
  · rw [hplaces]
    cases a with
    | nil => exact Nat.le_refl 1
    | cons i a => exact Nat.le_refl 0

/-- A loop that reads every item where it stands, if at all, reads places that it comes by. -/
theorem places_loopReadings {step : Extraction → Node → Extraction}
    (takes : ∀ x c, ∃ p, Extraction.Takes p x (step x c)) (l : List (Address × Node))
    (x : Extraction) :
    List.Sublist ((loopReadings step (fun x c => x.readHere (step x c)) l x).map (·.place))
      (l.map (·.1)) := by
  induction l generalizing x with
  | nil => exact List.Sublist.refl _
  | cons p rest ih =>
    rw [loopReadings, List.map_append, List.map_cons]
    have hrest := ih (step x p.2)
    have hbelow : ((x.readHere (step x p.2)).map (·.below p.1)).map (·.place) =
        ((x.readHere (step x p.2)).map (·.place)).map (p.1 ++ ·) := by
      rw [List.map_map, List.map_map]
      rfl
    obtain ⟨q, hq⟩ := takes x p.2
    rw [hbelow]
    rcases places_readHere hq with hplaces | hplaces
    · rw [hplaces]
      exact hrest.cons p.1
    · rw [hplaces, List.map_singleton, List.append_nil]
      exact hrest.cons_cons p.1

theorem nodup_placedChildren (kind : String) (n : Node) :
    ((n.placedChildren kind).map (·.1)).Nodup := by
  unfold Node.placedChildren
  have hpositions : ((n.children.zipIdx.filter (·.1.kind == kind)).map (·.2)).Nodup := by
    apply List.Nodup.sublist (List.filter_sublist.map _)
    rw [List.zipIdx_map_snd]
    exact List.nodup_range'
  have hplaces : ((n.children.zipIdx.filter (·.1.kind == kind)).map (·.2)).map (fun i => [i]) =
      ((n.children.zipIdx.filter (·.1.kind == kind)).map fun c => ([c.2], c.1)).map (·.1) := by
    rw [List.map_map, List.map_map]
    rfl
  rw [← hplaces]
  exact List.Nodup.map (fun _ _ h => (List.cons.inj h).1) hpositions

/-- The elements of a declaration are read once, at their positions. -/
theorem times_elementReadings {kind : String} {n : Node}
    {step : Visibility → Extraction → Node → Extraction}
    (takes : ∀ v x c, ∃ p, Extraction.Takes p x (step v x c)) (x : Extraction) (a : Address) :
    timesRead (s.elementReadings kind n step x) a ≤ 1 ∧
      (timesRead (s.elementReadings kind n step x) a ≠ 0 →
        ∃ i c, a = [i] ∧ n.children[i]? = some c ∧ c.kind = kind) := by
  unfold elementReadings
  dsimp only
  split
  next =>
    have hsub := places_loopReadings (takes (s.reader.visibility n.children))
      (n.placedChildren kind) x
    constructor
    · exact (hsub.count_le a).trans (List.nodup_iff_count_le_one.mp (nodup_placedChildren kind n) a)
    · intro hread
      have hmem := hsub.subset (List.count_pos_iff.mp (Nat.pos_of_ne_zero hread))
      obtain ⟨p, hp, rfl⟩ := List.mem_map.mp hmem
      obtain ⟨i, hi, hget, hkind⟩ := of_mem_placedChildren hp
      exact ⟨i, p.2, hi, hget, hkind⟩
  next => exact ⟨Nat.zero_le _, fun h => absurd rfl h⟩

theorem times_constantReadings (container : Option String) (site : Site) (x : Extraction)
    (a : Address) : timesRead (s.constantReadings container site x) a ≤ 1 ∧
      (timesRead (s.constantReadings container site x) a ≠ 0 →
        ∃ i c, a = [i] ∧ site.node.children[i]? = some c ∧ c.kind = "const_element") :=
  times_elementReadings (fun v _ c => ⟨_, takes_constant container site v c⟩) x a

/-- An item is read once, where it declares a member. -/
theorem times_memberReadings (container : String) (x : Extraction) (site : Site) (a : Address) :
    timesRead (s.memberReadings container x site) a ≤ if site.node.isMember a then 1 else 0 := by
  -- elements of a kind that makes members in an item of this kind
  have helements : ∀ {kind : String} {step : Visibility → Extraction → Node → Extraction},
      (∀ v x c, ∃ p, Extraction.Takes p x (step v x c)) →
      (∀ i c, site.node.children[i]? = some c → c.kind = kind → site.node.isMember [i] = true) →
      timesRead (s.elementReadings kind site.node step x) a ≤
        if site.node.isMember a then 1 else 0 := by
    intro kind step takes hmember
    have honce : timesRead (s.elementReadings kind site.node step x) a ≤ 1 :=
      (times_elementReadings takes x a).1
    by_cases hread : timesRead (s.elementReadings kind site.node step x) a = 0
    · omega
    · obtain ⟨i, c, rfl, hget, hkind⟩ := (times_elementReadings takes x a).2 hread
      rw [if_pos (hmember i c hget hkind)]
      exact honce
  unfold memberReadings
  split
  next hkind =>
    refine (times_readHere (takes_callable (some container) .method site) a).trans ?_
    cases a with
    | nil => simp [Node.isMember, hkind]
    | cons i a => exact Nat.zero_le _
  next hkind =>
    apply helements fun v x c => ⟨_, takes_property container site v c⟩
    intro i c hget hc
    simp [Node.isMember, hget, hkind, hc]
  next hkind =>
    apply helements fun v x c => ⟨_, takes_constant (some container) site v c⟩
    intro i c hget hc
    simp [Node.isMember, hget, hkind, hc]
  next hkind =>
    refine (times_readHere (takes_enumCase container site) a).trans ?_
    cases a with
    | nil => simp [Node.isMember, hkind]
    | cons i a => exact Nat.zero_le _
  next => exact Nat.zero_le _

section Loops

variable {α : Type} {step : Extraction → α → Extraction} {read : Extraction → α → List Reading}

theorem loopReadings_append (l l' : List (Address × α)) (x : Extraction) :
    loopReadings step read (l ++ l') x =
      loopReadings step read l x ++ loopReadings step read l' ((l.map (·.2)).foldl step x) := by
  induction l generalizing x with
  | nil => rfl
  | cons p rest ih =>
    rw [List.cons_append, loopReadings, loopReadings, ih, List.append_assoc]
    rfl

/-- Items that lie further down are read further down. -/
theorem loopReadings_below (i : Nat) (l : List (Address × α)) (x : Extraction) :
    loopReadings step read (l.map fun p => (i :: p.1, p.2)) x =
      (loopReadings step read l x).map (·.below [i]) := by
  induction l generalizing x with
  | nil => rfl
  | cons p rest ih =>
    rw [List.map_cons, loopReadings, loopReadings, ih, List.map_append, List.map_map]
    rfl

end Loops

/-- One at the addresses where a node declares a member as an item. -/
def memberLimit (n : Node) (a : Address) : Nat := if n.isMember a then 1 else 0

theorem memberLimit_le (n : Node) (a : Address) : memberLimit n a ≤ 1 := by
  unfold memberLimit
  split <;> omega

theorem spread_placedSites (container : String) (before ns : List Node) (x : Extraction)
    (each : ∀ n ∈ ns, ∀ before x a, timesRead (loopReadings (s.member container)
      (s.memberReadings container) (placedSite before n) x) a ≤ memberLimit n a) :
    Spread memberLimit before.length ns (loopReadings (s.member container)
      (s.memberReadings container) (placedSites before ns) x) := by
  induction ns generalizing before x with
  | nil =>
    unfold placedSites
    exact .nil _ _
  | cons n rest ih =>
    unfold placedSites
    rw [loopReadings_append, loopReadings_below]
    apply Spread.cons (each n List.mem_cons_self before x)
    exact ih (n :: before) _ fun c hc => each c (List.mem_cons_of_mem n hc)

/-- An item, or the items of a region in its place. -/
theorem times_placedSite (container : String) (n : Node) (before : List Node) (x : Extraction)
    (a : Address) : timesRead (loopReadings (s.member container) (s.memberReadings container)
      (placedSite before n) x) a ≤ memberLimit n a := by
  induction n using Node.induction_children generalizing before x a with
  | node n ih =>
    obtain ⟨tag, children⟩ := n
    unfold placedSite
    by_cases hkind : (tag.kind == "ERROR") = true
    · rw [if_pos hkind]
      have hregion : (Node.mk tag children).kind = "ERROR" := beq_iff_eq.mp hkind
      have hspread : Spread memberLimit 0 children _ :=
        spread_placedSites (s := s) container [] children x fun c hc => ih c hc
      cases a with
      | nil =>
        rw [hspread.root]
        exact Nat.zero_le _
      | cons i a =>
        cases hc : children[i]? with
        | none =>
          rw [hspread.at_gap hc]
          exact Nat.zero_le _
        | some c =>
          unfold memberLimit
          rw [Node.isMember_region hregion hc]
          exact hspread.at_position hc a
    · rw [if_neg hkind]
      have hitem := times_memberReadings (s := s) container x ⟨before, .mk tag children⟩ a
      have hbelow : ∀ l : List Reading, l.map (·.below []) = l := fun l => List.map_id l
      rw [loopReadings, loopReadings, List.append_nil, hbelow]
      exact hitem

theorem spread_membersReadings (container : String) (body : List Node) (x : Extraction) :
    Spread memberLimit 0 body (s.membersReadings container body x) :=
  spread_placedSites container [] body x fun n _ before x a =>
    times_placedSite container n before x a

/-! ## §4. Reading regions -/

/-- The words that declare something where they stand loose. -/
def isKeyword (kind : String) : Bool :=
  ["class", "interface", "trait", "enum", "function"].contains kind

theorem isKeyword_of_looseConstruct? {kind : String} {container : Option String}
    {construct : Construct} (h : looseConstruct? kind container = some construct) :
    isKeyword kind = true := by
  unfold looseConstruct? at h
  split at h
  all_goals first | rfl | exact nomatch h

theorem role_of_isKeyword {kind : String} (h : isKeyword kind = true) :
    Role.ofKind kind = .passage := by
  simp only [isKeyword, List.contains_cons, List.contains_nil, Bool.or_false, Bool.or_eq_true,
    beq_iff_eq] at h
  rcases h with rfl | rfl | rfl | rfl | rfl <;> rfl

/-- One at a keyword. -/
def keywordLimit (n : Node) : Address → Nat
  | [] => if isKeyword n.kind then 1 else 0
  | _ :: _ => 0

/-- What may be read at the keywords of a region from a position on. -/
def keywordsFrom (region : List Node) (k i : Nat) (a : Address) : Nat :=
  if k ≤ i then (region[i]?.map (keywordLimit · a)).getD 0 else 0

/-- What may be read as members of a region, as long as a type can take them. -/
def membersIf (takes : Bool) (region : List Node) (i : Nat) (a : Address) : Nat :=
  if takes then (region[i]?.map (memberLimit · a)).getD 0 else 0

theorem keywordsFrom_succ_le (region : List Node) (k i : Nat) (a : Address) :
    keywordsFrom region (k + 1) i a ≤ keywordsFrom region k i a := by
  unfold keywordsFrom
  split_ifs <;> omega

/-- A keyword makes room for one reading, at its own place. -/
theorem keywordsFrom_succ_add {region : List Node} {token : Node} {k : Nat}
    (hget : region[k]? = some token) (hword : isKeyword token.kind = true) (i : Nat) (a : Address) :
    keywordsFrom region (k + 1) i a + (if [k] = i :: a then 1 else 0) ≤
      keywordsFrom region k i a := by
  by_cases hplace : [k] = i :: a
  · obtain ⟨rfl, rfl⟩ := List.cons.inj hplace
    have hbehind : keywordsFrom region (k + 1) k [] = 0 := if_neg (by omega)
    have hhere : keywordsFrom region k k [] = 1 := by
      unfold keywordsFrom keywordLimit
      rw [if_pos (Nat.le_refl k), hget]
      simp [hword]
    rw [hbehind, hhere, if_pos rfl]
  · rw [if_neg hplace]
    exact keywordsFrom_succ_le region k i a

theorem membersIf_mono {takes takes' : Bool} (h : takes = true → takes' = true)
    (region : List Node) (i : Nat) (a : Address) :
    membersIf takes region i a ≤ membersIf takes' region i a := by
  cases htakes : takes with
  | false => exact Nat.zero_le _
  | true =>
    rw [h htakes]

/-- Only the keywords of types stand for types. -/
theorem typeWord_of_looseConstruct? {kind : String} {container : Option String}
    {construct : Construct} (h : looseConstruct? kind container = some construct)
    (htype : construct.kind = .type) :
    ["class", "interface", "trait", "enum"].contains kind = true := by
  unfold looseConstruct? at h
  split at h
  · rfl
  · rfl
  · rfl
  · rfl
  · -- a function is no type, inside a container or not
    rw [← Option.some.inj h] at htype
    split at htype <;> exact absurd htype (by decide)
  · exact absurd h (by simp)

theorem startsType_of_loose? {endRow : Nat} {container : Option String} {l : Loose}
    {d : Declaration} (h : s.loose? endRow container l = some d) (htype : d.kind = .type) :
    l.startsType s.reader = true := by
  simp only [loose?, Option.bind_eq_bind, Option.bind_eq_some_iff] at h
  obtain ⟨construct, hconstruct, h⟩ := h
  simp only [Option.bind_none, Option.ite_none_left_eq_some, Option.bind_eq_some_iff,
    Option.ite_none_right_eq_some, Option.some.injEq] at h
  obtain ⟨hfollows, nameNode, hnode, name, hname, _, rfl⟩ := h
  have hword := typeWord_of_looseConstruct? hconstruct htype
  unfold Loose.startsType
  rw [hword, hnode, Option.bind_some, hname]
  simpa using hfollows

/-- **A region is read at its keywords once, and for members at most once**: the first type takes
them all, and behind it there is a container. -/
theorem times_recoverReadings (endRow : Nat) (region before after : List Node)
    (container : Option String) (x : Extraction) (split : region = before.reverse ++ after)
    (i : Nat) (a : Address) :
    timesRead (s.recoverReadings endRow region before after container x) (i :: a) ≤
      keywordsFrom region before.length i a +
        membersIf (container.isNone && Node.startTypes s.reader before after) region i a := by
  induction after generalizing before container x with
  | nil =>
    unfold recoverReadings
    exact Nat.zero_le _
  | cons token after ih =>
    have hnext : region = (token :: before).reverse ++ after := by
      rw [split, List.reverse_cons, List.append_assoc]
      rfl
    have hget : region[before.length]? = some token := by
      rw [split]
      exact Node.getElem?_reverse_append before after token
    have hlater : membersIf (container.isNone && Node.startTypes s.reader (token :: before) after)
        region i a ≤
        membersIf (container.isNone && Node.startTypes s.reader before (token :: after))
          region i a := by
      apply membersIf_mono
      intro h
      rw [Bool.and_eq_true] at h ⊢
      exact ⟨h.1, by rw [Node.startTypes, h.2, Bool.or_true]⟩
    have hskip := keywordsFrom_succ_le region before.length i a
    unfold recoverReadings
    cases hloose : s.loose? endRow container ⟨before, token, after⟩ with
    | none =>
      have hrest := ih (token :: before) container x hnext
      rw [List.length_cons] at hrest
      dsimp only
      omega
    | some d =>
      have hword : isKeyword token.kind = true :=
        isKeyword_of_looseConstruct? (construct_of_loose? hloose)
      have hroom := keywordsFrom_succ_add hget hword i a
      dsimp only
      generalize x.warn s.reader token.line _ = dropped
      generalize (x.push d).warn s.reader d.lineStart _ = kept
      by_cases htaken : x.declares d.qualifiedName = true
      · rw [if_pos htaken]
        have hrest := ih (token :: before) container dropped hnext
        rw [List.length_cons] at hrest
        omega
      · rw [if_neg htaken, timesRead_cons]
        by_cases hfirst : (decide (d.kind = .type) && container.isNone) = true
        · rw [if_pos hfirst, timesRead_append]
          rw [Bool.and_eq_true, decide_eq_true_eq] at hfirst
          have hstarts : Node.startTypes s.reader before (token :: after) = true := by
            rw [Node.startTypes, startsType_of_loose? hloose hfirst.1, Bool.true_or]
          -- from here on there is a container, so that no other type takes members
          have hrest := ih (token :: before) (some d.qualifiedName)
            (s.members d.qualifiedName region kept) hnext
          have hmembers : timesRead (s.membersReadings d.qualifiedName region kept) (i :: a) ≤
              membersIf (container.isNone && Node.startTypes s.reader before (token :: after))
                region i a := by
            rw [hfirst.2, hstarts]
            have hspread := spread_membersReadings (s := s) d.qualifiedName region kept
            have hi := hspread.each i a
            rw [Nat.zero_add] at hi
            exact hi
          have hclosed : membersIf ((some d.qualifiedName).isNone &&
              Node.startTypes s.reader (token :: before) after) region i a = 0 := rfl
          rw [List.length_cons, hclosed] at hrest
          omega
        · rw [if_neg hfirst]
          have hrest := ih (token :: before) container kept hnext
          rw [List.length_cons] at hrest
          omega

/-- A type is read at its own node once, and its members once. -/
theorem times_typeReadings (construct : Construct) (site : Site) (x : Extraction) (a : Address) :
    timesRead (s.typeReadings construct site x) a ≤ 1 := by
  unfold typeReadings
  cases s.reader.name? site.node with
  | none => exact Nat.zero_le _
  | some name =>
    dsimp only
    split
    next => exact Nat.zero_le _
    next =>
      rw [timesRead_cons]
      generalize (x.push _).mentionAll _ = y
      cases hbody : site.node.child? "body" with
      | none =>
        rw [bodyReadings_of_none hbody, timesRead_nil]
        split <;> omega
      | some body =>
        obtain ⟨j, hj, _⟩ := Node.exists_bodyIndex? hbody
        rw [bodyReadings_of_some hj hbody]
        have hmembers := (spread_membersReadings (s := s) (s.scope.qualify name) body.children y).le
          memberLimit_le
        have hbelow := timesRead_below_le hmembers j a
        -- the type itself stands above its body
        cases a with
        | nil => rw [timesRead_below_ne (by simp), if_pos rfl]
        | cons i a =>
          rw [if_neg (by simp)]
          exact hbelow

end Setting

end CodeAtlas
