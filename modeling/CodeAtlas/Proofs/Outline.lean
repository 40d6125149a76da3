/-
  CodeAtlas.Proofs.Outline — the shape of the table of contents.

  The entry of a declaration is followed by the entries of its members, and these by theirs.
  Nothing stops this on the way down but the members running out, and parents may run in a circle.
  A circle is never entered, though: a declaration has one parent, so whoever stands on a circle has
  no way up that ends, and nobody outside of it for a child of whom it could be listed.

  Main results:
    * `acc_of_lineage` — going down from a declaration with a lineage comes to an end.
    * `heads_children` — an entry is followed by ALL members of its declaration; the bound on the
      depth cuts nothing off.
    * `tabulates_ofModel` — what the table of any model lists, in which order and under which
      labels.
-/
import Mathlib.Data.List.Basic
import CodeAtlas.Proofs.Assembly
import CodeAtlas.Proofs.Contents
import CodeAtlas.Proofs.GuideSections

namespace CodeAtlas.Contents

/-! ## §1. Going through a table -/

namespace Entry

mutual

/-- An entry and all entries below it, in the order of the table. -/
def all : Entry → List Entry
  | mk l t cs => mk l t cs :: allOf cs

/-- All entries of several tables. -/
def allOf : List Entry → List Entry
  | [] => []
  | e :: rest => all e ++ allOf rest

end

/-- The line that an entry takes in the table: its label and what it points at. -/
def head (e : Entry) : String × Target := (e.label, e.target)

/-- Induction from the children of an entry to the entry. -/
@[elab_as_elim]
theorem induction_children {P : Entry → Prop}
    (node : ∀ e : Entry, (∀ c ∈ e.children, P c) → P e) (e : Entry) : P e := by
  match e with
  | .mk l t cs =>
    apply node
    intro c hc
    have hchild : c ∈ cs := hc
    exact induction_children node c
termination_by e
decreasing_by
  have hsmaller := List.sizeOf_lt_of_mem hchild
  rw [Entry.mk.sizeOf_spec]
  omega

theorem allOf_eq (es : List Entry) : allOf es = es.flatMap all := by
  induction es with
  | nil => unfold allOf; rfl
  | cons e rest ih => unfold allOf; rw [ih, List.flatMap_cons]

theorem all_eq (e : Entry) : e.all = e :: e.children.flatMap all := by
  cases e with
  | mk l t cs =>
    rw [all, allOf_eq]
    rfl

theorem mem_all_iff {e k : Entry} : k ∈ e.all ↔ k = e ∨ ∃ c ∈ e.children, k ∈ c.all := by
  rw [all_eq, List.mem_cons, List.mem_flatMap]

/-- The declarations of a table are the targets of its entries. -/
theorem names_eq (e : Entry) : e.names = e.all.filterMap (·.target.name?) := by
  induction e using induction_children with
  | node e ih =>
    cases e with
    | mk l t cs =>
      rw [names, namesAll_eq, all_eq, List.filterMap_cons, List.filterMap_flatMap]
      have hbelow : cs.flatMap names = cs.flatMap fun c => c.all.filterMap (·.target.name?) :=
        List.flatMap_congr ih
      rw [hbelow]
      cases t <;> rfl

theorem mem_names_iff {e : Entry} {q : String} :
    q ∈ e.names ↔ ∃ k ∈ e.all, k.target = .declaration q := by
  have hname : ∀ t : Target, t.name? = some q ↔ t = .declaration q := by
    intro t
    cases t <;> simp [Target.name?]
  rw [names_eq, List.mem_filterMap]
  simp only [hname]

theorem findAmong?_eq (goal : Target) (es : List Entry) :
    findAmong? goal es = es.findSome? (find? goal) := by
  induction es with
  | nil => rw [findAmong?, List.findSome?_nil]
  | cons e rest ih =>
    rw [findAmong?, ih, List.findSome?_cons]
    cases find? goal e <;> rfl

/-- What is found is an entry of the table with the target. -/
theorem of_find? {goal : Target} {e k : Entry} (h : e.find? goal = some k) :
    k ∈ e.all ∧ k.target = goal := by
  induction e using induction_children with
  | node e ih =>
    cases e with
    | mk l t cs =>
      rw [find?] at h
      split at h
      next htarget =>
        rw [← Option.some.inj h]
        exact ⟨mem_all_iff.mpr (.inl rfl), htarget⟩
      next =>
        rw [findAmong?_eq] at h
        obtain ⟨c, hc, hk⟩ := List.exists_of_findSome?_eq_some h
        obtain ⟨hall, htarget⟩ := ih c hc hk
        exact ⟨mem_all_iff.mpr (.inr ⟨c, hc, hall⟩), htarget⟩

/-- A target that some entry has is found. -/
theorem isSome_find? {goal : Target} {e k : Entry} (hk : k ∈ e.all) (htarget : k.target = goal) :
    (e.find? goal).isSome = true := by
  induction e using induction_children with
  | node e ih =>
    cases e with
    | mk l t cs =>
      rw [find?]
      split
      next => rfl
      next hne =>
        rcases mem_all_iff.mp hk with rfl | ⟨c, hc, hbelow⟩
        · exact absurd htarget hne
        · rw [findAmong?_eq, List.findSome?_isSome_iff]
          exact ⟨c, hc, ih c hc hbelow⟩

/-- **Searching finds exactly what is listed.** -/
theorem isSome_find?_iff {e : Entry} {q : String} :
    (e.find? (.declaration q)).isSome = true ↔ q ∈ e.names := by
  rw [mem_names_iff]
  constructor
  · intro h
    obtain ⟨k, hk⟩ := Option.isSome_iff_exists.mp h
    exact ⟨k, of_find? hk⟩
  · rintro ⟨k, hk, htarget⟩
    exact isSome_find? hk htarget

theorem countAll_eq {es : List Entry} (h : ∀ e ∈ es, e.count = e.all.length) :
    countAll es = (es.flatMap all).length := by
  induction es with
  | nil => rw [countAll, List.flatMap_nil, List.length_nil]
  | cons e rest ih =>
    rw [countAll, h e List.mem_cons_self, ih fun c hc => h c (List.mem_cons_of_mem e hc),
      List.flatMap_cons, List.length_append]

theorem count_eq (e : Entry) : e.count = e.all.length := by
  induction e using induction_children with
  | node e ih =>
    rw [all_eq, List.length_cons]
    cases e with
    | mk l t cs =>
      have hbelow : countAll cs = (cs.flatMap all).length := countAll_eq ih
      rw [count, hbelow, Nat.add_comm]
      rfl

end Entry

/-! ## §2. Going down from a declaration -/

variable {m : Model}

/-- A lineage through a member of a declaration is longer by one, and still no longer than the
model. -/
theorem length_lt_of_member (keyed : m.Keyed) {n : String} {d e : Declaration}
    {l : List Declaration} (hd : m.get? n = some d) (hl : m.Lineage d l)
    (he : m.get? e.qualifiedName = some e) (hp : e.parent = some n) :
    l.length < m.declarations.size := by
  have hlen := (Model.Lineage.step hp hd hl).length_le keyed he
  rw [List.length_cons] at hlen
  omega

/-- **Going down comes to an end**, wherever the way up does. -/
theorem acc_of_lineage (keyed : m.Keyed) {n : String} {d : Declaration} {l : List Declaration}
    (hd : m.get? n = some d) (hl : m.Lineage d l) : Acc (fun c p => m.ParentOf p c) n := by
  -- the lineages of members get longer, and `room` is how much longer they can get
  obtain ⟨room, hroom⟩ : ∃ room, m.declarations.size ≤ room + l.length :=
    ⟨m.declarations.size, Nat.le_add_right _ _⟩
  induction room generalizing n d l with
  | zero =>
    constructor
    rintro c ⟨e, he, hp⟩
    have hlt := length_lt_of_member keyed hd hl (by rw [keyed he]; exact he) hp
    omega
  | succ room ih =>
    constructor
    rintro c ⟨e, he, hp⟩
    apply ih he (.step hp hd hl)
    rw [List.length_cons]
    omega

/-- **An entry is followed by all members of its declaration**, if the depth is at least what the
model leaves below it. -/
theorem heads_children (keyed : m.Keyed) (depth : Nat) (top : Bool) {n : String} {d : Declaration}
    {l : List Declaration} (hd : m.get? n = some d) (hl : m.Lineage d l)
    (room : m.declarations.size ≤ depth + l.length) {k : Entry}
    (hk : k ∈ (entryOf m depth top n).all) {q : String} (hq : k.target = .declaration q) :
    k.children.map Entry.head =
      (m.membersOf q).map fun d => (d.name, Target.declaration d.qualifiedName) := by
  induction depth generalizing top n d l with
  | zero =>
    -- there is no room for a member
    have hnone : m.membersOf n = [] := by
      rw [List.eq_nil_iff_forall_not_mem]
      intro e he
      obtain ⟨hget, hp⟩ := (mem_membersOf keyed).mp he
      have hlt := length_lt_of_member keyed hd hl hget hp
      omega
    rcases Entry.mem_all_iff.mp hk with rfl | ⟨c, hc, _⟩
    · rw [← Target.declaration.inj hq, hnone]
      rfl
    · exact absurd hc (by simp [entryOf, Entry.children])
  | succ depth ih =>
    rcases Entry.mem_all_iff.mp hk with rfl | ⟨c, hc, hbelow⟩
    · rw [← Target.declaration.inj hq]
      show ((m.membersOf n).map _).map Entry.head = _
      rw [List.map_map]
      apply List.map_congr_left
      intro e he
      have hget := ((mem_membersOf keyed).mp he).1
      have hlabel : declarationLabel m false e.qualifiedName = e.name := by
        unfold declarationLabel
        rw [hget]
        rfl
      cases depth with
      | zero => exact Prod.ext hlabel rfl
      | succ depth => exact Prod.ext hlabel rfl
    · obtain ⟨e, he, rfl⟩ := List.mem_map.mp hc
      obtain ⟨hget, hp⟩ := (mem_membersOf keyed).mp he
      apply ih false hget (.step hp hd hl) _ hbelow
      rw [List.length_cons]
      omega

/-- Every entry of a declaration and its members points at a declaration. -/
theorem isSome_name?_of_mem_entryOf (depth : Nat) (top : Bool) (n : String) :
    ∀ k ∈ (entryOf m depth top n).all, k.target.name?.isSome = true := by
  induction depth generalizing top n with
  | zero =>
    intro k hk
    rcases Entry.mem_all_iff.mp hk with rfl | ⟨c, hc, _⟩
    · rfl
    · exact absurd hc (by simp [entryOf, Entry.children])
  | succ depth ih =>
    intro k hk
    rcases Entry.mem_all_iff.mp hk with rfl | ⟨c, hc, hbelow⟩
    · rfl
    · obtain ⟨e, _, rfl⟩ := List.mem_map.mp hc
      exact ih false _ k hbelow

/-! ## §3. Guides -/

/-- The entries of a guide point at no declaration. -/
theorem name?_of_mem_sectionEntries (depth : Nat) (dir : String) (pages : List Page) :
    ∀ e ∈ sectionEntries depth dir pages, ∀ k ∈ e.all, k.target.name? = none := by
  have hpages : ∀ pages, ∀ e ∈ pageEntries pages, ∀ k ∈ e.all, k.target.name? = none := by
    intro pages e he k hk
    obtain ⟨⟨file, path⟩, _, rfl⟩ := List.mem_map.mp he
    rcases Entry.mem_all_iff.mp hk with rfl | ⟨c, hc, _⟩
    · rfl
    · exact absurd hc (by simp [Entry.children])
  induction depth generalizing dir pages with
  | zero => exact hpages pages
  | succ depth ih =>
    intro e he k hk
    rcases List.mem_append.mp he with hsection | hpage
    · obtain ⟨name, _, rfl⟩ := List.mem_map.mp hsection
      rcases Entry.mem_all_iff.mp hk with rfl | ⟨c, hc, hbelow⟩
      · rfl
      · exact ih _ _ c hc k hbelow
    · exact hpages pages e hpage k hk

/-- The section that a guide adds to a table. -/
def guideSections (guide : Option (List String)) : List Entry :=
  guide.toList.map fun pages => .mk guideHeading (.guideSection "") (entriesOfPages pages)

theorem ofModel_eq (m : Model) (guide : Option (List String)) :
    ofModel m guide = .mk m.sourceRoot .root (declarationEntries m ++ guideSections guide) := by
  cases guide <;> rfl

theorem name?_of_mem_guideSections {guide : Option (List String)} {e k : Entry}
    (he : e ∈ guideSections guide) (hk : k ∈ e.all) : k.target.name? = none := by
  obtain ⟨pages, _, rfl⟩ := List.mem_map.mp he
  rcases Entry.mem_all_iff.mp hk with rfl | ⟨c, hc, hbelow⟩
  · rfl
  · have hentry : c ∈ entriesOfPages pages := hc
    rw [entriesOfPages_eq] at hentry
    exact name?_of_mem_sectionEntries _ _ _ c hentry k hbelow

/-! ## §4. The whole table -/

theorem names_ofModel (m : Model) (guide : Option (List String)) :
    (ofModel m guide).names = Entry.namesAll (declarationEntries m) := by
  have hguide : (guideSections guide).flatMap Entry.names = [] := by
    rw [List.flatMap_eq_nil_iff]
    intro e he
    rw [Entry.names_eq, List.filterMap_eq_nil_iff]
    exact fun k hk => name?_of_mem_guideSections he hk
  rw [ofModel_eq, Entry.names, Entry.namesAll_eq, Entry.namesAll_eq, List.flatMap_append, hguide,
    List.append_nil]
  rfl

/-- The way up from a name ends at a declaration without a parent. -/
def Reached (m : Model) (q : String) : Prop := ∃ d l, m.get? q = some d ∧ m.Lineage d l

/-- What a table of contents lists, in which order and under which labels. -/
structure Tabulates (m : Model) (t : Entry) : Prop where
  /-- Going down from a top-level declaration comes to an end. -/
  ends : ∀ d ∈ m.parentless, Acc (fun c p => m.ParentOf p c) d.qualifiedName
  /-- The declarations listed are those from which the way up ends. -/
  listed : ∀ q, q ∈ t.names ↔ Reached m q
  /-- None is listed twice. -/
  once : t.names.Nodup
  /-- Searching finds those and no others. -/
  found : ∀ q, (t.find? (.declaration q)).isSome = true ↔ Reached m q
  /-- What is found is an entry of the declaration. -/
  sound : ∀ q k, t.find? (.declaration q) = some k → k ∈ t.all ∧ k.target = .declaration q
  /-- At top level stand the declarations without a parent, under their qualified names. -/
  top : (t.children.filter (·.target.name?.isSome)).map Entry.head =
    m.parentless.map fun d => (d.qualifiedName, .declaration d.qualifiedName)
  /-- Below a declaration stand its members, under their own names. -/
  below : ∀ k ∈ t.all, ∀ q, k.target = .declaration q → k.children.map Entry.head =
    (m.membersOf q).map fun d => (d.name, .declaration d.qualifiedName)
  /-- Both are in the order of qualified names. -/
  topOrder : (m.parentless.map (·.qualifiedName)).Pairwise (· < ·)
  belowOrder : ∀ q, ((m.membersOf q).map (·.qualifiedName)).Pairwise (· < ·)

theorem heads_top (m : Model) (guide : Option (List String)) :
    ((ofModel m guide).children.filter (·.target.name?.isSome)).map Entry.head =
      m.parentless.map fun d => (d.qualifiedName, .declaration d.qualifiedName) := by
  have hguide : (guideSections guide).filter (·.target.name?.isSome) = [] := by
    rw [List.filter_eq_nil_iff]
    intro e he
    simp [name?_of_mem_guideSections he (Entry.mem_all_iff.mpr (.inl rfl))]
  have hentries : (declarationEntries m).filter (·.target.name?.isSome) = declarationEntries m := by
    rw [List.filter_eq_self]
    intro e he
    obtain ⟨d, _, rfl⟩ := List.mem_map.mp he
    exact isSome_name?_of_mem_entryOf _ _ _ _ (Entry.mem_all_iff.mpr (.inl rfl))
  rw [ofModel_eq]
  show ((declarationEntries m ++ guideSections guide).filter _).map _ = _
  rw [List.filter_append, hguide, hentries, List.append_nil]
  unfold declarationEntries
  rw [List.map_map]
  apply List.map_congr_left
  intro d hd
  cases m.declarations.size <;> rfl

section Keyed

variable (keyed : m.Keyed)
include keyed

theorem increasing_filter_values (p : Declaration → Bool) :
    ((m.declarations.values.filter p).map (·.qualifiedName)).Pairwise (· < ·) :=
  List.pairwise_map.mpr ((Model.increasing_values keyed).filter p)

theorem lineage_of_mem_parentless {d : Declaration} (hd : d ∈ m.parentless) :
    m.get? d.qualifiedName = some d ∧ m.Lineage d [d] := by
  obtain ⟨hvalue, htop⟩ := List.mem_filter.mp hd
  exact ⟨(Model.mem_values_iff keyed).mp hvalue, .root (by simpa using htop)⟩

theorem heads_below (guide : Option (List String)) {k : Entry} (hk : k ∈ (ofModel m guide).all)
    {q : String} (hq : k.target = .declaration q) : k.children.map Entry.head =
      (m.membersOf q).map fun d => (d.name, .declaration d.qualifiedName) := by
  rw [ofModel_eq] at hk
  rcases Entry.mem_all_iff.mp hk with rfl | ⟨c, hc, hbelow⟩
  · exact absurd hq (by simp [Entry.target])
  · rcases List.mem_append.mp hc with hentry | hguide
    · obtain ⟨d, hd, rfl⟩ := List.mem_map.mp hentry
      obtain ⟨hget, hl⟩ := lineage_of_mem_parentless keyed hd
      exact heads_children keyed _ true hget hl (Nat.le_add_right _ _) hbelow hq
    · have hnone := name?_of_mem_guideSections hguide hbelow
      rw [hq] at hnone
      exact absurd hnone (by simp [Target.name?])

end Keyed

/-- Without a guide every entry but the root is that of a declaration. -/
theorem count_ofModel (m : Model) : (ofModel m none).count = 1 + (ofModel m none).names.length := by
  have hall : (ofModel m none).all =
      ofModel m none :: (declarationEntries m).flatMap Entry.all := by
    rw [Entry.all_eq]
    show _ :: (declarationEntries m ++ []).flatMap _ = _
    rw [List.append_nil]
  have hnames :
      (ofModel m none).names.length = ((declarationEntries m).flatMap Entry.all).length := by
    rw [Entry.names_eq, hall, List.filterMap_cons_none rfl, List.length_filterMap_eq_countP,
      List.countP_eq_length]
    intro k hk
    obtain ⟨e, he, hbelow⟩ := List.mem_flatMap.mp hk
    obtain ⟨d, _, rfl⟩ := List.mem_map.mp he
    exact isSome_name?_of_mem_entryOf _ _ _ k hbelow
  rw [Entry.count_eq, hnames, hall, List.length_cons, Nat.add_comm]

/-- **The table of contents of any model whose declarations are stored under their own names**, with
parents that may be unknown or run in a circle; and the size of the table of a model from
assembly. -/
theorem tabulates_ofModel :
    (∀ (m : Model) (guide : Option (List String)), m.Keyed → Tabulates m (ofModel m guide)) ∧
      ∀ (root : String) (units : List ParsedUnit),
        (ofModel (Model.ofUnits root units).1 none).count =
          1 + (Model.ofUnits root units).1.declarations.size := by
  constructor
  · intro m guide keyed
    have listed : ∀ q, q ∈ (ofModel m guide).names ↔ Reached m q := by
      intro q
      rw [names_ofModel]
      exact mem_names_declarationEntries keyed q
    constructor
    case ends =>
      intro d hd
      obtain ⟨hget, hl⟩ := lineage_of_mem_parentless keyed hd
      exact acc_of_lineage keyed hget hl
    case listed => exact listed
    case once =>
      rw [names_ofModel]
      exact nodup_names_declarationEntries keyed
    case found =>
      intro q
      rw [Entry.isSome_find?_iff]
      exact listed q
    case sound => exact fun q k hk => Entry.of_find? hk
    case top => exact heads_top m guide
    case below => exact fun k hk q hq => heads_below keyed guide hk hq
    case topOrder => exact increasing_filter_values keyed _
    case belowOrder => exact fun q => increasing_filter_values keyed _
  · intro root units
    have hperm := names_ofModel_perm (Model.keyed_ofUnits root units)
      fun _ _ hd => Model.lineage_ofUnits root units hd
    rw [count_ofModel, hperm.length_eq, Table.length_keys]

/-- A class with a member, a declaration whose parent is unknown, and two that are each other's
parents. -/
def tangledModel : Model :=
  let declared (name qualified : String) (parent : Option String) : String × Declaration :=
    (qualified,
      { name := name, qualifiedName := qualified, kind := .member, construct := .constant
        parent := parent, documentation := "", signature := "", visibility := .publicAccess
        modifiers := [], filePath := "a.php", lineStart := 1, lineEnd := 1 })
  { sourceRoot := "src"
    declarations := Table.ofList
      [declared "A" "A" none, declared "x" "A.x" (some "A"), declared "D" "D" (some "Gone"),
        declared "P" "P" (some "Q"), declared "Q" "Q" (some "P")] }

/-- Only the class and its member are listed. -/
theorem tabulates_ofModel_tangled : tangledModel.Keyed ∧
    Tabulates tangledModel (ofModel tangledModel none) ∧
      (ofModel tangledModel none).names = ["A", "A.x"] := by
  have keyed : tangledModel.Keyed := by
    have hall : ∀ e ∈ tangledModel.declarations.toList, e.2.qualifiedName = e.1 := by decide +kernel
    intro n d hd
    exact hall (n, d) (Table.mem_toList_iff.mpr hd)
  exact ⟨keyed, tabulates_ofModel.1 tangledModel none keyed, by decide +kernel⟩

end CodeAtlas.Contents
