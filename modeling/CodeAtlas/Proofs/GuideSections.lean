/-
  CodeAtlas.Proofs.GuideSections — the sections of a guide, grown page by page.

  The sections of a guide start empty, and each page is taken down through the sub-sections that its
  segments name.  What comes of this can be told without the order of the pages: a sub-section has
  grown from the pages whose first segment is its name, and a section lists its sub-sections by name
  and then its own pages.

  Main results:
    * `groups_add` — ONE page more goes to its group.
    * `groups_ofPages` — what has been gathered of ANY pages.
    * `entriesOfPages_eq` — the entries of a guide, by groups.
-/
import Mathlib.Data.List.Basic
import CodeAtlas.Contents
import CodeAtlas.Proofs.Loop
import CodeAtlas.Proofs.Order
import CodeAtlas.Proofs.Table

namespace CodeAtlas.Contents

/-! ## §1. Pages in groups -/

/-- A page below a section: the segments still to go, and its path in the guide. -/
structure Page where
  segments : List String
  path : String

/-- The sub-section that a page lies in. -/
def Page.first? (p : Page) : Option String :=
  match p.segments with
  | name :: _ :: _ => some name
  | _ => none

/-- The name and the path of a page that stands in the section itself. -/
def Page.file? (p : Page) : Option (String × String) :=
  match p.segments with
  | [file] => some (file, p.path)
  | _ => none

/-- The names of the sub-sections of some pages, in order. -/
def subsections (pages : List Page) : List String :=
  sortDistinct compare (pages.filterMap Page.first?)

/-- The pages of a sub-section. -/
def inside (name : String) (pages : List Page) : List Page :=
  pages.filterMap fun p =>
    match p.segments with
    | first :: second :: rest => if first = name then some ⟨second :: rest, p.path⟩ else none
    | _ => none

/-- The entries of the pages that stand in a section itself, by name. -/
def pageEntries (pages : List Page) : List Entry :=
  Section.pageEntries (pages.filterMap Page.file?)

/-- The entries of the section at `dir`, with at most `depth` levels of sub-sections. -/
def sectionEntries : Nat → String → List Page → List Entry
  | 0, _, pages => pageEntries pages
  | depth + 1, dir, pages =>
    let subs := (subsections pages).map fun name =>
      .mk name (.guideSection (below dir name))
        (sectionEntries depth (below dir name) (inside name pages))
    subs ++ pageEntries pages

theorem Page.first?_eq_some_iff {p : Page} {name : String} :
    p.first? = some name ↔ ∃ rest, rest ≠ [] ∧ p.segments = name :: rest := by
  unfold first?
  split
  next first second rest hp => simp [hp, eq_comm]
  next hshort =>
    constructor
    · intro h
      exact absurd h (by simp)
    · intro h
      obtain ⟨rest, hrest, hp⟩ := h
      obtain ⟨second, more, rfl⟩ := List.exists_cons_of_ne_nil hrest
      exact absurd hp (hshort name second more)

theorem Page.file?_eq_some_iff {p : Page} {file path : String} :
    p.file? = some (file, path) ↔ p.segments = [file] ∧ p.path = path := by
  unfold file?
  split
  next name hp => simp [hp]
  next hother =>
    constructor
    · intro h
      exact absurd h (by simp)
    · intro h
      exact absurd h.1 (hother file)

theorem mem_subsections_iff {name : String} {pages : List Page} :
    name ∈ subsections pages ↔ ∃ p ∈ pages, p.first? = some name := by
  rw [subsections, mem_sortDistinct, List.mem_filterMap]

theorem increasing_subsections (pages : List Page) : (subsections pages).Pairwise (· < ·) :=
  (increasing_sortDistinct _).imp compare_eq_lt_iff.mp

theorem mem_inside_iff {name : String} {pages : List Page} {q : Page} :
    q ∈ inside name pages ↔
      ∃ p ∈ pages, p.path = q.path ∧ q.segments ≠ [] ∧ p.segments = name :: q.segments := by
  unfold inside
  rw [List.mem_filterMap]
  apply exists_congr
  intro p
  apply and_congr_right
  intro _
  split
  next first second rest hp =>
    rw [hp]
    by_cases hname : first = name
    · rw [if_pos hname, hname, Option.some.injEq]
      constructor
      · intro h
        rw [← h]
        exact ⟨rfl, by simp, rfl⟩
      · intro ⟨hpath, _, hsegments⟩
        cases q
        simp_all
    · simp [hname]
  next hshort =>
    constructor
    · intro h
      exact absurd h (by simp)
    · intro ⟨_, hsome, hp⟩
      obtain ⟨second, rest, hq⟩ := List.exists_cons_of_ne_nil hsome
      rw [hq] at hp
      exact absurd hp (hshort name second rest)

/-- The names of the sub-sections are those that some pages lie inside of. -/
theorem mem_subsections_iff_inside {name : String} {pages : List Page} :
    name ∈ subsections pages ↔ inside name pages ≠ [] := by
  rw [mem_subsections_iff]
  constructor
  · intro ⟨p, hp, hfirst⟩
    obtain ⟨rest, hrest, hsegments⟩ := Page.first?_eq_some_iff.mp hfirst
    have hmem : ⟨rest, p.path⟩ ∈ inside name pages :=
      mem_inside_iff.mpr ⟨p, hp, rfl, hrest, hsegments⟩
    exact List.ne_nil_of_mem hmem
  · intro hsome
    obtain ⟨q, hq⟩ := List.exists_mem_of_ne_nil _ hsome
    obtain ⟨p, hp, _, hrest, hsegments⟩ := mem_inside_iff.mp hq
    exact ⟨p, hp, Page.first?_eq_some_iff.mpr ⟨q.segments, hrest, hsegments⟩⟩

section Room

variable {depth : Nat} {pages : List Page}

/-- Pages without a second segment have no sub-sections. -/
theorem subsections_eq_nil (room : ∀ p ∈ pages, p.segments.length ≤ 0 + 1) :
    subsections pages = [] := by
  rw [List.eq_nil_iff_forall_not_mem]
  intro name hname
  obtain ⟨p, hp, hfirst⟩ := mem_subsections_iff.mp hname
  obtain ⟨rest, hrest, hsegments⟩ := Page.first?_eq_some_iff.mp hfirst
  have hlength := room p hp
  have hpos := List.length_pos_of_ne_nil hrest
  rw [hsegments, List.length_cons] at hlength
  omega

theorem room_inside (room : ∀ p ∈ pages, p.segments.length ≤ depth + 1 + 1) {name : String} :
    ∀ q ∈ inside name pages, q.segments.length ≤ depth + 1 := by
  intro q hq
  obtain ⟨p, hp, _, _, hsegments⟩ := mem_inside_iff.mp hq
  have hlength := room p hp
  rw [hsegments, List.length_cons] at hlength
  omega

end Room

/-! ## §2. Growth -/

/-- The section that has grown from some pages, one after another. -/
def Section.ofPages (pages : List Page) : Section :=
  pages.foldl (fun s p => s.add p.path p.segments) .empty

theorem Section.ofPages_concat (pages : List Page) (p : Page) :
    ofPages (pages ++ [p]) = (ofPages pages).add p.path p.segments := by
  rw [ofPages, List.foldl_append]
  rfl

/-- What a section has gathered of some pages: its own ones as they came, and for each first segment
a sub-section that has grown from the pages inside. -/
structure Groups (pages : List Page) (s : Section) : Prop where
  ordered : Entries.Ordered s.sections
  own : s.pages = pages.filterMap Page.file?
  sections : ∀ name,
    Entries.get? name s.sections = groupValue Section.ofPages (inside name pages)

/-- **One page more** goes to the section itself or to one of its groups. -/
theorem groups_add {pages : List Page} {s : Section} (h : Groups pages s) (p : Page) :
    Groups (pages ++ [p]) (s.add p.path p.segments) := by
  obtain ⟨segments, path⟩ := p
  have hinside : ∀ name, inside name (pages ++ [⟨segments, path⟩]) =
      inside name pages ++ inside name [⟨segments, path⟩] := fun name => List.filterMap_append
  have hown : (pages ++ [Page.mk segments path]).filterMap Page.file? =
      s.pages ++ [Page.mk segments path].filterMap Page.file? := by
    rw [List.filterMap_append, h.own]
  -- a group that the page does not lie in is as before
  have hkept : ∀ name, inside name [⟨segments, path⟩] = [] → Entries.get? name s.sections =
      groupValue Section.ofPages (inside name (pages ++ [⟨segments, path⟩])) := by
    intro name hnone
    rw [hinside, hnone, List.append_nil, h.sections name]
  rcases segments with _ | ⟨first, _ | ⟨next, rest⟩⟩
  case nil => exact ⟨h.ordered, (hown.trans (List.append_nil _)).symm, fun name => hkept name rfl⟩
  case cons.nil => exact ⟨h.ordered, hown.symm, fun name => hkept name rfl⟩
  case cons.cons =>
    refine ⟨Entries.ordered_insert _ _ h.ordered, (hown.trans (List.append_nil _)).symm,
      fun name => ?_⟩
    have hget := Entries.get?_insert first name
      (Section.add path (next :: rest) ((Entries.get? first s.sections).getD .empty)) s.sections
    refine hget.trans ?_
    by_cases hname : name = first
    · -- the group of the page has one page more
      have hone : inside name [⟨first :: next :: rest, path⟩] = [⟨next :: rest, path⟩] := by
        simp [inside, hname]
      have hgroup : (groupValue Section.ofPages (inside first pages)).getD .empty =
          Section.ofPages (inside first pages) := getD_groupValue rfl _
      rw [if_pos hname, hinside, hone, groupValue_concat, Section.ofPages_concat,
        h.sections first, hgroup, hname]
    · rw [if_neg hname]
      exact hkept name (by simp [inside, Ne.symm hname])

/-- **Whatever pages come, and in whatever order, they are gathered in groups.** -/
theorem groups_ofPages (pages : List Page) : Groups pages (Section.ofPages pages) := by
  apply foldl_invariant (P := fun done s => Groups done s)
  · exact ⟨List.Pairwise.nil, rfl, fun _ => rfl⟩
  · intro done p rest s _ h
    exact groups_add h p

/-- The sub-sections that have grown from some pages, by name. -/
theorem sections_ofPages (pages : List Page) : (Section.ofPages pages).sections =
    (subsections pages).map fun name => (name, Section.ofPages (inside name pages)) := by
  obtain ⟨ordered, _, hsections⟩ := groups_ofPages pages
  generalize (Section.ofPages pages).sections = sections at ordered hsections
  have hvalue : ∀ e ∈ sections,
      inside e.1 pages ≠ [] ∧ Section.ofPages (inside e.1 pages) = e.2 := by
    intro e he
    have hget := Entries.get?_of_mem ordered he
    rw [hsections] at hget
    exact groupValue_eq_some_iff.mp hget
  have hnames : sections.map (·.1) = subsections pages := by
    refine eq_of_increasing ?_ (increasing_sortDistinct _) ?_
    · rw [List.pairwise_map]
      exact ordered.imp compare_eq_lt_iff.mpr
    · intro name
      rw [mem_subsections_iff_inside, List.mem_map]
      constructor
      · rintro ⟨e, he, rfl⟩
        exact (hvalue e he).1
      · intro hinside
        have hget := (hsections name).trans (if_neg hinside)
        exact ⟨_, Entries.mem_of_get? hget, rfl⟩
  rw [← hnames, List.map_map]
  refine (List.map_id _).symm.trans (List.map_congr_left fun e he => ?_)
  exact Prod.ext rfl (hvalue e he).2.symm

/-! ## §3. Entries -/

theorem entriesOfAll_eq_map (dir : String) (l : List (String × Section)) :
    Section.entriesOfAll dir l = l.map fun e =>
      .mk e.1 (.guideSection (below dir e.1)) (e.2.entries (below dir e.1)) := by
  induction l with
  | nil => rw [Section.entriesOfAll, List.map_nil]
  | cons e rest ih => rw [Section.entriesOfAll, ih, List.map_cons]

theorem entries_eq (dir : String) (s : Section) : s.entries dir =
    (s.sections.map fun e =>
      .mk e.1 (.guideSection (below dir e.1)) (e.2.entries (below dir e.1))) ++
        Section.pageEntries s.pages := by
  cases s with
  | mk sections pages =>
    rw [Section.entries, entriesOfAll_eq_map]
    rfl

/-- **The entries of a section that has grown from some pages.** -/
theorem entries_ofPages (depth : Nat) (dir : String) {pages : List Page}
    (room : ∀ p ∈ pages, p.segments.length ≤ depth + 1) :
    (Section.ofPages pages).entries dir = sectionEntries depth dir pages := by
  induction depth generalizing dir pages with
  | zero =>
    rw [entries_eq, sections_ofPages, (groups_ofPages pages).own, subsections_eq_nil room]
    rfl
  | succ depth ih =>
    rw [entries_eq, sections_ofPages, (groups_ofPages pages).own, List.map_map, sectionEntries]
    congr 1
    apply List.map_congr_left
    intro name _
    show Entry.mk name _ ((Section.ofPages (inside name pages)).entries (below dir name)) = _
    rw [ih (below dir name) (room_inside room)]

/-- The pages of a guide, with their segments. -/
def guidePages (pages : List String) : List Page := pages.map fun p => ⟨Path.segments p, p⟩

theorem room_guidePages (pages : List String) : ∀ p ∈ guidePages pages,
    p.segments.length ≤ ((guidePages pages).map (·.segments.length)).foldl max 0 + 1 := by
  intro p hp
  rw [List.foldl_max]
  have hle := List.le_max?_getD_of_mem (k := 0)
    (List.mem_map_of_mem (f := (·.segments.length)) hp)
  omega

/-- The entries of a guide, told by the groups of its pages. -/
theorem entriesOfPages_eq (pages : List String) : entriesOfPages pages =
    sectionEntries (((guidePages pages).map (·.segments.length)).foldl max 0) ""
      (guidePages pages) := by
  rw [← entries_ofPages _ "" (room_guidePages pages), Section.ofPages, guidePages, List.foldl_map]
  rfl

end CodeAtlas.Contents
