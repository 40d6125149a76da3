/-
  CodeAtlas.Proofs.GuideTree — the section of a guide in the table of contents.

  The pages of a guide come as a list of paths in any order.  The section of a directory takes the
  first segment off the paths of its pages and gathers by it those that go on; a page without a
  second segment is listed there.  A file and a directory may have one name, and the path of the
  guide itself is empty, which is why paths are put together by `below` and not by a slash alone.

  Main results:
    * `section_induction` — ONE induction down the sections; the bound on their depth cuts nothing
      off.
    * `pages_sectionEntries`, `sections_sectionEntries`, `way_sectionEntries` — what is listed below
      a section, and on which way.
    * `charts_ofModel` — the section of ANY guide whose paths are distinct and have no empty
      segment.
-/
import Mathlib.Data.List.Nodup
import Mathlib.Data.List.Perm.Basic
import CodeAtlas.Proofs.GuideSections
import CodeAtlas.Proofs.Order
import CodeAtlas.Proofs.Outline
import CodeAtlas.Proofs.Path

namespace CodeAtlas

/-! ## §1. The directories of a path -/

namespace Chars

/-- The parts in front of each separator, the shortest first. -/
def fronts (sep : Char) : List Char → List (List Char)
  | [] => []
  | c :: rest => (if c = sep then [[]] else []) ++ (fronts sep rest).map (c :: ·)

theorem mem_fronts_iff {sep : Char} {s front : List Char} :
    front ∈ fronts sep s ↔ ∃ rest, s = front ++ sep :: rest := by
  induction s generalizing front with
  | nil => simp [fronts]
  | cons c rest ih =>
    rw [fronts, List.mem_append]
    cases front with
    | nil => by_cases hc : c = sep <;> simp [hc]
    | cons d front =>
      have hlonger : d :: front ∈ (fronts sep rest).map (c :: ·) ↔
          c = d ∧ ∃ back, rest = front ++ sep :: back := by
        simp only [List.mem_map, List.cons.injEq, ← ih]
        exact ⟨fun ⟨a, ha, hd, hfront⟩ => ⟨hd, hfront ▸ ha⟩, fun ⟨hd, ha⟩ => ⟨front, ha, hd, rfl⟩⟩
      rw [hlonger]
      by_cases hc : c = sep <;> simp [hc]

theorem fronts_of_notMem {sep : Char} {s : List Char} (h : sep ∉ s) : fronts sep s = [] := by
  rw [List.eq_nil_iff_forall_not_mem]
  intro front hfront
  obtain ⟨rest, hs⟩ := mem_fronts_iff.mp hfront
  exact h (by rw [hs]; simp)

theorem fronts_append_cons (sep : Char) (front back : List Char) :
    fronts sep (front ++ sep :: back) =
      fronts sep front ++ front :: (fronts sep back).map (front ++ sep :: ·) := by
  induction front with
  | nil => simp [fronts]
  | cons c rest ih =>
    rw [List.cons_append, fronts, ih, fronts]
    simp [Function.comp_def]

end Chars

namespace Path

/-- The directories that a path leads through, the outermost first: `a` and `a/b` for `a/b/c`. -/
def directories (path : String) : List String := (Chars.fronts '/' path.toList).map String.ofList

/-- The directories of a path are what stands in front of its slashes. -/
theorem mem_directories_iff {dir path : String} :
    dir ∈ directories path ↔ ∃ rest, path = dir ++ "/" ++ rest := by
  unfold directories
  constructor
  · intro h
    obtain ⟨front, hfront, rfl⟩ := List.mem_map.mp h
    obtain ⟨rest, hpath⟩ := Chars.mem_fronts_iff.mp hfront
    refine ⟨String.ofList rest, String.toList_inj.mp ?_⟩
    simp [hpath]
  · intro h
    obtain ⟨rest, rfl⟩ := h
    refine List.mem_map.mpr ⟨dir.toList, ?_, String.ofList_toList⟩
    exact Chars.mem_fronts_iff.mpr ⟨rest.toList, by simp⟩

theorem directories_of_plain {name : String} (plain : '/' ∉ name.toList) :
    directories name = [] := by
  unfold directories
  rw [Chars.fronts_of_notMem plain, List.map_nil]

theorem directories_append (dir : String) {name : String} (plain : '/' ∉ name.toList) :
    directories (dir ++ "/" ++ name) = directories dir ++ [dir] := by
  have hlist : (dir ++ "/" ++ name).toList = dir.toList ++ '/' :: name.toList := by simp
  unfold directories
  rw [hlist, Chars.fronts_append_cons, Chars.fronts_of_notMem plain, List.map_append]
  simp

end Path

namespace Contents

/-! ## §2. Paths below a directory -/

theorem below_empty (name : String) : below "" name = name := rfl

theorem below_of_ne {dir : String} (h : dir ≠ "") (name : String) :
    below dir name = dir ++ "/" ++ name := by
  unfold below
  rw [if_neg (by simpa using h)]

theorem below_ne_empty (dir : String) {name : String} (h : name ≠ "") : below dir name ≠ "" := by
  by_cases hdir : dir = ""
  · rw [hdir, below_empty]
    exact h
  · rw [below_of_ne hdir]
    simp

theorem below_below (dir : String) {name : String} (h : name ≠ "") (path : String) :
    below (below dir name) path = below dir (below name path) := by
  by_cases hdir : dir = ""
  · rw [hdir, below_empty, below_empty]
  · rw [below_of_ne (below_ne_empty dir h), below_of_ne hdir, below_of_ne hdir, below_of_ne h]
    simp [String.append_assoc]

theorem below_inj {dir a b : String} (h : below dir a = below dir b) : a = b := by
  by_cases hdir : dir = ""
  · rw [hdir, below_empty, below_empty] at h
    exact h
  · rw [below_of_ne hdir, below_of_ne hdir] at h
    exact (String.append_right_inj _).mp h

theorem below_intercalate {name : String} (h : name ≠ "") {rest : List String} (hrest : rest ≠ []) :
    below name ("/".intercalate rest) = "/".intercalate (name :: rest) := by
  rw [below_of_ne h, String.intercalate_cons_of_ne_nil hrest]

/-- The sections on the way to that of a directory, its own included and the guide left out. -/
def trail (dir : String) : List String := if dir = "" then [] else Path.directories dir ++ [dir]

theorem directories_below (dir : String) {name : String} (plain : '/' ∉ name.toList) :
    Path.directories (below dir name) = trail dir := by
  unfold trail
  by_cases hdir : dir = ""
  · rw [if_pos hdir, hdir, below_empty, Path.directories_of_plain plain]
  · rw [if_neg hdir, below_of_ne hdir, Path.directories_append dir plain]

theorem trail_below (dir : String) {name : String} (nonempty : name ≠ "")
    (plain : '/' ∉ name.toList) :
    trail (below dir name) = trail dir ++ [below dir name] := by
  rw [← directories_below dir plain]
  exact if_neg (below_ne_empty dir nonempty)

/-! ## §3. The pages of a section -/

/-- A page lies in the section of a directory: its path leads on from there, through the segments
still to go. -/
structure Page.Lies (dir : String) (p : Page) : Prop where
  nonempty : p.segments ≠ []
  plain : ∀ s ∈ p.segments, s ≠ "" ∧ '/' ∉ s.toList
  path : p.path = below dir ("/".intercalate p.segments)

theorem map_path_inside (name : String) (pages : List Page) :
    (inside name pages).map Page.path =
      (pages.filter fun p => p.first? == some name).map Page.path := by
  induction pages with
  | nil => rfl
  | cons p pages ih =>
    unfold inside at ih ⊢
    rw [List.filterMap_cons, List.filter_cons]
    cases hp : p.segments with
    | nil => simpa [Page.first?, hp] using ih
    | cons first rest =>
      cases rest with
      | nil => simpa [Page.first?, hp] using ih
      | cons second rest => by_cases hname : first = name <;> simp [Page.first?, hp, hname, ih]

theorem Page.Lies.inside {dir name : String} {pages : List Page}
    (lies : ∀ p ∈ pages, p.Lies dir) :
    ∀ q ∈ inside name pages, q.Lies (below dir name) := by
  intro q hq
  obtain ⟨p, hp, hpath, hsome, hsegments⟩ := mem_inside_iff.mp hq
  obtain ⟨_, plain, path⟩ := lies p hp
  rw [hsegments] at plain path
  have hname : name ≠ "" := (plain name List.mem_cons_self).1
  refine ⟨hsome, fun s hs => plain s (List.mem_cons_of_mem name hs), ?_⟩
  rw [← hpath, path, below_below dir hname, below_intercalate hname hsome]

/-! ## §4. Down the sections -/

/-- The entry of a sub-section. -/
def sectionEntry (dir : String) (sub : String → List Entry) (name : String) : Entry :=
  .mk name (.guideSection (below dir name)) (sub name)

/-- **Induction down the sections of a guide.**  A section consists of its sub-sections and its own
pages, whatever the bound on the depth, as long as there is room for its pages. -/
theorem section_induction {P : String → List Page → List Entry → Prop}
    (step : ∀ dir pages sub, (∀ p ∈ pages, p.Lies dir) →
      (∀ name ∈ subsections pages, P (below dir name) (inside name pages) (sub name)) →
      P dir pages ((subsections pages).map (sectionEntry dir sub) ++ pageEntries pages))
    {depth : Nat} {dir : String} {pages : List Page} (lies : ∀ p ∈ pages, p.Lies dir)
    (room : ∀ p ∈ pages, p.segments.length ≤ depth + 1) :
    P dir pages (sectionEntries depth dir pages) := by
  induction depth generalizing dir pages with
  | zero =>
    have hnone := subsections_eq_nil room
    have hstep := step dir pages (fun _ => []) lies (by simp [hnone])
    rw [hnone] at hstep
    exact hstep
  | succ depth ih =>
    apply step dir pages
      (fun name => sectionEntries depth (below dir name) (inside name pages)) lies
    intro name _
    exact ih (Page.Lies.inside lies) (room_inside room)

/-! ## §5. What a section lists -/

/-- The section that a target names. -/
def Target.section? : Target → Option String
  | guideSection path => some path
  | _ => none

/-- The page that a target names. -/
def Target.page? : Target → Option String
  | guidePage path => some path
  | _ => none

/-- The sections that some entries and the entries below them point at, in the order of the
table. -/
def sectionsIn (es : List Entry) : List String :=
  (es.flatMap Entry.all).filterMap (·.target.section?)

/-- The pages that some entries and the entries below them point at, in the order of the table. -/
def pagesIn (es : List Entry) : List String := (es.flatMap Entry.all).filterMap (·.target.page?)

theorem mem_pageEntries_iff {e : Entry} {pages : List Page} :
    e ∈ pageEntries pages ↔
      ∃ p ∈ pages, ∃ file, p.segments = [file] ∧ e = .mk file (.guidePage p.path) [] := by
  have hown : ∀ file path, (file, path) ∈ pages.filterMap Page.file? ↔
      ∃ p ∈ pages, p.segments = [file] ∧ p.path = path := by
    intro file path
    simp only [List.mem_filterMap, Page.file?_eq_some_iff]
  constructor
  · intro h
    obtain ⟨⟨file, path⟩, hsorted, rfl⟩ := List.mem_map.mp h
    obtain ⟨p, hp, hsegments, rfl⟩ := (hown file path).mp (mem_sortBy.mp hsorted)
    exact ⟨p, hp, file, hsegments, rfl⟩
  · intro h
    obtain ⟨p, hp, file, hsegments, rfl⟩ := h
    have hmem := (hown file p.path).mpr ⟨p, hp, hsegments, rfl⟩
    exact List.mem_map.mpr ⟨(file, p.path), mem_sortBy.mpr hmem, rfl⟩

theorem flatMap_all_pageEntries (pages : List Page) :
    (pageEntries pages).flatMap Entry.all = pageEntries pages := by
  have hleaf : ∀ e ∈ pageEntries pages, e.all = [e] := by
    intro e he
    obtain ⟨p, _, file, _, rfl⟩ := mem_pageEntries_iff.mp he
    rw [Entry.all_eq]
    rfl
  rw [List.flatMap_congr hleaf, List.flatMap_singleton']

theorem flatMap_all_section (dir : String) (sub : String → List Entry) (names : List String)
    (pages : List Page) :
    (names.map (sectionEntry dir sub) ++ pageEntries pages).flatMap Entry.all =
      (names.flatMap fun name => sectionEntry dir sub name :: (sub name).flatMap Entry.all) ++
        pageEntries pages := by
  have hsub : ∀ name ∈ names, (sectionEntry dir sub name).all =
      sectionEntry dir sub name :: (sub name).flatMap Entry.all := by
    intro name _
    rw [Entry.all_eq]
    rfl
  rw [List.flatMap_append, flatMap_all_pageEntries, List.flatMap_map, List.flatMap_congr hsub]

theorem sectionsIn_section (dir : String) (sub : String → List Entry) (names : List String)
    (pages : List Page) :
    sectionsIn (names.map (sectionEntry dir sub) ++ pageEntries pages) =
      names.flatMap fun name => below dir name :: sectionsIn (sub name) := by
  have hpages : (pageEntries pages).filterMap (·.target.section?) = [] := by
    rw [List.filterMap_eq_nil_iff]
    intro e he
    obtain ⟨p, _, file, _, rfl⟩ := mem_pageEntries_iff.mp he
    rfl
  unfold sectionsIn
  rw [flatMap_all_section, List.filterMap_append, hpages, List.append_nil, List.filterMap_flatMap]
  rfl

theorem pagesIn_section (dir : String) (sub : String → List Entry) (names : List String)
    (pages : List Page) :
    pagesIn (names.map (sectionEntry dir sub) ++ pageEntries pages) =
      (names.flatMap fun name => pagesIn (sub name)) ++
        (pageEntries pages).filterMap (·.target.page?) := by
  unfold pagesIn
  rw [flatMap_all_section, List.filterMap_append, List.filterMap_flatMap]
  rfl

theorem pages_pageEntries {dir : String} {pages : List Page} (lies : ∀ p ∈ pages, p.Lies dir) :
    ((pageEntries pages).filterMap (·.target.page?)).Perm
      ((pages.filter fun p => !p.first?.isSome).map Page.path) := by
  have hsorted : (pageEntries pages).filterMap (·.target.page?) =
      (sortBy (compareLex (compareOn (·.1)) (compareOn (·.2))) (pages.filterMap Page.file?)).map
        (·.2) := by
    show List.filterMap _ (List.map _ _) = _
    rw [List.filterMap_map]
    exact congrFun (List.filterMap_eq_map (f := Prod.snd)) _
  have hown : (pages.filterMap Page.file?).map (·.2) =
      (pages.filter fun p => !p.first?.isSome).map Page.path := by
    clear hsorted
    induction pages with
    | nil => rfl
    | cons p rest ih =>
      have hrest := ih fun q hq => lies q (List.mem_cons_of_mem p hq)
      have hsome := (lies p List.mem_cons_self).nonempty
      rw [List.filterMap_cons, List.filter_cons]
      cases hp : p.segments with
      | nil => exact absurd hp hsome
      | cons first more => cases more <;> simp [Page.file?, Page.first?, hp, hrest]
  rw [hsorted, ← hown]
  exact (sortBy_perm _ _).map _

/-- The pages of a section are those of its sub-sections and its own. -/
theorem pages_inside_perm (pages : List Page) :
    ((subsections pages).flatMap fun name => (inside name pages).map Page.path).Perm
      ((pages.filter fun p => p.first?.isSome).map Page.path) := by
  simp only [map_path_inside]
  rw [← List.map_flatMap]
  refine List.Perm.map _ ?_
  have hnames : (subsections pages).Nodup := nodup_of_increasing (increasing_sortDistinct _)
  refine (flatMap_filter_perm hnames ?_ pages).trans (List.Perm.of_eq ?_)
  · intro p j k hj hk
    exact Option.some.inj ((beq_iff_eq.mp hj).symm.trans (beq_iff_eq.mp hk))
  · apply List.filter_congr
    intro p hp
    cases hfirst : p.first? with
    | none => simp
    | some name =>
      have hmem : name ∈ subsections pages := mem_subsections_iff.mpr ⟨p, hp, hfirst⟩
      simpa using hmem

/-! ## §6. Whole sections -/

/-- A way down from an entry to one below it: the entries passed, the last one included and the
first one left out. -/
inductive Entry.Leads : Entry → List Entry → Entry → Prop
  | here {e : Entry} : Leads e [] e
  | down {e c k : Entry} {way : List Entry} (child : c ∈ e.children) (rest : Leads c way k) :
    Leads e (c :: way) k

/-- The names of sub-sections, then those of pages, both in order. -/
def Arranged (dir : String) (es : List Entry) : Prop :=
  ∃ subs files : List String, subs.Pairwise (· < ·) ∧ files.Pairwise (· < ·) ∧
    es.map Entry.head = subs.map (fun name => (name, .guideSection (below dir name))) ++
      files.map fun name => (name, .guidePage (below dir name))

theorem heads_pageEntries {dir : String} {pages : List Page} (lies : ∀ p ∈ pages, p.Lies dir)
    (distinct : (pages.map Page.path).Nodup) : ∃ files : List String, files.Pairwise (· < ·) ∧
      (pageEntries pages).map Entry.head =
        files.map fun name => (name, .guidePage (below dir name)) := by
  obtain ⟨sorted, hsorted⟩ : ∃ sorted, sorted =
      sortBy (compareLex (compareOn (·.1)) (compareOn (·.2)))
        (pages.filterMap Page.file?) := ⟨_, rfl⟩
  have hentries : pageEntries pages =
      sorted.map fun f => .mk f.1 (.guidePage f.2) [] := by rw [hsorted]; rfl
  -- the path of a page follows from its name
  have hpath : ∀ f ∈ sorted, f.2 = below dir f.1 := by
    rw [hsorted]
    rintro ⟨file, path⟩ hf
    obtain ⟨p, hp, hfile⟩ := List.mem_filterMap.mp (mem_sortBy.mp hf)
    obtain ⟨hsegments, rfl⟩ := Page.file?_eq_some_iff.mp hfile
    rw [(lies p hp).path, hsegments, String.intercalate_singleton]
  have hpaths : (sorted.map (·.2)).Nodup := by
    have hown := pages_pageEntries lies
    have hlist : (pageEntries pages).filterMap (·.target.page?) = sorted.map (·.2) := by
      rw [hentries, List.filterMap_map]
      exact congrFun (List.filterMap_eq_map (f := Prod.snd)) _
    rw [hlist] at hown
    exact hown.nodup_iff.mpr (distinct.sublist (List.filter_sublist.map _))
  refine ⟨sorted.map (·.1), ?_, ?_⟩
  · have hle : sorted.Pairwise fun a b => (compare a.1 b.1).isLE := by
      rw [hsorted]
      refine (pairwise_sortBy _).imp ?_
      intro a b hab
      unfold compareLex compareOn at hab
      cases hc : compare a.1 b.1 <;> simp_all
    rw [List.pairwise_map]
    refine ((List.Pairwise.and_mem.mp hle).and (List.pairwise_map.mp hpaths)).imp ?_
    intro a b ⟨⟨ha, hb, hab⟩, hne⟩
    apply lt_of_isLE_compare hab
    intro heq
    exact hne (by rw [hpath a ha, hpath b hb, heq])
  · rw [hentries, List.map_map, List.map_map]
    apply List.map_congr_left
    intro f hf
    show (f.1, Target.guidePage f.2) = (f.1, .guidePage (below dir f.1))
    rw [hpath f hf]

/-- Segments that lead from a section to a directory on the way to one of its pages. -/
def Between (pages : List Page) (front : List String) : Prop :=
  front ≠ [] ∧ ∃ p ∈ pages, ∃ rest, rest ≠ [] ∧ p.segments = front ++ rest

/-- Such segments that start with a given one. -/
def GoesOn (pages : List Page) (name : String) (front : List String) : Prop :=
  front = [name] ∨ ∃ more, Between (inside name pages) more ∧ front = name :: more

theorem GoesOn.head {pages : List Page} {name : String} {front : List String}
    (h : GoesOn pages name front) : front.head? = some name := by
  rcases h with rfl | ⟨more, _, rfl⟩ <;> rfl

theorem between_singleton_iff {name : String} {pages : List Page} :
    Between pages [name] ↔ name ∈ subsections pages := by
  rw [mem_subsections_iff]
  unfold Between
  simp only [Page.first?_eq_some_iff, List.singleton_append]
  simp

theorem between_cons_iff {name : String} {pages : List Page} {more : List String}
    (hmore : more ≠ []) : Between pages (name :: more) ↔ Between (inside name pages) more := by
  constructor
  · intro ⟨_, p, hp, rest, hrest, hsegments⟩
    refine ⟨hmore, ⟨more ++ rest, p.path⟩, ?_, rest, hrest, rfl⟩
    exact mem_inside_iff.mpr ⟨p, hp, rfl, List.append_ne_nil_of_left_ne_nil hmore rest, hsegments⟩
  · intro ⟨_, q, hq, rest, hrest, hsegments⟩
    obtain ⟨p, hp, _, _, hfull⟩ := mem_inside_iff.mp hq
    exact ⟨by simp, p, hp, rest, hrest, by rw [hfull, hsegments]; rfl⟩

theorem between_iff {pages : List Page} {front : List String} :
    Between pages front ↔ ∃ name ∈ subsections pages, GoesOn pages name front := by
  constructor
  · intro h
    obtain ⟨name, more, rfl⟩ := List.exists_cons_of_ne_nil h.1
    have hname : name ∈ subsections pages := by
      obtain ⟨_, p, hp, rest, hrest, hsegments⟩ := h
      refine between_singleton_iff.mp ⟨by simp, p, hp, more ++ rest, ?_, hsegments⟩
      exact List.append_ne_nil_of_right_ne_nil more hrest
    refine ⟨name, hname, ?_⟩
    by_cases hmore : more = []
    · exact .inl (by rw [hmore])
    · exact .inr ⟨more, (between_cons_iff hmore).mp h, rfl⟩
  · intro ⟨name, hname, hgoes⟩
    rcases hgoes with rfl | ⟨more, hmore, rfl⟩
    · exact between_singleton_iff.mpr hname
    · exact (between_cons_iff hmore.1).mpr hmore

theorem Between.plain {dir : String} {pages : List Page} {front : List String}
    (h : Between pages front) (lies : ∀ p ∈ pages, p.Lies dir) :
    ∀ s ∈ front, s ≠ "" ∧ '/' ∉ s.toList := by
  obtain ⟨_, p, hp, rest, _, hsegments⟩ := h
  intro s hs
  exact (lies p hp).plain s (by rw [hsegments]; exact List.mem_append_left rest hs)

/-- The path of a directory determines the way to it. -/
theorem Between.eq_of_below_eq {dir : String} {pages : List Page} {a b : List String}
    (ha : Between pages a) (hb : Between pages b) (lies : ∀ p ∈ pages, p.Lies dir)
    (h : below dir ("/".intercalate a) = below dir ("/".intercalate b)) : a = b := by
  rw [← Path.segments_intercalate ha.1 fun s hs => (ha.plain lies s hs).2, below_inj h,
    Path.segments_intercalate hb.1 fun s hs => (hb.plain lies s hs).2]

section Sections

variable {depth : Nat} {dir : String} {pages : List Page} (lies : ∀ p ∈ pages, p.Lies dir)
  (room : ∀ p ∈ pages, p.segments.length ≤ depth + 1)
include lies room

/-- **Each page of a section is listed once**, in it or further down. -/
theorem pages_sectionEntries :
    (pagesIn (sectionEntries depth dir pages)).Perm (pages.map Page.path) := by
  refine section_induction (P := fun _ pages es => (pagesIn es).Perm (pages.map Page.path)) ?_
    lies room
  intro dir pages sub lies ih
  have hsubs : ((subsections pages).flatMap fun name => pagesIn (sub name)).Perm
      ((pages.filter fun p => p.first?.isSome).map Page.path) :=
    (List.Perm.flatMap_left _ ih).trans (pages_inside_perm pages)
  rw [pagesIn_section]
  refine (hsubs.append (pages_pageEntries lies)).trans ?_
  rw [← List.map_append]
  exact (List.filter_append_perm _ pages).map _

/-- Below a section there are sections and pages, and nothing stands below a page. -/
theorem section_or_leaf : ∀ k ∈ (sectionEntries depth dir pages).flatMap Entry.all,
    (∃ d, k.target = .guideSection d) ∨ ∃ path, k.target = .guidePage path ∧ k.isLeaf = true := by
  refine section_induction (P := fun _ _ es => ∀ k ∈ es.flatMap Entry.all,
    (∃ d, k.target = .guideSection d) ∨ ∃ path, k.target = .guidePage path ∧ k.isLeaf = true) ?_
    lies room
  intro dir pages sub lies ih k hk
  rw [flatMap_all_section] at hk
  rcases List.mem_append.mp hk with hsub | hpage
  · obtain ⟨name, hname, hbelow⟩ := List.mem_flatMap.mp hsub
    rcases List.mem_cons.mp hbelow with rfl | hdeeper
    · exact .inl ⟨below dir name, rfl⟩
    · exact ih name hname k hdeeper
  · obtain ⟨p, _, file, _, rfl⟩ := mem_pageEntries_iff.mp hpage
    exact .inr ⟨p.path, rfl, rfl⟩

/-- **Sections are arranged**, all the way down. -/
theorem arranged_sectionEntries (distinct : (pages.map Page.path).Nodup) :
    Arranged dir (sectionEntries depth dir pages) ∧
      ∀ k ∈ (sectionEntries depth dir pages).flatMap Entry.all, ∀ d,
        k.target = .guideSection d → Arranged d k.children := by
  refine section_induction (P := fun dir pages es => (pages.map Page.path).Nodup →
    Arranged dir es ∧ ∀ k ∈ es.flatMap Entry.all, ∀ d, k.target = .guideSection d →
      Arranged d k.children) ?_ lies room distinct
  intro dir pages sub lies ih distinct
  constructor
  · obtain ⟨files, hfiles, hheads⟩ := heads_pageEntries lies distinct
    refine ⟨subsections pages, files, increasing_subsections pages, hfiles, ?_⟩
    rw [List.map_append, hheads, List.map_map]
    rfl
  · intro k hk d hd
    rw [flatMap_all_section] at hk
    rcases List.mem_append.mp hk with hsub | hpage
    · obtain ⟨name, hname, hbelow⟩ := List.mem_flatMap.mp hsub
      have hinside : ((inside name pages).map Page.path).Nodup := by
        rw [map_path_inside]
        exact distinct.sublist (List.filter_sublist.map _)
      obtain ⟨here, deeper⟩ := ih name hname hinside
      rcases List.mem_cons.mp hbelow with rfl | hdeeper
      · rw [← Target.guideSection.inj hd]
        exact here
      · exact deeper k hdeeper d hd
    · obtain ⟨p, _, file, _, rfl⟩ := mem_pageEntries_iff.mp hpage
      exact absurd hd (by simp [Entry.target])

/-- **The sections below a section are the directories of its pages**, and no two are the same. -/
theorem sections_sectionEntries :
    (∀ d, d ∈ sectionsIn (sectionEntries depth dir pages) ↔
      ∃ front, Between pages front ∧ d = below dir ("/".intercalate front)) ∧
      (sectionsIn (sectionEntries depth dir pages)).Nodup := by
  refine section_induction (P := fun dir pages es => (∀ d, d ∈ sectionsIn es ↔
    ∃ front, Between pages front ∧ d = below dir ("/".intercalate front)) ∧
      (sectionsIn es).Nodup) ?_ lies room
  intro dir pages sub lies ih
  rw [sectionsIn_section]
  -- what is listed under a name goes on from it
  have hnamed : ∀ name ∈ subsections pages, ∀ d, d ∈ below dir name :: sectionsIn (sub name) ↔
      ∃ front, GoesOn pages name front ∧ d = below dir ("/".intercalate front) := by
    intro name hname d
    have hsome : name ≠ "" := ((between_singleton_iff.mpr hname).plain lies name (by simp)).1
    rw [List.mem_cons, (ih name hname).1 d]
    constructor
    · intro h
      rcases h with rfl | ⟨more, hmore, rfl⟩
      · exact ⟨[name], .inl rfl, by rw [String.intercalate_singleton]⟩
      · refine ⟨name :: more, .inr ⟨more, hmore, rfl⟩, ?_⟩
        rw [below_below dir hsome, below_intercalate hsome hmore.1]
    · intro h
      obtain ⟨front, rfl | ⟨more, hmore, rfl⟩, rfl⟩ := h
      · exact .inl (by rw [String.intercalate_singleton])
      · refine .inr ⟨more, hmore, ?_⟩
        rw [below_below dir hsome, below_intercalate hsome hmore.1]
  constructor
  · intro d
    rw [List.mem_flatMap]
    constructor
    · intro ⟨name, hname, hd⟩
      obtain ⟨front, hfront, rfl⟩ := (hnamed name hname d).mp hd
      exact ⟨front, between_iff.mpr ⟨name, hname, hfront⟩, rfl⟩
    · intro h
      obtain ⟨front, hfront, rfl⟩ := h
      obtain ⟨name, hname, hgoes⟩ := between_iff.mp hfront
      exact ⟨name, hname, (hnamed name hname _).mpr ⟨front, hgoes, rfl⟩⟩
  · rw [List.nodup_flatMap]
    constructor
    · intro name hname
      refine List.nodup_cons.mpr ⟨?_, (ih name hname).2⟩
      -- the path of the sub-section is shorter than all that go on from it
      intro hself
      obtain ⟨more, hmore, heq⟩ := ((ih name hname).1 _).mp hself
      have hsingle : Between pages [name] := between_singleton_iff.mpr hname
      have hcons : Between pages (name :: more) := (between_cons_iff hmore.1).mpr hmore
      have hsome : name ≠ "" := (hsingle.plain lies name (by simp)).1
      rw [below_below dir hsome, below_intercalate hsome hmore.1] at heq
      have hequal := hsingle.eq_of_below_eq hcons lies (by rw [String.intercalate_singleton, heq])
      exact hmore.1 (List.cons.inj hequal).2.symm
    · refine (List.Pairwise.and_mem.mp (increasing_subsections pages)).imp ?_
      intro name other ⟨hname, hother, hlt⟩ d hd hd'
      obtain ⟨front, hfront, rfl⟩ := (hnamed name hname d).mp hd
      obtain ⟨front', hfront', heq⟩ := (hnamed other hother _).mp hd'
      have hequal := (between_iff.mpr ⟨name, hname, hfront⟩).eq_of_below_eq
        (between_iff.mpr ⟨other, hother, hfront'⟩) lies heq
      have hhead : some name = some other := by rw [← hfront.head, hequal, hfront'.head]
      rw [Option.some.inj hhead] at hlt
      exact absurd hlt (String.lt_irrefl _)

/-- **On the way to a page stand the sections of its directories**, and no others. -/
theorem way_sectionEntries {e k : Entry} {way : List Entry} {path : String}
    (he : e ∈ sectionEntries depth dir pages) (leads : e.Leads way k)
    (hk : k.target = .guidePage path) :
    (trail dir).map .guideSection ++ (e :: way).map Entry.target =
      (Path.directories path).map .guideSection ++ [.guidePage path] := by
  refine section_induction (P := fun dir _ es => ∀ e ∈ es, ∀ way k path, e.Leads way k →
    k.target = .guidePage path → (trail dir).map .guideSection ++ (e :: way).map Entry.target =
      (Path.directories path).map .guideSection ++ [.guidePage path]) ?_ lies room e he way k path
    leads hk
  intro dir pages sub lies ih e he way k path leads hk
  rcases List.mem_append.mp he with hsub | hpage
  · obtain ⟨name, hname, rfl⟩ := List.mem_map.mp hsub
    have hplain := (between_singleton_iff.mpr hname).plain lies name (by simp)
    cases leads with
    | here => exact absurd hk (by simp [sectionEntry, Entry.target])
    | @down _ c _ rest hc hrest =>
      rw [← ih name hname c hc rest k path hrest hk, trail_below dir hplain.1 hplain.2]
      simp [sectionEntry, Entry.target]
  · obtain ⟨p, hp, file, hsegments, rfl⟩ := mem_pageEntries_iff.mp hpage
    cases leads with
    | here =>
      have hplain := (lies p hp).plain file (by rw [hsegments]; simp)
      have hpath : p.path = below dir file := by
        rw [(lies p hp).path, hsegments, String.intercalate_singleton]
      rw [← Target.guidePage.inj hk, hpath, directories_below dir hplain.2]
      rfl
    | down hc _ => exact absurd hc (by simp [Entry.children])

end Sections

/-! ## §7. Arrangements of the pages -/

theorem pageEntries_eq_of_perm {pages pages' : List Page} (h : pages.Perm pages') :
    pageEntries pages = pageEntries pages' := by
  have hsorted :
      sortBy (compareLex (compareOn (·.1)) (compareOn (·.2))) (pages.filterMap Page.file?) =
      sortBy (compareLex (compareOn (·.1)) (compareOn (·.2))) (pages'.filterMap Page.file?) := by
    apply sortBy_eq_of_perm (h.filterMap Page.file?)
    intro a _ b _ hab
    simp only [compareLex_eq_eq, compareOn_eq_iff] at hab
    exact Prod.ext hab.1 hab.2
  exact congrArg (List.map _) hsorted

theorem sectionEntries_eq_of_perm (depth : Nat) (dir : String) {pages pages' : List Page}
    (h : pages.Perm pages') :
    sectionEntries depth dir pages = sectionEntries depth dir pages' := by
  induction depth generalizing dir pages pages' with
  | zero => exact pageEntries_eq_of_perm h
  | succ depth ih =>
    have hnames : subsections pages = subsections pages' :=
      sortDistinct_eq_of_perm (h.filterMap Page.first?)
    rw [sectionEntries, sectionEntries, hnames, pageEntries_eq_of_perm h]
    congr 1
    apply List.map_congr_left
    intro name _
    have hinside : (inside name pages).Perm (inside name pages') := h.filterMap _
    rw [ih (below dir name) hinside]

theorem entriesOfPages_eq_of_perm {pages pages' : List String} (h : pages.Perm pages') :
    entriesOfPages pages = entriesOfPages pages' := by
  rw [entriesOfPages_eq, entriesOfPages_eq]
  have hpages : (guidePages pages).Perm (guidePages pages') := h.map _
  have hdepth := (hpages.map (·.segments.length)).foldl_eq' (f := max)
    (fun x _ y _ z => by omega) 0
  simp only [hdepth]
  exact sectionEntries_eq_of_perm _ "" hpages

/-! ## §8. The section of a guide -/

/-- What the section of a guide lists, in which order and on which ways. -/
structure Charts (pages : List String) (guide : Entry) : Prop where
  /-- The section stands under its heading and points at the guide itself. -/
  head : guide.head = (guideHeading, .guideSection "")
  /-- Every page is listed once, and nothing else is listed as a page. -/
  listed : (pagesIn [guide]).Perm pages
  /-- Every entry points at a section or a page, and nothing stands below a page. -/
  leaves : ∀ k ∈ guide.all, (∃ d, k.target = .guideSection d) ∨
    ∃ path, k.target = .guidePage path ∧ k.isLeaf = true
  /-- The sections on the way to a page are its directories, the outermost first. -/
  ways : ∀ way k path, guide.Leads way k → k.target = .guidePage path →
    way.map Entry.target = (Path.directories path).map .guideSection ++ [.guidePage path]
  /-- The sections are the guide itself and what stands in front of a slash in some page. -/
  sections : ∀ d, d ∈ sectionsIn [guide] ↔ d = "" ∨ ∃ p ∈ pages, ∃ rest, p = d ++ "/" ++ rest
  /-- No two sections have one path. -/
  distinct : (sectionsIn [guide]).Nodup
  /-- In each section come sub-sections and then pages, both by name. -/
  arranged : ∀ k ∈ guide.all, ∀ d, k.target = .guideSection d → Arranged d k.children

section Guide

variable {pages : List String} (solid : ∀ p ∈ pages, "" ∉ Path.segments p)
include solid

theorem lies_guidePages : ∀ p ∈ guidePages pages, p.Lies "" := by
  intro q hq
  obtain ⟨p, hp, rfl⟩ := List.mem_map.mp hq
  refine ⟨Path.segments_ne_nil p, ?_, ?_⟩
  · intro s hs
    exact ⟨fun hempty => solid p hp (hempty ▸ hs), Path.notMem_of_mem_segments hs⟩
  · rw [below_empty]
    exact (Path.intercalate_segments p).symm

omit solid in
/-- The directories on the ways to the pages, as texts. -/
theorem exists_between_iff {d : String} :
    (∃ front, Between (guidePages pages) front ∧ d = below "" ("/".intercalate front)) ↔
      ∃ p ∈ pages, ∃ rest, p = d ++ "/" ++ rest := by
  constructor
  · intro h
    obtain ⟨front, ⟨hfront, q, hq, rest, hrest, hsegments⟩, rfl⟩ := h
    obtain ⟨p, hp, rfl⟩ := List.mem_map.mp hq
    have hparts : Path.segments p = front ++ rest := hsegments
    refine ⟨p, hp, "/".intercalate rest, ?_⟩
    rw [below_empty, ← String.intercalate_append_of_ne_nil hfront hrest, ← hparts,
      Path.intercalate_segments]
  · intro h
    obtain ⟨p, hp, rest, hpath⟩ := h
    refine ⟨Path.segments d, ⟨Path.segments_ne_nil d, ⟨Path.segments p, p⟩,
      List.mem_map.mpr ⟨p, hp, rfl⟩, Path.segments rest, Path.segments_ne_nil rest, ?_⟩, ?_⟩
    · show Path.segments p = _
      rw [hpath, Path.segments_append]
    · rw [below_empty, Path.intercalate_segments]

/-- **The section of a guide**, for pages in any order whose paths are distinct. -/
theorem charts_guideEntry (distinct : pages.Nodup) :
    Charts pages (.mk guideHeading (.guideSection "") (entriesOfPages pages)) := by
  rw [entriesOfPages_eq]
  have lies := lies_guidePages solid
  have room := room_guidePages pages
  have hsections : ∀ d, d ∈ sectionsIn (sectionEntries _ "" (guidePages pages)) ↔
      ∃ p ∈ pages, ∃ rest, p = d ++ "/" ++ rest := fun d =>
    ((sections_sectionEntries lies room).1 d).trans exists_between_iff
  have hpaths : (guidePages pages).map Page.path = pages := by
    unfold guidePages
    rw [List.map_map]
    exact List.map_id pages
  have hall : ∀ es, [Entry.mk guideHeading (.guideSection "") es].flatMap Entry.all =
      .mk guideHeading (.guideSection "") es :: es.flatMap Entry.all := by
    intro es
    rw [List.flatMap_singleton, Entry.all_eq]
    rfl
  have hsectionsIn : ∀ es, sectionsIn [.mk guideHeading (.guideSection "") es] =
      "" :: sectionsIn es := by
    intro es
    unfold sectionsIn
    rw [hall]
    rfl
  constructor
  case head => rfl
  case listed =>
    have hlisted := pages_sectionEntries lies room
    rw [hpaths] at hlisted
    unfold pagesIn at hlisted ⊢
    rw [hall]
    exact hlisted
  case leaves =>
    intro k hk
    rw [Entry.all_eq] at hk
    rcases List.mem_cons.mp hk with rfl | hbelow
    · exact .inl ⟨"", rfl⟩
    · exact section_or_leaf lies room k hbelow
  case ways =>
    intro way k path leads hk
    cases leads with
    | here => exact absurd hk (by simp [Entry.target])
    | down hc rest => exact way_sectionEntries lies room hc rest hk
  case sections =>
    intro d
    rw [hsectionsIn, List.mem_cons, hsections]
  case distinct =>
    rw [hsectionsIn, List.nodup_cons]
    refine ⟨?_, (sections_sectionEntries lies room).2⟩
    -- no page starts with a slash
    intro hempty
    obtain ⟨p, hp, rest, hpath⟩ := (hsections "").mp hempty
    apply solid p hp
    rw [hpath, Path.segments_append]
    exact List.mem_append_left _ (by decide)
  case arranged =>
    intro k hk d hd
    obtain ⟨top, deeper⟩ := arranged_sectionEntries lies room (by rw [hpaths]; exact distinct)
    rw [Entry.all_eq] at hk
    rcases List.mem_cons.mp hk with rfl | hbelow
    · rw [← Target.guideSection.inj hd]
      exact top
    · exact deeper k hbelow d hd

end Guide

/-- **A guide in the table of contents.**  Whatever the model, and in whatever order the pages come,
the last entry of the table charts them; any other order gives the same table. -/
theorem charts_ofModel (m : Model) {pages : List String} (distinct : pages.Nodup)
    (solid : ∀ p ∈ pages, "" ∉ Path.segments p) :
    ∃ guide, (ofModel m (some pages)).children = declarationEntries m ++ [guide] ∧
      Charts pages guide ∧
      ∀ pages', pages.Perm pages' → ofModel m (some pages') = ofModel m (some pages) := by
  refine ⟨_, rfl, charts_guideEntry solid distinct, ?_⟩
  intro pages' h
  unfold ofModel
  simp only [entriesOfPages_eq_of_perm h]

/-- Pages in no order, with a directory that has the name of a page beside it. -/
def introPages : List String := ["intro/deep/b.html", "index.html", "intro", "intro/a.html"]

/-- They are charted, and a table from another order of them is the same. -/
theorem charts_ofModel_intro : introPages.Nodup ∧ (∀ p ∈ introPages, "" ∉ Path.segments p) ∧
    ∃ guide, (ofModel { sourceRoot := "src" } (some introPages)).children =
        declarationEntries { sourceRoot := "src" } ++ [guide] ∧
      Charts introPages guide ∧
      ∀ pages', introPages.Perm pages' →
        ofModel { sourceRoot := "src" } (some pages') =
          ofModel { sourceRoot := "src" } (some introPages) := by
  have distinct : introPages.Nodup := by decide
  have solid : ∀ p ∈ introPages, "" ∉ Path.segments p := by decide +kernel
  exact ⟨distinct, solid, charts_ofModel { sourceRoot := "src" } distinct solid⟩

end Contents
end CodeAtlas
