/-
  CodeAtlas.Proofs.GuideNames — which names of a guide get into its copy.

  A page is named by its path below the guide with slashes only.  A file system allows backslashes
  in names; for such a file the page is the path of another file, or of none.  Whatever the output
  then does, and wherever it stops, it writes nothing under a name with a backslash below the
  directory of the copied guide.

  Names are texts (`CodeAtlas.Disk.Basic`), so a guide whose file names are not valid UTF-8 is not a
  guide here: what is said about ANY guide leaves such file systems out.

  Main results:
    * `fresh_of_writable` — ONE statement about all places that the output writes to.
    * `preserves_documentation` — what the output leaves, whether it succeeds or not.
    * `verbatim_documentation` — which files of ANY guide are copied.
-/
import CodeAtlas.Proofs.GuideCopy

namespace CodeAtlas
namespace Guide

open CodeAtlas.Disk

/-! ## §1. Clean places -/

/-- A place that is not in the copied guide, or is there under names without a backslash. -/
def Clean (dest path : List String) : Prop := ∀ r, path = dest ++ "guide" :: r → Plain r

section

variable {dest path : List String}

theorem clean_of_length_le (h : path.length ≤ dest.length) : Clean dest path := by
  rintro r rfl
  rw [List.length_append, List.length_cons] at h
  omega

theorem Clean.dropLast (h : Clean dest path) : Clean dest path.dropLast := by
  intro r hr
  have hpath : path ≠ [] := by
    rintro rfl
    exact absurd hr (by simp)
  have hlonger : path = dest ++ "guide" :: (r ++ [path.getLast hpath]) := by
    rw [← List.cons_append, ← List.append_assoc, ← hr, List.dropLast_concat_getLast]
  exact fun name hname => h _ hlonger name (List.mem_append_left _ hname)

theorem Clean.concat (h : Clean dest path) {name : String} (hname : '\\' ∉ name.toList) :
    Clean dest (path ++ [name]) := by
  intro r hr
  rcases List.eq_nil_or_concat' r with rfl | ⟨front, last, rfl⟩
  · exact fun _ h => nomatch h
  · rw [← List.cons_append, ← List.append_assoc] at hr
    obtain ⟨hfront, hlast⟩ := List.append_inj' hr rfl
    intro s hs
    rcases List.mem_append.mp hs with hs | hs
    · exact h front hfront s hs
    · rwa [List.mem_singleton.mp hs, ← (List.cons.inj hlast).1]

end

/-- What writing adds: files and directories at clean places. -/
def Fresh (dest path : List String) (e : DiskEntry) : Prop :=
  Clean dest path ∧ ∀ target, e ≠ .link target

/-- A path or one of its parents, by the segments of the path. -/
def Within (segments : List String) (path : String) : Prop :=
  path = "" ∨ path = "/" ∨ path ≠ "" ∧ Path.segments path <+: segments

theorem within_segments {path : String} : Within (Path.segments path) path := by
  by_cases h : path = ""
  · exact .inl h
  · exact .inr (.inr ⟨h, List.prefix_refl _⟩)

theorem Within.parent {segments : List String} {path parent : String} (h : Within segments path)
    (hparent : Path.parent? path = some parent) : Within segments parent := by
  have hnone : Path.parent? "" = none ∧ Path.parent? "/" = none := by decide
  rcases h with rfl | rfl | ⟨_, hpath⟩
  · rw [hnone.1] at hparent
    exact nomatch hparent
  · rw [hnone.2] at hparent
    exact nomatch hparent
  · rcases Path.segments_of_parent? hparent with rfl | rfl | hsegments
    · exact .inl rfl
    · exact .inr (.inl rfl)
    · by_cases hempty : parent = ""
      · exact .inl hempty
      · exact .inr (.inr ⟨hempty, hsegments.trans hpath⟩)

/-- Segments of paths that lead to clean places only: they have no backslash, or have none behind
the destination. -/
def Harmless (destination : String) (segments : List String) : Prop :=
  Plain segments ∨ ∃ rest, segments = Path.front destination ++ rest ∧ Plain rest

/-! ## §2. Names that are lost -/

/-- No link on the disk has a backslash in its target. -/
def PlainLinks (d : Disk) : Prop :=
  ∀ path target, d.get? path = some (.link target) → '\\' ∉ target.toList

section

variable {d d' : Disk} {root destination : String} {dir dest : List String}
  (ready : Ready d root destination dir dest) (links : PlainLinks d)
  (grown : d.Grown (Fresh dest) d')

include ready grown in
theorem clean_of_some {path : List String} {e : DiskEntry} (h : d'.get? path = some e) :
    Clean dest path := by
  rcases grown.new path e h with hold | hnew
  · rintro r rfl
    rw [ready.sound.none_of_children ready.empty (by simp)] at hold
    exact nomatch hold
  · exact hnew.1

include ready links grown

theorem clean_of_resolveFrom {follow : Bool} {n : Nat} {start names : List String} {place : Place}
    (hstart : d'.get? start = some .directory) (noSlash : ∀ s ∈ names, '/' ∉ s.toList)
    (plain : Plain names) (h : d'.resolveFrom follow n start names = .ok place) :
    place.On (Clean dest) := by
  apply grown.sound.on_resolveFrom (C := Clean dest) (N := fun s => '\\' ∉ s.toList)
    (fun _ h => h.dropLast) (fun _ _ h hname => h.concat hname)
    (clean_of_length_le (Nat.zero_le _)) ?_ hstart (clean_of_some ready grown hstart) noSlash
    plain h
  intro path target hlink s hs hc
  have hold : d.get? path = some (.link target) := by
    rcases grown.new path _ hlink with hold | hnew
    · exact hold
    · exact absurd rfl (hnew.2 target)
  exact links path target hold (Path.mem_of_mem_segments (by decide) hs hc)

theorem clean_of_plain {follow : Bool} {path : String} {place : Place}
    (plain : Plain (Path.segments path)) (h : d'.resolve follow path = .ok place) :
    place.On (Clean dest) := by
  by_cases hpath : path = ""
  · rw [hpath] at h
    exact nomatch h
  · rw [resolve_of_ne hpath] at h
    exact clean_of_resolveFrom ready links grown (get?_start path grown.sound.here)
      (fun _ hs => Path.notMem_of_mem_segments hs) plain h

theorem clean_below {follow : Bool} {path : String} {names : List String} {place : Place}
    (hpath : Path.segments path = Path.front destination ++ names) (hnames : names ≠ [])
    (plain : Plain names) (h : d'.resolve follow path = .ok place) : place.On (Clean dest) := by
  obtain ⟨left, hleft⟩ := grown.sound.spells
    (grown.keeps.find?_eq ready.sound ready.destination) hpath hnames
  rw [hleft] at h
  refine clean_of_resolveFrom ready links grown
    (grown.keeps.directory ready.directory_destination) (fun s hs => ?_) plain h
  exact Path.notMem_of_mem_segments (hpath ▸ List.mem_append_right _ hs)

omit links in
/-- A path in front of the destination leads to what is there. -/
theorem not_vacant_of_isPrefix {follow : Bool} {path : String} {there : List String}
    (hpath : path ≠ "") (h : Path.segments path <+: Path.segments destination) :
    d'.resolve follow path ≠ .ok (.vacant there) := by
  have hdest := grown.keeps.find?_eq ready.sound ready.destination
  have hne := ne_empty_of_find? hdest
  obtain ⟨more, hmore⟩ := h
  have hstart : Text.startsWith "/" path = Text.startsWith "/" destination := by
    apply Path.startsWith_slash_eq hpath hne
    rw [← hmore, List.head?_append_of_ne_nil _ (Path.segments_ne_nil path)]
  rw [find?_eq_some_iff, resolve_of_ne hne, ← hmore, ← hstart] at hdest
  obtain ⟨path', e, hpresent⟩ := grown.sound.present_of_append
    (get?_start path grown.sound.here) (fun _ hs => Path.notMem_of_mem_segments hs) hdest follow
  rw [resolve_of_ne hpath, hpresent]
  exact nofun

/-- **What is missing along harmless segments is missing at a clean place.** -/
theorem clean_of_vacant {follow : Bool} {segments : List String} {path : String}
    {there : List String} (harmless : Harmless destination segments) (hne : path ≠ "")
    (hpath : Path.segments path <+: segments) (h : d'.resolve follow path = .ok (.vacant there)) :
    Clean dest there := by
  rcases harmless with hplain | ⟨rest, rfl, hplain⟩
  · exact clean_of_plain ready links grown (fun s hs => hplain s (hpath.subset hs)) h
  · obtain ⟨slack, hslack, _⟩ := Path.segments_eq_front destination
    -- the directories in front of the destination are there, so what is missing lies behind it
    have hfront : ¬ Path.segments path <+: Path.front destination := by
      intro hfront
      refine not_vacant_of_isPrefix ready grown hne ?_ h
      rw [hslack]
      exact hfront.trans (List.prefix_append ..)
    rcases List.prefix_or_prefix_of_prefix hpath (List.prefix_append ..) with hshort | hlong
    · exact absurd hshort hfront
    · obtain ⟨names, hnames⟩ := hlong
      rw [← hnames, List.prefix_append_right_inj] at hpath
      have hsome : names ≠ [] := by
        rintro rfl
        rw [List.append_nil] at hnames
        exact hfront (hnames ▸ List.prefix_refl _)
      exact clean_below ready links grown hnames.symm hsome
        (fun s hs => hplain s (hpath.subset hs)) h

/-- **Whatever is written along harmless segments is written at a clean place.** -/
theorem fresh_of_writable {follow : Bool} {segments : List String} {path : String}
    {there : List String} {e : DiskEntry} (harmless : Harmless destination segments)
    (hpath : Within segments path) (h : d'.Writable follow path there)
    (hlink : ∀ target, e ≠ .link target) : Fresh dest there e := by
  refine ⟨?_, hlink⟩
  rcases h with h | ⟨bytes, h⟩
  · rcases hpath with rfl | rfl | ⟨hne, hprefix⟩
    · exact nomatch h
    · have hroot : Path.segments "/" = ["", ""] := by decide
      refine clean_of_plain ready links grown ?_ h
      rw [hroot]
      simp [Plain]
    · exact clean_of_vacant ready links grown harmless hne hprefix h
  · exact clean_of_some ready grown (grown.sound.right_resolve h)

theorem grown_makeDirectories {segments : List String} {path : String} {d'' : Disk}
    (harmless : Harmless destination segments) (hpath : Within segments path)
    (h : d'.makeDirectories path = .ok d'') : d.Grown (Fresh dest) d'' := by
  refine grown.trans (grown.sound.grown_makeDirectoriesUpTo (T := Within segments)
    (fun _ _ hpath hparent => hpath.parent hparent) ?_ hpath h)
  intro d₁ path there hgrown hpath hwritable
  exact fresh_of_writable ready links (grown.trans hgrown) harmless hpath hwritable (by simp)

theorem grown_write {path : String} {bytes : ByteArray} {d'' : Disk}
    (harmless : Harmless destination (Path.segments path)) (h : d'.write path bytes = .ok d'') :
    d.Grown (Fresh dest) d'' := by
  refine grown.trans (grown.sound.grown_write ?_ h)
  intro there hwritable
  exact fresh_of_writable ready links grown harmless within_segments hwritable (by simp)

theorem grown_copy {source path : String} {d'' : Disk}
    (harmless : Harmless destination (Path.segments path)) (h : d'.copy source path = .ok d'') :
    d.Grown (Fresh dest) d'' := by
  refine grown.trans (grown.sound.grown_copy ?_ h)
  intro d₁ there bytes hgrown hwritable
  exact fresh_of_writable ready links (grown.trans hgrown) harmless within_segments hwritable
    (by simp)

omit grown

open Writing in
theorem preserves_json {name : String} (hname : IsName name) (plain : '\\' ∉ name.toList)
    (j : Json) (pretty : Bool) :
    Preserves (d.Grown (Fresh dest)) (json (Path.join destination name) j pretty) := by
  have hpath := segments_join_name (ne_empty_of_find? ready.destination) hname
  have harmless : Harmless destination (Path.segments (Path.join destination name)) :=
    .inr ⟨[name], hpath, by simpa [Plain] using plain⟩
  exact (preserves_change fun _ _ grown h => grown_write ready links grown harmless h).bind
    fun _ => preserves_pure _

open Writing in
theorem preserves_page {g : Guide} {text : String} (plain : '\\' ∉ text.toList) :
    Preserves (d.Grown (Fresh dest)) (page g (Path.join destination "guide") text) := by
  have hsegments : Plain (Path.segments text) := by
    intro s hs hc
    exact plain (Path.mem_of_mem_segments (by decide) hs hc)
  have harmless : Harmless destination
      (Path.segments (Path.join (Path.join destination "guide") text)) := by
    -- a page that starts with a slash takes the place of the whole path
    by_cases hrelative : Text.startsWith "/" text = true
    · rw [Path.join, if_pos hrelative]
      exact .inl hsegments
    · rw [segments_target (ne_empty_of_find? ready.destination) (Bool.eq_false_iff.mpr hrelative)]
      refine .inr ⟨_, rfl, ?_⟩
      simpa [Plain] using hsegments
  have hcopy : ∀ d₁ d₂, d.Grown (Fresh dest) d₁ →
      d₁.copy (Path.join g.root text) (Path.join (Path.join destination "guide") text) = .ok d₂ →
      d.Grown (Fresh dest) d₂ :=
    fun _ _ grown h => grown_copy ready links grown harmless h
  unfold page
  dsimp only
  split
  next parent hparent =>
    refine (preserves_change fun _ _ grown h => ?_).bind fun _ =>
      (preserves_change hcopy).bind fun _ => preserves_pure _
    exact grown_makeDirectories ready links grown harmless (within_segments.parent hparent) h
  next => exact (preserves_change hcopy).bind fun _ => preserves_pure _

open Writing in
/-- The output puts nothing under a name with a backslash into the copied guide. -/
theorem preserves_documentation {g : Guide} (plain : ∀ page ∈ g.pages, '\\' ∉ page.toList)
    {doc : Documentation} (hdoc : doc.guide = some g) (s : OutputSettings) :
    Preserves (d.Grown (Fresh dest)) (documentation doc destination s) := by
  have harmless : Harmless destination (Path.segments destination) := by
    obtain ⟨slack, hslack, hempty⟩ := Path.segments_eq_front destination
    refine .inr ⟨slack, hslack, fun s hs => ?_⟩
    rw [hempty s hs]
    simp
  have hjson : ∀ name ∈ ["guide", "documentation.json", "toc.json", "search.json"], ∀ j,
      Preserves (d.Grown (Fresh dest)) (json (Path.join destination name) j s.pretty) := by
    intro name h j
    obtain ⟨hname, hplain⟩ := isName_of_written name h
    exact preserves_json ready links hname hplain j s.pretty
  unfold documentation
  rw [hdoc]
  refine (preserves_change fun _ _ grown h =>
    grown_makeDirectories ready links grown harmless within_segments h).bind fun _ => ?_
  refine (hjson _ (by simp) _).bind fun _ => (hjson _ (by simp) _).bind fun _ =>
    (hjson _ (by simp) _).bind fun _ => ?_
  exact (preserves_mapM fun page hpage => preserves_page ready links (plain page hpage)).bind
    fun _ => preserves_pure _

/-- **A name with a backslash is lost.** -/
theorem none_of_not_plain {g : Guide} (plain : ∀ page ∈ g.pages, '\\' ∉ page.toList)
    {doc : Documentation} (hdoc : doc.guide = some g) (s : OutputSettings) {r : List String}
    (hr : ¬ Plain r) :
    (Writing.documentation doc destination s d).2.get? (dest ++ "guide" :: r) = none := by
  have grown := preserves_documentation ready links plain hdoc s d ready.sound.grown_refl
  rw [Option.eq_none_iff_forall_ne_some]
  intro e he
  exact hr (clean_of_some ready grown he r rfl)

end

theorem notMem_pagePath (r : List String) : '\\' ∉ (pagePath r).toList := by
  rw [pagePath, Path.toList_slashed, List.mem_map]
  rintro ⟨c, _, hc⟩
  split at hc
  next => exact absurd hc (by decide)
  next hne => exact hne (by simpa using hc)

/-! ## §3. What is copied -/

section

variable {d : Disk} {root destination : String} {dir dest : List String}

/-- **Which files of a guide are copied.**  A scan lists one page for each file, whatever the files
are called.  If no name has a backslash, all is written, the copy has the files of the guide and
their bytes, and nothing changes outside of the destination.  But a page is written with slashes
only, so nothing is copied to a name with a backslash, and a file that has one is lost.  A link to
such a name could put a file there, which is why the targets of links come in. -/
theorem verbatim_documentation (ready : Ready d root destination dir dest) :
    ∃ g, scan d root = .ok g ∧ Lists d dir g ∧
      ∀ (doc : Documentation) (s : OutputSettings), doc.guide = some g →
        ((∀ r bytes, d.get? (dir ++ r) = some (.file bytes) → Plain r) →
          ∃ d', Writing.documentation doc destination s d =
              (.ok (writtenFirst destination ++
                g.pages.map (Path.join (Path.join destination "guide"))), d') ∧
            Verbatim d dir d' (dest ++ ["guide"]) ∧
            ∀ path, ¬ dest <+: path → d'.get? path = d.get? path) ∧
        (PlainLinks d → ∀ r, ¬ Plain r →
          (Writing.documentation doc destination s d).2.get? (dest ++ "guide" :: r) = none) := by
  obtain ⟨pages, hscan, lists⟩ := lists_scan ready.sound ready.root
  refine ⟨_, hscan, lists, fun doc s hdoc => ⟨?_, ?_⟩⟩
  · intro plain
    exact ready.verbatim_of_plain lists plain hdoc s
  · intro links r hr
    refine none_of_not_plain ready links (fun page hpage => ?_) hdoc s hr
    obtain ⟨r', _, _, rfl⟩ := lists.mem_pages_iff.mp hpage
    exact notMem_pagePath r'

end

/-- A disk with a guide of one file, in a hidden directory, and an empty directory. -/
def shelf (name : String) : Disk :=
  (((({} : Disk).put ["guide"] .directory).put ["out"] .directory).put
    ["guide", ".drafts"] .directory).put ["guide", ".drafts", name] (.file "<p>".toUTF8)

/-- What stands on such a disk. -/
def OnShelf (name : String) (path : List String) (e : DiskEntry) : Prop :=
  e = .directory ∨ path = ["guide", ".drafts", name] ∧ e = .file "<p>".toUTF8

section

variable {name : String} (hname : IsName name)
include hname

theorem grown_shelf : ({} : Disk).Grown (OnShelf name) (shelf name) := by
  have legal : IsName "guide" ∧ IsName "out" ∧ IsName ".drafts" := by
    unfold IsName
    decide
  have add : ∀ {d : Disk} (dir : List String) {child : String} {e : DiskEntry},
      ({} : Disk).Grown (OnShelf name) d → d.get? dir = some .directory →
      d.get? (dir ++ [child]) = none → IsName child → OnShelf name (dir ++ [child]) e →
      ({} : Disk).Grown (OnShelf name) (d.put (dir ++ [child]) e) := by
    intro d dir child e grown hdir hnone hchild he
    refine grown.trans (grown.sound.grown_put hdir hchild (fun e' he' => ?_) he)
    rw [hnone] at he'
    exact nomatch he'
  have guide := add [] sound_empty.grown_refl rfl rfl legal.1 (.inl rfl)
  have out := add [] guide rfl rfl legal.2.1 (.inl rfl)
  have drafts := add ["guide"] out rfl rfl legal.2.2 (.inl rfl)
  exact add ["guide", ".drafts"] drafts rfl rfl hname (.inr ⟨rfl, rfl⟩)

theorem ready_shelf : Ready (shelf name) "guide" "out" ["guide"] ["out"] :=
  ⟨(grown_shelf hname).sound, rfl, rfl, rfl⟩

theorem onShelf_of_some {path : List String} {e : DiskEntry}
    (h : (shelf name).get? path = some e) : OnShelf name path e := by
  rcases (grown_shelf hname).new path e h with hold | hnew
  · cases path with
    | nil => exact .inl (Option.some.inj hold).symm
    | cons => exact nomatch hold
  · exact hnew

end

/-- A hidden file is copied, and one with a backslash in its name is lost. -/
theorem verbatim_documentation_shelf :
    (Ready (shelf ".a.html") "guide" "out" ["guide"] ["out"] ∧
      ∃ g d', scan (shelf ".a.html") "guide" = .ok g ∧
        Writing.documentation { (default : Documentation) with guide := some g } "out" {}
            (shelf ".a.html") =
          (.ok (writtenFirst "out" ++ g.pages.map (Path.join (Path.join "out" "guide"))), d') ∧
        d'.get? ["out", "guide", ".drafts", ".a.html"] = some (.file "<p>".toUTF8)) ∧
    Ready (shelf "a\\b.html") "guide" "out" ["guide"] ["out"] ∧
      (shelf "a\\b.html").get? ["guide", ".drafts", "a\\b.html"] = some (.file "<p>".toUTF8) ∧
      ∃ g, scan (shelf "a\\b.html") "guide" = .ok g ∧
        (Writing.documentation { (default : Documentation) with guide := some g } "out" {}
          (shelf "a\\b.html")).2.get? ["out", "guide", ".drafts", "a\\b.html"] = none := by
  have legal : IsName ".a.html" ∧ IsName "a\\b.html" := by
    unfold IsName
    decide
  refine ⟨⟨ready_shelf legal.1, ?_⟩, ready_shelf legal.2, rfl, ?_⟩
  · obtain ⟨g, hscan, _, hwritten⟩ := verbatim_documentation (ready_shelf legal.1)
    have plain : ∀ r bytes, (shelf ".a.html").get? (["guide"] ++ r) = some (.file bytes) →
        Plain r := by
      intro r bytes h
      rcases onShelf_of_some legal.1 h with hdirectory | ⟨hfile, _⟩
      · exact nomatch hdirectory
      · have hr : r = [".drafts", ".a.html"] := (List.cons.inj hfile).2
        rw [hr]
        unfold Plain
        decide
    obtain ⟨d', hd', verbatim, _⟩ := (hwritten { (default : Documentation) with guide := some g } {}
      rfl).1 plain
    exact ⟨g, d', hscan, hd', verbatim.files [".drafts", ".a.html"] _ rfl⟩
  · obtain ⟨g, hscan, _, hwritten⟩ := verbatim_documentation (ready_shelf legal.2)
    have links : PlainLinks (shelf "a\\b.html") := by
      intro path target h
      rcases onShelf_of_some legal.2 h with hlink | ⟨_, hlink⟩
      · exact nomatch hlink
      · exact nomatch hlink
    refine ⟨g, hscan, (hwritten { (default : Documentation) with guide := some g } {} rfl).2 links
      [".drafts", "a\\b.html"] ?_⟩
    unfold Plain
    decide

/-- **A guide of which nothing is copied.**  Its only page has the path of a file that is not
there. -/
theorem lost_page :
    Ready (shelf "a\\b.html") "guide" "out" ["guide"] ["out"] ∧
      scan (shelf "a\\b.html") "guide" = .ok ⟨"guide", [".drafts/a/b.html"]⟩ ∧
      (Writing.documentation
          { (default : Documentation) with guide := some ⟨"guide", [".drafts/a/b.html"]⟩ } "out" {}
          (shelf "a\\b.html")).1 =
        .error (.notWritten "out/guide/.drafts/a/b.html" .notFound) := by
  have legal : IsName "a\\b.html" := by
    unfold IsName
    decide
  exact ⟨ready_shelf legal, by decide +kernel, by decide +kernel⟩

end Guide
end CodeAtlas
