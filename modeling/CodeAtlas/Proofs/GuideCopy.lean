/-
  CodeAtlas.Proofs.GuideCopy — a guide is copied page by page.

  The output first writes its own files and then copies the pages of the guide, each below the
  directory `guide` of the destination, where the directories around a page are made as they are
  needed.  Between two pages the copy is a part of the guide, so no page stands in the way of
  another one; and the guide itself does not change, since its files stand outside of the empty
  directory.  The guide may hold links or the destination itself.

  Main results:
    * `Writing.mapM_succeeds`, `Writing.preserves_mapM` — the invariants of a loop that writes.
    * `Copying.page_succeeds` — ONE page more, whatever has been copied before it.
    * `lists_scan` — all files below a directory are listed.
    * `Ready.verbatim_of_plain` — a guide whose names have no backslash is copied verbatim.
-/
import Mathlib.Data.List.Perm.Basic
import CodeAtlas.Output
import CodeAtlas.Proofs.Order
import CodeAtlas.Proofs.Disk.Growth
import CodeAtlas.Proofs.Disk.Walk

namespace CodeAtlas

/-! ## §1. Steps that write -/

namespace Writing

variable {α β : Type} {d d' d'' : Disk}

theorem bind_of_ok {x : Writing α} {f : α → Writing β} {a : α} (h : x d = (.ok a, d')) :
    (x >>= f) d = f a d' := by
  show (ExceptT.bindCont f (x d).1) (x d).2 = _
  rw [h]
  rfl

theorem change_of_ok {path : String} {f : Disk → Except DiskError Disk} (h : f d = .ok d') :
    change path f d = (.ok (), d') := by
  unfold change
  rw [h]

theorem json_of_ok {path : String} {j : Json} {pretty : Bool}
    (h : d.write path ((if pretty then j.pretty else j.compact) ++ "\n").toUTF8 = .ok d') :
    json path j pretty d = (.ok path, d') :=
  bind_of_ok (change_of_ok h)

/-- The two changes of which the copy of a page is made. -/
theorem page_of_ok {g : Guide} {target text parent : String}
    (hparent : Path.parent? (Path.join target text) = some parent)
    (hmade : d.makeDirectories parent = .ok d')
    (hcopy : d'.copy (Path.join g.root text) (Path.join target text) = .ok d'') :
    page g target text d = (.ok (Path.join target text), d'') := by
  unfold page
  dsimp only
  rw [hparent]
  dsimp only
  rw [bind_of_ok (change_of_ok hmade), bind_of_ok (change_of_ok hcopy)]
  rfl

/-- **The invariant of a loop that writes.**  It may speak about the elements taken in so far. -/
theorem mapM_succeeds {f : α → Writing β} {g : α → β} {P : List α → Disk → Prop} {l : List α}
    (start : P [] d)
    (step : ∀ done a d, a ∈ l → P done d → ∃ d', f a d = (.ok (g a), d') ∧ P (done ++ [a]) d') :
    ∃ d', l.mapM f d = (.ok (l.map g), d') ∧ P l d' := by
  have run : ∀ rest done d, rest ⊆ l → P done d →
      ∃ d', rest.mapM f d = (.ok (rest.map g), d') ∧ P (done ++ rest) d' := by
    intro rest
    induction rest with
    | nil =>
      intro done d _ hP
      exact ⟨d, rfl, by rwa [List.append_nil]⟩
    | cons a rest ih =>
      intro done d hsub hP
      obtain ⟨d₁, hd₁, hP₁⟩ := step done a d (hsub List.mem_cons_self) hP
      obtain ⟨d₂, hd₂, hP₂⟩ := ih (done ++ [a]) d₁ (List.subset_of_cons_subset hsub) hP₁
      refine ⟨d₂, ?_, by rwa [List.append_cons]⟩
      rw [List.mapM_cons, bind_of_ok hd₁, bind_of_ok hd₂]
      rfl
  exact run l [] d (List.Subset.refl l) start

/-- Steps after which a property of the disk still holds, however they end. -/
def Preserves (J : Disk → Prop) (x : Writing α) : Prop := ∀ d, J d → J (x d).2

variable {J : Disk → Prop}

theorem preserves_pure (a : α) : Preserves J (pure a : Writing α) := fun _ h => h

theorem Preserves.bind {x : Writing α} {f : α → Writing β} (hx : Preserves J x)
    (hf : ∀ a, Preserves J (f a)) : Preserves J (x >>= f) := by
  intro d hd
  have hfirst := hx d hd
  show J ((ExceptT.bindCont f (x d).1) (x d).2).2
  cases (x d).1 with
  | ok a => exact hf a _ hfirst
  | error e => exact hfirst

theorem preserves_change {path : String} {f : Disk → Except DiskError Disk}
    (h : ∀ d d', J d → f d = .ok d' → J d') : Preserves J (change path f) := by
  intro d hd
  unfold change
  cases hf : f d with
  | ok d' => exact h d d' hd hf
  | error e => exact hd

theorem preserves_mapM {f : α → Writing β} {l : List α} (h : ∀ a ∈ l, Preserves J (f a)) :
    Preserves J (l.mapM f) := by
  induction l with
  | nil => exact preserves_pure []
  | cons a rest ih =>
    rw [List.mapM_cons]
    refine (h a List.mem_cons_self).bind fun b => ?_
    refine (ih fun c hc => h c (List.mem_cons_of_mem a hc)).bind fun bs => ?_
    exact preserves_pure (b :: bs)

end Writing

/-! ## §2. Pages -/

namespace Guide

open CodeAtlas.Disk

/-- A guide and an empty directory to which it is to be copied. -/
structure Ready (d : Disk) (root destination : String) (dir dest : List String) : Prop where
  sound : d.Sound
  root : d.find? root = some (dir, .directory)
  destination : d.find? destination = some (dest, .directory)
  empty : d.children dest = []

namespace Ready

variable {d : Disk} {root destination : String} {dir dest : List String}
  (ready : Ready d root destination dir dest)
include ready

theorem directory_root : d.get? dir = some .directory :=
  ready.sound.right_resolve (find?_eq_some_iff.mp ready.root)

theorem directory_destination : d.get? dest = some .directory :=
  ready.sound.right_resolve (find?_eq_some_iff.mp ready.destination)

/-- What is on the disk stands outside of the empty directory. -/
theorem not_below {path : List String} {e : DiskEntry} (h : d.get? path = some e)
    (hne : path ≠ dest) : ¬ dest <+: path := by
  rintro ⟨rest, rfl⟩
  rw [ready.sound.none_of_children ready.empty fun hrest => hne (by rw [hrest, List.append_nil])]
    at h
  exact nomatch h

/-- A file of the guide stands outside of the empty directory. -/
theorem file_not_below {r : List String} {bytes : ByteArray}
    (h : d.get? (dir ++ r) = some (.file bytes)) : ¬ dest <+: dir ++ r := by
  apply ready.not_below h
  rintro heq
  rw [heq, ready.directory_destination] at h
  exact nomatch h

theorem file_ne_nil {r : List String} {bytes : ByteArray}
    (h : d.get? (dir ++ r) = some (.file bytes)) : r ≠ [] := by
  rintro rfl
  rw [List.append_nil, ready.directory_root] at h
  exact nomatch h

theorem isName_of_file {r : List String} {bytes : ByteArray}
    (h : d.get? (dir ++ r) = some (.file bytes)) : ∀ s ∈ r, IsName s :=
  fun s hs => ready.sound.names _ _ h s (List.mem_append_right dir hs)

end Ready

/-- Names without a backslash. -/
def Plain (r : List String) : Prop := ∀ name ∈ r, '\\' ∉ name.toList

theorem pagePath_of_plain {r : List String} (plain : Plain r) :
    pagePath r = "/".intercalate r := by
  apply Path.slashed_of_plain
  rw [Path.mem_intercalate_iff (by decide)]
  rintro ⟨name, hname, hc⟩
  exact plain name hname hc

theorem segments_pagePath {r : List String} (hr : r ≠ []) (legal : ∀ s ∈ r, IsName s)
    (plain : Plain r) : Path.segments (pagePath r) = r := by
  rw [pagePath_of_plain plain]
  exact Path.segments_intercalate hr fun s hs => (legal s hs).2.2.2

theorem relative_of_segments {path : String} {r : List String} (h : Path.segments path = r)
    (hr : r ≠ []) (legal : ∀ s ∈ r, IsName s) : Text.startsWith "/" path = false := by
  obtain ⟨first, rest, rfl⟩ := List.exists_cons_of_ne_nil hr
  have hfirst : IsName first := legal first List.mem_cons_self
  have hpath : path ≠ "" := by
    rintro rfl
    rw [Path.segments_empty, List.cons.injEq] at h
    exact hfirst.1 h.1.symm
  rw [Bool.eq_false_iff, ne_eq, Path.startsWith_slash_iff hpath, h, List.head?_cons,
    Option.some.injEq]
  exact hfirst.1

/-- The names that are written directly below the destination. -/
theorem isName_of_written : ∀ name ∈ ["guide", "documentation.json", "toc.json", "search.json"],
    IsName name ∧ '\\' ∉ name.toList := by
  unfold IsName
  decide

theorem segments_join_name {destination name : String} (hdest : destination ≠ "")
    (hname : IsName name) :
    Path.segments (Path.join destination name) = Path.front destination ++ [name] := by
  have hsegments : Path.segments name = [name] := by
    have h := Path.segments_intercalate (List.cons_ne_nil name []) (by simpa using hname.2.2.2)
    rwa [String.intercalate_singleton] at h
  rw [Path.segments_join hdest (relative_of_segments hsegments (by simp) (by simpa using hname)),
    hsegments]

/-- The segments of the path to which a page is copied. -/
theorem segments_target {destination path : String} (hdest : destination ≠ "")
    (relative : Text.startsWith "/" path = false) :
    Path.segments (Path.join (Path.join destination "guide") path) =
      Path.front destination ++ "guide" :: Path.segments path := by
  have htarget := segments_join_name hdest (isName_of_written "guide" (by simp)).1
  have hne : Path.join destination "guide" ≠ "" :=
    Path.ne_empty_of_segments (Path.front_ne_nil destination) (by simp) htarget
  rw [Path.segments_join hne relative,
    Path.front_eq_segments (by rw [htarget, List.getLast?_concat]) (by decide), htarget,
    List.append_assoc]
  rfl

/-! ## §3. Copying a page -/

/-- What stands in the destination after some pages have been copied: below the directory of the
guide only entries of the guide, the copied pages among them, and only files beside it. -/
structure Copying (d : Disk) (dir dest : List String) (done : List String) (d' : Disk) : Prop where
  grown : d.Grown (fun _ _ => True) d'
  outside : ∀ path, ¬ dest <+: path → d'.get? path = d.get? path
  beside : ∀ name e, name ≠ "guide" → d'.get? (dest ++ [name]) = some e → ∃ bytes, e = .file bytes
  mirror : ∀ r e, d'.get? (dest ++ "guide" :: r) = some e → d.get? (dir ++ r) = some e
  copied : ∀ page ∈ done, ∃ bytes,
    d'.get? (dest ++ "guide" :: Path.segments page) = some (.file bytes)

namespace Copying

variable {d d' : Disk} {root destination : String} {dir dest : List String} {done : List String}
  (ready : Ready d root destination dir dest) (copying : Copying d dir dest done d')
include ready copying

/-- On the way to a page stand only directories. -/
theorem clear {r rest : List String} {bytes : ByteArray} (hrest : rest ≠ [])
    (hfile : d.get? (dir ++ (r ++ rest)) = some (.file bytes)) {q : List String}
    (hq : q <+: "guide" :: r) :
    d'.get? (dest ++ q) = none ∨ d'.get? (dest ++ q) = some .directory := by
  cases q with
  | nil =>
    rw [List.append_nil]
    exact .inr (copying.grown.keeps.directory ready.directory_destination)
  | cons name q =>
    obtain ⟨rfl, back, rfl⟩ := List.cons_prefix_cons.mp hq
    cases hentry : d'.get? (dest ++ "guide" :: q) with
    | none => exact .inl rfl
    | some e =>
      have hlong : d.get? (dir ++ q ++ (back ++ rest)) = some (.file bytes) := by
        rw [← hfile]
        simp
      have habove := ready.sound.directory_above hlong (by simp [hrest])
      rw [copying.mirror q e hentry] at habove
      exact .inr habove

/-- **One page more.**  Its directories are made and its file is written; nothing else changes. -/
theorem add {d₂ : Disk} {page name : String} {front : List String} {bytes : ByteArray}
    (hpage : Path.segments page = front ++ [name])
    (hfile : d.get? (dir ++ (front ++ [name])) = some (.file bytes))
    (added : d'.Added dest ("guide" :: front) name bytes d₂)
    (hgrown : d'.Grown (fun _ _ => True) d₂) : Copying d dir dest (done ++ [page]) d₂ := by
  have hothers : ∀ r, r ≠ front ++ [name] → ¬ r <+: front →
      d₂.get? (dest ++ "guide" :: r) = d'.get? (dest ++ "guide" :: r) := by
    intro r hr hprefix
    apply added.others
    · exact fun heq => hr (List.cons.inj heq).2
    · exact fun h => hprefix (List.cons_prefix_cons.mp h).2
  refine ⟨copying.grown.trans hgrown, ?_, ?_, ?_, ?_⟩
  · intro path hpath
    rw [added.outside path hpath, copying.outside path hpath]
  · intro other e hother he
    rw [added.others [other]] at he
    · exact copying.beside other e hother he
    · exact fun heq => hother (List.cons.inj heq).1
    · exact fun h => hother (List.cons_prefix_cons.mp h).1
  · intro r e he
    by_cases hr : r = front ++ [name]
    · rw [hr, hfile, ← added.file, ← he, hr]
      rfl
    · by_cases hprefix : r <+: front
      · rw [added.directory _ (List.cons_prefix_cons.mpr ⟨rfl, hprefix⟩)] at he
        obtain ⟨back, rfl⟩ := hprefix
        have hlong : d.get? (dir ++ r ++ (back ++ [name])) = some (.file bytes) := by
          rw [← hfile]
          simp
        rw [ready.sound.directory_above hlong (by simp), he]
      · rw [hothers r hr hprefix] at he
        exact copying.mirror r e he
  · intro other hother
    by_cases hr : Path.segments other = front ++ [name]
    · exact ⟨bytes, hr ▸ added.file⟩
    · rcases List.mem_append.mp hother with hdone | hlast
      · obtain ⟨bytes', hbytes'⟩ := copying.copied other hdone
        refine ⟨bytes', ?_⟩
        rw [hothers _ hr ?_, hbytes']
        -- no page stands where another one needs a directory
        intro hprefix
        rcases copying.clear ready (by simp) hfile
          (List.cons_prefix_cons.mpr ⟨rfl, hprefix⟩) with hnone | hdirectory
        · rw [hnone] at hbytes'
          exact nomatch hbytes'
        · rw [hdirectory] at hbytes'
          exact nomatch hbytes'
      · rw [List.mem_singleton.mp hlast] at hr
        exact absurd hpage hr

/-- The directories around a page are made. -/
theorem parent_made {path name : String} {front : List String} {bytes : ByteArray}
    (hfile : d.get? (dir ++ (front ++ [name])) = some (.file bytes))
    (hpath : Path.segments path = Path.front destination ++ "guide" :: (front ++ [name])) :
    ∃ parent d₁, Path.parent? path = some parent ∧ d'.makeDirectories parent = .ok d₁ ∧
      d'.MadeBelow dest ("guide" :: front) d₁ ∧ d'.Grown (fun _ _ => True) d₁ := by
  have legal := ready.isName_of_file hfile
  have hguide : ∀ s ∈ "guide" :: front, IsName s := by
    intro s hs
    rcases List.mem_cons.mp hs with rfl | hs
    · exact (isName_of_written "guide" (by simp)).1
    · exact legal s (List.mem_append_left _ hs)
  obtain ⟨parent, hparent, hsegments⟩ :=
    exists_parent?_below (List.cons_ne_nil _ _) hguide (legal name (by simp)) hpath
  have sound := copying.grown.sound
  have hdepth : ("guide" :: front).length ≤ (Path.segments parent).length + 1 := by
    rw [hsegments, List.length_append]
    omega
  obtain ⟨d₁, hmade, made⟩ := sound.makeDirectories_below
    (copying.grown.keeps.find?_eq ready.sound ready.destination) (List.cons_ne_nil _ _) hguide
    (fun q hq => copying.clear ready (by simp) hfile hq) hsegments hdepth
  exact ⟨parent, d₁, hparent, hmade, made,
    sound.grown_makeDirectoriesUpTo (T := fun _ => True) (fun _ _ _ _ => trivial)
      (fun _ _ _ _ _ _ => trivial) trivial hmade⟩

/-- **A page is copied**, whatever has been copied before it. -/
theorem page_succeeds {pages : List String} {page : String} {r : List String} {bytes : ByteArray}
    (hpage : Path.segments page = r) (hfile : d.get? (dir ++ r) = some (.file bytes)) :
    ∃ d₂, Writing.page ⟨root, pages⟩ (Path.join destination "guide") page d' =
        (.ok (Path.join (Path.join destination "guide") page), d₂) ∧
      Copying d dir dest (done ++ [page]) d₂ := by
  have hr := ready.file_ne_nil hfile
  have legal := ready.isName_of_file hfile
  have hrelative := relative_of_segments hpage hr legal
  have hsource := Path.segments_join (ne_empty_of_find? ready.root) hrelative
  have htarget := segments_target (ne_empty_of_find? ready.destination) hrelative
  rw [hpage] at hsource htarget
  rcases List.eq_nil_or_concat' r with rfl | ⟨front, name, rfl⟩
  · exact absurd rfl hr
  obtain ⟨parent, d₁, hparent, hmade, made, hgrown⟩ := copying.parent_made ready hfile htarget
  -- the file of the guide stands elsewhere, so it is still there
  have hbelow := ready.file_not_below hfile
  have hstays : d₁.get? (dir ++ (front ++ [name])) = some (.file bytes) := by
    rw [made.others, copying.outside _ hbelow, hfile]
    rintro q _ heq
    exact hbelow (heq ▸ List.prefix_append ..)
  have hother : dir ++ (front ++ [name]) ≠ dest ++ "guide" :: front ++ [name] := by
    intro heq
    rw [List.append_assoc dest] at heq
    exact hbelow (heq ▸ List.prefix_append ..)
  have hfree : ∀ e, d₁.get? (dest ++ "guide" :: front ++ [name]) = some e →
      ∃ bytes, e = .file bytes := by
    intro e he
    rw [made.get?_below (by simp), List.append_assoc] at he
    have hsame := copying.mirror (front ++ [name]) e he
    rw [hfile] at hsame
    exact ⟨bytes, (Option.some.inj hsame).symm⟩
  have hkeeps := copying.grown.keeps.trans hgrown.keeps
  obtain ⟨d₂, hcopied, hwritten⟩ := hgrown.sound.copy_below
    (hkeeps.find?_eq ready.sound ready.root) hsource (by simp) hstays
    (hkeeps.find?_eq ready.sound ready.destination) htarget
    (made.made _ (List.prefix_refl _)) (legal name (by simp)) hfree hother
  exact ⟨d₂, Writing.page_of_ok hparent hmade hcopied, copying.add ready hpage hfile
    (made.added hwritten)
    (hgrown.trans (hgrown.sound.grown_copy (fun _ _ _ _ _ => trivial) hcopied))⟩

/-- A file is written beside the guide. -/
theorem json_succeeds {name : String} (hname : IsName name) (hguide : name ≠ "guide") (j : Json)
    (pretty : Bool) : ∃ d₁, Writing.json (Path.join destination name) j pretty d' =
      (.ok (Path.join destination name), d₁) ∧ Copying d dir dest done d₁ := by
  have hpath := segments_join_name (ne_empty_of_find? ready.destination) hname
  have sound := copying.grown.sound
  have hwritable : d'.Writable true (Path.join destination name) (dest ++ [] ++ [name]) :=
    sound.writable_below (copying.grown.keeps.find?_eq ready.sound ready.destination) hpath
      (by simpa using copying.grown.keeps.directory ready.directory_destination) hname
      (by simpa using fun e => copying.beside name e hguide)
  rw [List.append_nil] at hwritable
  refine ⟨_, Writing.json_of_ok (write_eq_ok_iff.mpr ⟨_, hwritable, rfl⟩), ?_⟩
  have hbelow : ∀ r, dest ++ "guide" :: r ≠ dest ++ [name] := by
    intro r heq
    exact hguide (List.cons.inj (List.append_cancel_left heq)).1.symm
  refine ⟨copying.grown.trans (sound.grown_put_of_writable hwritable trivial), ?_, ?_, ?_, ?_⟩
  · intro path hpath
    rw [get?_put, if_neg ?_, copying.outside path hpath]
    rintro rfl
    exact hpath (List.prefix_append ..)
  · intro name' e hname' he
    rw [get?_put] at he
    split at he
    next => exact ⟨_, (Option.some.inj he).symm⟩
    next => exact copying.beside name' e hname' he
  · intro r e he
    rw [get?_put, if_neg (hbelow r)] at he
    exact copying.mirror r e he
  · intro page hpage
    rw [get?_put, if_neg (hbelow _)]
    exact copying.copied page hpage

end Copying

/-! ## §4. Copying a guide -/

/-- There is one page for each file below a directory. -/
def Lists (d : Disk) (dir : List String) (g : Guide) : Prop :=
  ∃ files : List (List String), files.Nodup ∧
    (∀ r, r ∈ files ↔ ∃ bytes, d.get? (dir ++ r) = some (.file bytes)) ∧
    g.pages.Perm (files.map pagePath)

/-- Below `copy` stand all files that stand below `dir`, with their bytes, and nothing that does not
stand below `dir`. -/
structure Verbatim (d : Disk) (dir : List String) (d' : Disk) (copy : List String) : Prop where
  files : ∀ r bytes, d.get? (dir ++ r) = some (.file bytes) →
    d'.get? (copy ++ r) = some (.file bytes)
  only : ∀ r e, d'.get? (copy ++ r) = some e → d.get? (dir ++ r) = some e

section

variable {d : Disk} {root destination : String} {dir dest : List String}

/-- **All files of a directory are listed**, whatever their names are. -/
theorem lists_scan (sound : d.Sound) (hroot : d.find? root = some (dir, .directory)) :
    ∃ pages, scan d root = .ok ⟨root, pages⟩ ∧ Lists d dir ⟨root, pages⟩ := by
  refine ⟨sortBy compare ((d.walk {} root dir).map pagePath), ?_, d.walk {} root dir,
    sound.nodup_walk root dir, fun r => sound.mem_walk_iff ?_, sortBy_perm ..⟩
  · unfold scan
    rw [hroot]
  · exact sound.right_resolve (find?_eq_some_iff.mp hroot)

/-- What is written besides the pages. -/
def writtenFirst (destination : String) : List String :=
  ["documentation.json", "toc.json", "search.json"].map (Path.join destination)

theorem Ready.copying (ready : Ready d root destination dir dest) : Copying d dir dest [] d := by
  have hnone : ∀ rest e, rest ≠ [] → d.get? (dest ++ rest) ≠ some e := by
    intro rest e hrest he
    rw [ready.sound.none_of_children ready.empty hrest] at he
    exact nomatch he
  refine ⟨ready.sound.grown_refl, fun _ _ => rfl, ?_, ?_, fun _ h => nomatch h⟩
  · intro name e _ he
    exact absurd he (hnone _ e (by simp))
  · intro r e he
    exact absurd he (hnone _ e (by simp))

/-- The whole output, page by page. -/
theorem Ready.documentation_succeeds (ready : Ready d root destination dir dest)
    {pages : List String}
    (hpages : ∀ page ∈ pages, ∃ bytes, d.get? (dir ++ Path.segments page) = some (.file bytes))
    {doc : Documentation} (hdoc : doc.guide = some ⟨root, pages⟩) (s : OutputSettings) :
    ∃ d', Writing.documentation doc destination s d =
        (.ok (writtenFirst destination ++
          pages.map (Path.join (Path.join destination "guide"))), d') ∧
      Copying d dir dest pages d' := by
  have hdest : d.makeDirectories destination = .ok d :=
    ready.sound.makeDirectoriesUpTo_of_directory ready.destination _
  obtain ⟨d₁, h₁, copying₁⟩ := ready.copying.json_succeeds ready
    (isName_of_written "documentation.json" (by simp)).1 (by decide) doc.toJson s.pretty
  obtain ⟨d₂, h₂, copying₂⟩ := copying₁.json_succeeds ready
    (isName_of_written "toc.json" (by simp)).1 (by decide) doc.contents.toJson s.pretty
  obtain ⟨d₃, h₃, copying₃⟩ := copying₂.json_succeeds ready
    (isName_of_written "search.json" (by simp)).1 (by decide) (Search.indexToJson doc.search)
    s.pretty
  obtain ⟨d₄, h₄, copying₄⟩ := Writing.mapM_succeeds (d := d₃)
    (f := Writing.page ⟨root, pages⟩ (Path.join destination "guide"))
    (g := Path.join (Path.join destination "guide")) (P := Copying d dir dest) copying₃ (by
      intro done page D hpage copying
      obtain ⟨bytes, hfile⟩ := hpages page hpage
      exact copying.page_succeeds ready rfl hfile)
  refine ⟨d₄, ?_, copying₄⟩
  unfold Writing.documentation
  rw [Writing.bind_of_ok (Writing.change_of_ok hdest), Writing.bind_of_ok h₁, Writing.bind_of_ok h₂,
    Writing.bind_of_ok h₃, hdoc]
  dsimp only
  rw [Writing.bind_of_ok h₄]
  rfl

theorem Lists.mem_pages_iff {g : Guide} (lists : Lists d dir g) {page : String} :
    page ∈ g.pages ↔ ∃ r bytes, d.get? (dir ++ r) = some (.file bytes) ∧ pagePath r = page := by
  obtain ⟨files, _, hfiles, hperm⟩ := lists
  rw [hperm.mem_iff, List.mem_map]
  constructor
  · rintro ⟨r, hr, hpage⟩
    obtain ⟨bytes, hbytes⟩ := (hfiles r).mp hr
    exact ⟨r, bytes, hbytes, hpage⟩
  · rintro ⟨r, bytes, hbytes, hpage⟩
    exact ⟨r, (hfiles r).mpr ⟨bytes, hbytes⟩, hpage⟩

/-- **A guide whose names have no backslash is copied verbatim.** -/
theorem Ready.verbatim_of_plain (ready : Ready d root destination dir dest) {pages : List String}
    (lists : Lists d dir ⟨root, pages⟩)
    (plain : ∀ r bytes, d.get? (dir ++ r) = some (.file bytes) → Plain r)
    {doc : Documentation} (hdoc : doc.guide = some ⟨root, pages⟩) (s : OutputSettings) :
    ∃ d', Writing.documentation doc destination s d =
        (.ok (writtenFirst destination ++
          pages.map (Path.join (Path.join destination "guide"))), d') ∧
      Verbatim d dir d' (dest ++ ["guide"]) ∧
      ∀ path, ¬ dest <+: path → d'.get? path = d.get? path := by
  have hsegments : ∀ r bytes, d.get? (dir ++ r) = some (.file bytes) →
      Path.segments (pagePath r) = r := by
    intro r bytes hfile
    exact segments_pagePath (ready.file_ne_nil hfile) (ready.isName_of_file hfile)
      (plain r bytes hfile)
  have hpages : ∀ page ∈ pages,
      ∃ bytes, d.get? (dir ++ Path.segments page) = some (.file bytes) := by
    intro page hpage
    obtain ⟨r, bytes, hfile, rfl⟩ := lists.mem_pages_iff.mp hpage
    exact ⟨bytes, by rw [hsegments r bytes hfile, hfile]⟩
  obtain ⟨d', hd', copying⟩ := ready.documentation_succeeds hpages hdoc s
  refine ⟨d', hd', ⟨?_, ?_⟩, copying.outside⟩
  · intro r bytes hfile
    obtain ⟨bytes', hbytes'⟩ :=
      copying.copied (pagePath r) (lists.mem_pages_iff.mpr ⟨r, bytes, hfile, rfl⟩)
    rw [hsegments r bytes hfile] at hbytes'
    have hsame := copying.mirror r _ hbytes'
    rw [hfile] at hsame
    rw [List.append_assoc, List.singleton_append, hbytes', hsame]
  · intro r e he
    rw [List.append_assoc] at he
    exact copying.mirror r e he

end

end Guide
end CodeAtlas
