/-
  CodeAtlas.Proofs.Path — paths and their segments.

  A path is its segments with a slash between each two.  Cutting it at a slash cuts the list of its
  segments, and every cut of that list comes from a slash.  To compare the ends of two paths as
  texts, behind a slash, is therefore to compare the ends of two lists of segments.

  Main results:
    * `Chars.split_append_cons`, `Chars.exists_of_split_eq_append` — cuts of a text and of the list
      of its parts.
    * `Path.segments_intercalate`, `Path.intercalate_segments` — a path and its segments, there and
      back.
    * `Path.properTail_iff` — a path ends in another one behind a slash iff its segments end in
      those of the other and are more.
    * `Path.segments_join`, `Path.segments_of_parent?` — the segments of a joined path and of a
      parent.
-/
import CodeAtlas.Proofs.Segment
import CodeAtlas.Text.Path

namespace CodeAtlas

/-! ## §1. Parts of a text -/

namespace Chars

theorem split_eq_splitOn (sep : Char) (s : List Char) : split sep s = s.splitOn sep := by
  induction s with
  | nil => rfl
  | cons c rest ih =>
    rw [split, List.splitOn_cons_eq_if_modifyHead, ih]
    by_cases hc : c = sep
    · rw [if_pos hc, if_pos (beq_iff_eq.mpr hc)]
    · rw [if_neg hc, if_neg (by simpa using hc)]
      cases hrest : rest.splitOn sep with
      | nil => exact absurd hrest (List.splitOn_ne_nil sep rest)
      | cons w ws => rfl

theorem split_ne_nil (sep : Char) (s : List Char) : split sep s ≠ [] := by
  rw [split_eq_splitOn]
  exact List.splitOn_ne_nil sep s

/-- No part holds the separator. -/
theorem notMem_of_mem_split {sep : Char} {s part : List Char} (h : part ∈ split sep s) :
    sep ∉ part := by
  induction s generalizing part with
  | nil =>
    rw [split, List.mem_singleton] at h
    simp [h]
  | cons c rest ih =>
    rw [split] at h
    split at h
    next =>
      rcases List.mem_cons.mp h with rfl | hrest
      · simp
      · exact ih hrest
    next hc =>
      split at h
      next hnil => exact absurd hnil (split_ne_nil sep rest)
      next w ws hcons =>
        rcases List.mem_cons.mp h with rfl | hrest
        · have hw : sep ∉ w := ih (by rw [hcons]; exact List.mem_cons_self)
          simp [hw, Ne.symm hc]
        · exact ih (by rw [hcons]; exact List.mem_cons_of_mem w hrest)

/-- The parts on both sides of a separator. -/
theorem split_append_cons (sep : Char) (front back : List Char) :
    split sep (front ++ sep :: back) = split sep front ++ split sep back := by
  rw [split_eq_splitOn, split_eq_splitOn, split_eq_splitOn, List.splitOn_append_cons_self]

/-- The parts with the separator between them are the text. -/
theorem intercalate_split (sep : Char) (s : List Char) : [sep].intercalate (split sep s) = s := by
  rw [split_eq_splitOn, List.intercalate_splitOn]

/-- Between the first parts and the last ones there is a separator. -/
theorem intercalate_append (sep : Char) {front back : List (List Char)} (hfront : front ≠ [])
    (hback : back ≠ []) : [sep].intercalate (front ++ back) =
      [sep].intercalate front ++ sep :: [sep].intercalate back := by
  induction front with
  | nil => exact absurd rfl hfront
  | cons w ws ih =>
    by_cases hws : ws = []
    · rw [hws, List.cons_append, List.nil_append, List.intercalate_cons_of_ne_nil hback,
        List.intercalate_singleton, List.append_assoc, List.singleton_append]
    · have happend : ws ++ back ≠ [] := List.append_ne_nil_of_left_ne_nil hws back
      rw [List.cons_append, List.intercalate_cons_of_ne_nil happend, ih hws,
        List.intercalate_cons_of_ne_nil hws, List.append_assoc, List.append_assoc]
      simp

/-- Where the parts of a text end in those of another, so does the text, behind a separator. -/
theorem exists_of_split_eq_append {sep : Char} {s tail : List Char} {front : List (List Char)}
    (hfront : front ≠ []) (h : split sep s = front ++ split sep tail) :
    ∃ head, s = head ++ sep :: tail := by
  refine ⟨[sep].intercalate front, ?_⟩
  calc s = [sep].intercalate (split sep s) := (intercalate_split sep s).symm
    _ = [sep].intercalate (front ++ split sep tail) := by rw [h]
    _ = [sep].intercalate front ++ sep :: tail := by
      rw [intercalate_append sep hfront (split_ne_nil sep tail), intercalate_split]

end Chars

/-! ## §2. Segments -/

namespace Path

theorem segments_ne_nil (path : String) : segments path ≠ [] := by
  unfold segments Text.split
  simpa using Chars.split_ne_nil '/' path.toList

theorem segments_append (head tail : String) :
    segments (head ++ "/" ++ tail) = segments head ++ segments tail := by
  have hsplit : (head ++ "/" ++ tail).toList = head.toList ++ '/' :: tail.toList := by simp
  unfold segments Text.split
  rw [hsplit, Chars.split_append_cons, List.map_append]

theorem notMem_of_mem_segments {path s : String} (h : s ∈ segments path) : '/' ∉ s.toList := by
  unfold segments Text.split at h
  obtain ⟨part, hpart, rfl⟩ := List.mem_map.mp h
  rw [String.toList_ofList]
  exact Chars.notMem_of_mem_split hpart

/-- The segments with a slash between each two are the path. -/
theorem intercalate_segments (path : String) : "/".intercalate (segments path) = path := by
  apply String.toList_inj.mp
  rw [String.toList_intercalate]
  unfold segments Text.split
  rw [List.map_map]
  have hparts : (Chars.split '/' path.toList).map (String.toList ∘ String.ofList) =
      Chars.split '/' path.toList := by
    simp [Function.comp_def]
  rw [hparts]
  exact Chars.intercalate_split '/' path.toList

/-- Segments without slashes are the segments of the path that is made of them. -/
theorem segments_intercalate {names : List String} (nonempty : names ≠ [])
    (plain : ∀ s ∈ names, '/' ∉ s.toList) : segments ("/".intercalate names) = names := by
  unfold segments Text.split
  rw [String.toList_intercalate, Chars.split_eq_splitOn]
  show (List.splitOn '/' (['/'].intercalate (names.map String.toList))).map String.ofList = names
  rw [List.splitOn_intercalate]
  · simp [Function.comp_def]
  · simpa using plain
  · simpa using nonempty

/-- A character other than the slash stands in a path where it stands in a segment. -/
theorem mem_intercalate_iff {c : Char} (hc : c ≠ '/') {names : List String} :
    c ∈ ("/".intercalate names).toList ↔ ∃ name ∈ names, c ∈ name.toList := by
  induction names with
  | nil => simp
  | cons name names ih =>
    by_cases hlast : names = []
    · simp [hlast]
    · rw [String.intercalate_cons_of_ne_nil hlast, String.toList_append, String.toList_append,
        List.mem_append, List.mem_append, ih]
      simp [hc]

theorem mem_of_mem_segments {c : Char} (hc : c ≠ '/') {path s : String} (hs : s ∈ segments path)
    (h : c ∈ s.toList) : c ∈ path.toList := by
  rw [← intercalate_segments path, mem_intercalate_iff hc]
  exact ⟨s, hs, h⟩

/-- The segments of a path end in those of another one, and there are more. -/
def ProperTail (tail path : String) : Prop :=
  ∃ front, front ≠ [] ∧ segments path = front ++ segments tail

/-- **Segments end in segments where the text ends in the text behind a slash.** -/
theorem properTail_iff {tail path : String} :
    ProperTail tail path ↔ ∃ head, path = head ++ "/" ++ tail := by
  constructor
  · intro h
    obtain ⟨front, hfront, hpath⟩ := h
    -- read the segments as lists of characters
    have hsplit : Chars.split '/' path.toList =
        front.map String.toList ++ Chars.split '/' tail.toList := by
      have hlists := congrArg (List.map String.toList) hpath
      simpa [segments, Text.split, Function.comp_def] using hlists
    obtain ⟨head, hhead⟩ := Chars.exists_of_split_eq_append (by simpa using hfront) hsplit
    refine ⟨String.ofList head, String.toList_inj.mp ?_⟩
    rw [hhead]
    simp
  · intro h
    obtain ⟨head, hpath⟩ := h
    exact ⟨segments head, segments_ne_nil head, by rw [hpath, segments_append]⟩

/-! ## §3. Slashes -/

theorem toList_slashed (path : String) :
    (slashed path).toList = path.toList.map fun c => if c == '\\' then '/' else c :=
  String.toList_ofList

theorem slashed_append (a b : String) : slashed (a ++ b) = slashed a ++ slashed b := by
  apply String.toList_inj.mp
  rw [String.toList_append, toList_slashed, toList_slashed, toList_slashed, String.toList_append,
    List.map_append]

theorem slashed_of_plain {path : String} (plain : '\\' ∉ path.toList) : slashed path = path := by
  apply String.toList_inj.mp
  rw [toList_slashed]
  have hkeep : ∀ c ∈ path.toList, (if c == '\\' then '/' else c) = id c := by
    intro c hc
    have hne : c ≠ '\\' := fun heq => plain (heq ▸ hc)
    rw [if_neg (by simpa using hne), id]
  rw [List.map_congr_left hkeep, List.map_id]

/-- The slashes at the end are dropped, all of them and nothing else. -/
theorem dropEndSlashes_spec (path : String) :
    (∃ n, path.toList = (dropEndSlashes path).toList ++ List.replicate n '/') ∧
      (dropEndSlashes path).toList.getLast? ≠ some '/' := by
  unfold dropEndSlashes Text.mapChars Chars.dropEndWhile
  rw [String.toList_ofList]
  constructor
  · have hslashes := List.eq_replicate_of_mem (a := '/')
      (l := path.toList.reverse.takeWhile (· == '/'))
      fun c hc => by simpa using List.all_eq_true.mp List.all_takeWhile c hc
    refine ⟨(path.toList.reverse.takeWhile (· == '/')).length, ?_⟩
    calc path.toList = path.toList.reverse.reverse := (List.reverse_reverse _).symm
      _ = (path.toList.reverse.takeWhile (· == '/') ++
            path.toList.reverse.dropWhile (· == '/')).reverse := by
          rw [List.takeWhile_append_dropWhile]
      _ = _ := by rw [List.reverse_append, hslashes, List.reverse_replicate, List.length_replicate]
  · rw [List.getLast?_reverse]
    intro h
    have hkept := List.head?_dropWhile_not (· == '/') path.toList.reverse
    rw [h] at hkept
    exact absurd hkept (by decide)

theorem dropEndSlashes_of_getLast {path : String} (h : path.toList.getLast? ≠ some '/') :
    dropEndSlashes path = path := by
  obtain ⟨n, hn⟩ := (dropEndSlashes_spec path).1
  cases n with
  | zero => exact String.toList_inj.mp (by rw [hn]; simp)
  | succ n =>
    rw [hn, List.replicate_succ', ← List.append_assoc, List.getLast?_concat] at h
    exact absurd rfl h

/-! ## §4. Joining and parents -/

theorem eq_of_segments {a b : String} (h : segments a = segments b) : a = b := by
  rw [← intercalate_segments a, h, intercalate_segments]

@[simp] theorem segments_empty : segments "" = [""] := by decide

theorem ne_empty_of_segments {path : String} {front names : List String} (hfront : front ≠ [])
    (hnames : names ≠ []) (h : segments path = front ++ names) : path ≠ "" := by
  rintro rfl
  have hlength := congrArg List.length h
  have hpositive := List.length_pos_iff.mpr hfront
  have hpositive' := List.length_pos_iff.mpr hnames
  rw [segments_empty, List.length_singleton, List.length_append] at hlength
  omega

/-- Segments at the beginning of a path are the segments of a path. -/
theorem segments_intercalate_of_isPrefix {names : List String} {path : String}
    (nonempty : names ≠ []) (h : names <+: segments path) :
    segments ("/".intercalate names) = names :=
  segments_intercalate nonempty fun _ hs => notMem_of_mem_segments (h.subset hs)

/-- Of the paths that are not empty, those from the root have an empty first segment. -/
theorem startsWith_slash_iff {path : String} (hpath : path ≠ "") :
    Text.startsWith "/" path = true ↔ (segments path).head? = some "" := by
  have hroot (rest : String) : segments ("/" ++ rest) = "" :: segments rest :=
    segments_append "" rest
  rw [Text.startsWith_iff]
  constructor
  · rintro ⟨rest, rfl⟩
    rw [hroot, List.head?_cons]
  · intro hhead
    obtain ⟨rest, hrest⟩ := List.head?_eq_some_iff.mp hhead
    have hmore : rest ≠ [] := by
      rintro rfl
      exact hpath (eq_of_segments hrest)
    refine ⟨"/".intercalate rest, eq_of_segments ?_⟩
    rw [hroot, segments_intercalate hmore, hrest]
    intro s hs
    exact notMem_of_mem_segments (hrest ▸ List.mem_cons_of_mem "" hs)

theorem startsWith_slash_eq {a b : String} (ha : a ≠ "") (hb : b ≠ "")
    (h : (segments a).head? = (segments b).head?) :
    Text.startsWith "/" a = Text.startsWith "/" b := by
  rw [Bool.eq_iff_iff, startsWith_slash_iff ha, startsWith_slash_iff hb, h]

theorem segments_append_slash (head : String) : segments (head ++ "/") = segments head ++ [""] := by
  rw [← segments_empty, ← segments_append, String.append_empty]

/-- The segments of a directory to which those of a path below it are joined. -/
def front (dir : String) : List String :=
  if Text.endsWith "/" dir then (segments dir).dropLast else segments dir

/-- Nothing but a slash at the end is missing from them. -/
theorem segments_eq_front (dir : String) :
    ∃ slack : List String, segments dir = front dir ++ slack ∧ ∀ s ∈ slack, s = "" := by
  unfold front
  split
  next h =>
    obtain ⟨head, rfl⟩ := Text.endsWith_iff.mp h
    exact ⟨[""], by rw [segments_append_slash, List.dropLast_concat], by simp⟩
  next => exact ⟨[], by simp, by simp⟩

theorem front_ne_nil (dir : String) : front dir ≠ [] := by
  unfold front
  split
  next h =>
    obtain ⟨head, rfl⟩ := Text.endsWith_iff.mp h
    rw [segments_append_slash, List.dropLast_concat]
    exact segments_ne_nil head
  next => exact segments_ne_nil dir

/-- Below a path that ends in a name, segments are joined to all of its own. -/
theorem front_eq_segments {dir name : String} (h : (segments dir).getLast? = some name)
    (hname : name ≠ "") : front dir = segments dir := by
  unfold front
  split
  next hend =>
    obtain ⟨head, rfl⟩ := Text.endsWith_iff.mp hend
    rw [segments_append_slash, List.getLast?_concat, Option.some.injEq] at h
    exact absurd h.symm hname
  next => rfl

theorem segments_join {dir path : String} (hdir : dir ≠ "")
    (relative : Text.startsWith "/" path = false) :
    segments (join dir path) = front dir ++ segments path := by
  unfold join front
  rw [relative, if_neg (by simp), if_neg (by simpa using hdir)]
  split
  next h =>
    obtain ⟨head, rfl⟩ := Text.endsWith_iff.mp h
    rw [segments_append, segments_append_slash, List.dropLast_concat]
  next => rw [segments_append]

theorem dropEndDots_isPrefix (names : List String) : dropEndDots names <+: names := by
  cases names with
  | nil => exact List.prefix_refl _
  | cons first rest =>
    rw [dropEndDots, List.prefix_cons_inj]
    have hsuffix := List.dropWhile_suffix (fun s => s == "" || s == ".") (l := rest.reverse)
    rw [← List.reverse_prefix, List.reverse_reverse] at hsuffix
    exact hsuffix

theorem dropEndDots_concat {names : List String} {name : String} (hname : name ≠ "")
    (hdot : name ≠ ".") : dropEndDots (names ++ [name]) = names ++ [name] := by
  cases names with
  | nil => rfl
  | cons first rest =>
    rw [List.cons_append, dropEndDots, List.reverse_append, List.reverse_singleton,
      List.singleton_append, List.dropWhile_cons_of_neg (by simp [hname, hdot])]
    simp

/-- The parent of a path is empty, the root, or made of segments at its beginning. -/
theorem segments_of_parent? {path parent : String} (h : parent? path = some parent) :
    parent = "" ∨ parent = "/" ∨ segments parent <+: segments path := by
  unfold parent? at h
  split at h
  next => exact absurd h (by simp)
  next =>
    split at h
    next => exact absurd h (by simp)
    next => exact .inl (Option.some.inj h).symm
  next first rest _ hdots =>
    have hprefix : dropEndDots (first :: rest.dropLast) <+: segments path := by
      refine (dropEndDots_isPrefix _).trans (List.IsPrefix.trans ?_ (dropEndDots_isPrefix _))
      rw [hdots, List.prefix_cons_inj]
      exact List.dropLast_prefix rest
    split at h
    next => exact .inr (.inl (Option.some.inj h).symm)
    next hnot =>
      refine .inr (.inr ?_)
      rw [← Option.some.inj h, segments_intercalate_of_isPrefix ?_ hprefix]
      · exact hprefix
      · rw [dropEndDots]
        exact List.cons_ne_nil _ _

/-- The parent of a path that ends in two names ends in the first of them. -/
theorem exists_parent?_of_names {path dir name : String} {names : List String}
    (h : segments path = names ++ [dir] ++ [name]) (hdir : dir ≠ "") (hdot : dir ≠ ".")
    (hname : name ≠ "") (hdot' : name ≠ ".") :
    ∃ parent, parent? path = some parent ∧ segments parent = names ++ [dir] := by
  refine ⟨"/".intercalate (names ++ [dir]), ?_,
    segments_intercalate_of_isPrefix (by simp) (h ▸ List.prefix_append ..)⟩
  unfold parent?
  rw [h, dropEndDots_concat hname hdot']
  split
  next hnil => exact absurd hnil (by simp)
  next only hone => exact absurd (congrArg List.length hone) (by simp)
  next first rest _ hcons =>
    have hfront : first :: rest.dropLast = names ++ [dir] := by
      have hdrop := congrArg List.dropLast hcons
      rw [List.dropLast_concat, List.dropLast_cons_of_ne_nil ?_] at hdrop
      · exact hdrop.symm
      · rintro rfl
        exact absurd (congrArg List.length hcons) (by simp)
    rw [hfront, dropEndDots_concat hdir hdot]
    split
    next hempty =>
      have hlast := congrArg List.getLast? hempty
      rw [List.getLast?_concat, List.getLast?_singleton, Option.some.injEq] at hlast
      exact absurd hlast hdir
    next => rfl

end Path
end CodeAtlas
