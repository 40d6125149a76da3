/-
  CodeAtlas.Proofs.Overlay.Location — which parsed file a path means, told by segments.

  A locator compares texts: it takes a root and a slash off the front of a path, or looks for files
  that have the path behind a slash.  Told by segments there are three cases.  Below a root, the
  first root that fits decides.  Any other path from the top of a file system lies outside.  A
  relative path means the file of that name or else the only file whose segments end in its own.

  Main results:
    * `registered_knownRoots` — the roots that are tried, from the spellings that were given.
    * `findSome?_roots` — a spelling of the source root that is given twice changes nothing.
    * `locateRelative_eq_some_iff` — relative paths, by segments.
    * `placed_locate` — the three cases together, for any model, spellings and path.
    * `locate_spelledRoot` — a file is found below the source root as the model spells it, unless
      that spelling starts with `./`.
-/
import Mathlib.Data.List.Forall2
import CodeAtlas.Overlay.Locator
import CodeAtlas.Proofs.Lookup
import CodeAtlas.Proofs.Path

namespace CodeAtlas.Locator

/-! ## §1. Roots -/

/-- The text that paths are compared with for a root: with slashes only, without slashes at its end,
and without one `./` in front. -/
def PlainForm (root plain : String) : Prop :=
  ∃ trimmed : String,
    (∃ n, (Path.slashed root).toList = trimmed.toList ++ List.replicate n '/') ∧
    trimmed.toList.getLast? ≠ some '/' ∧
    (trimmed = "./" ++ plain ∨ plain = trimmed ∧ ∀ rest, trimmed ≠ "./" ++ rest)

theorem plainForm_plainRoot (root : String) : PlainForm root (plainRoot root) := by
  obtain ⟨hslashes, hlast⟩ := Path.dropEndSlashes_spec (Path.slashed root)
  refine ⟨_, hslashes, hlast, ?_⟩
  unfold plainRoot
  dsimp only
  cases hdot : Text.dropPrefix? "./" (Path.dropEndSlashes (Path.slashed root)) with
  | some plain => exact .inl (Text.dropPrefix?_eq_some_iff.mp hdot)
  | none =>
    refine .inr ⟨rfl, fun rest h => ?_⟩
    rw [Text.dropPrefix?_eq_some_iff.mpr h] at hdot
    exact nomatch hdot

/-- The spellings of the source root, in the order in which they are tried. -/
def knownRoots (m : Model) (otherRoots : List String) : List String :=
  plainRoot m.sourceRoot :: (otherRoots.map plainRoot).filter (· ≠ "")

/-- Roots are tried in the order in which they were given, the one of the model first; one that
comes out empty is left out. -/
def Registered (sourceRoot : String) (otherRoots roots : List String) : Prop :=
  ∃ first others, PlainForm sourceRoot first ∧ List.Forall₂ PlainForm otherRoots others ∧
    roots = first :: others.filter (· ≠ "")

theorem registered_knownRoots (m : Model) (otherRoots : List String) :
    Registered m.sourceRoot otherRoots (knownRoots m otherRoots) := by
  refine ⟨_, _, plainForm_plainRoot m.sourceRoot, ?_, rfl⟩
  rw [List.forall₂_map_right_iff, List.forall₂_same]
  exact fun root _ => plainForm_plainRoot root

theorem files_addRoot (l : Locator) (root : String) : (l.addRoot root).files = l.files := by
  unfold addRoot
  dsimp only
  split <;> rfl

theorem roots_addRoot (l : Locator) (root : String) : (l.addRoot root).roots =
    if plainRoot root = "" ∨ plainRoot root ∈ l.roots then l.roots
    else l.roots ++ [plainRoot root] := by
  unfold addRoot
  simp only [Bool.or_eq_true, beq_iff_eq, List.contains_iff_mem]
  split <;> rfl

/-- A root that is known already need not be tried again. -/
theorem findSome?_addRoot {α : Type} (l : Locator) (root : String) (f : String → Option α)
    (later : List String) : ((l.addRoot root).roots ++ later).findSome? f =
      (l.roots ++ ([plainRoot root].filter (· ≠ "") ++ later)).findSome? f := by
  rw [roots_addRoot]
  by_cases hempty : plainRoot root = ""
  · rw [if_pos (.inl hempty)]
    simp [hempty]
  · have hkept : [plainRoot root].filter (· ≠ "") = [plainRoot root] := by simp [hempty]
    rw [hkept]
    by_cases hknown : plainRoot root ∈ l.roots
    · rw [if_pos (.inr hknown), List.findSome?_append, List.findSome?_append,
        List.findSome?_append]
      cases hfound : l.roots.findSome? f with
      | some found => rfl
      | none =>
        -- no root fits so far, and this one was among them
        have hunfit : f (plainRoot root) = none := List.findSome?_eq_none_iff.mp hfound _ hknown
        simp [hunfit]
    · rw [if_neg (by simp [hempty, hknown]), List.append_assoc]

theorem files_ofModel (m : Model) (otherRoots : List String) :
    (ofModel m otherRoots).files = m.files.keys := by
  unfold ofModel
  apply foldl_invariant (P := fun _ (l : Locator) => l.files = m.files.keys)
  · rfl
  · intro done root rest l _ h
    rw [files_addRoot, h]

/-- **Trying the roots of a locator is trying all spellings in their order.** -/
theorem findSome?_roots {α : Type} (m : Model) (otherRoots : List String)
    (f : String → Option α) :
    (ofModel m otherRoots).roots.findSome? f = (knownRoots m otherRoots).findSome? f := by
  have hrun : ∀ (others : List String) (l : Locator), (others.foldl addRoot l).roots.findSome? f =
      (l.roots ++ (others.map plainRoot).filter (· ≠ "")).findSome? f := by
    intro others
    induction others with
    | nil => simp
    | cons root others ih =>
      intro l
      rw [List.foldl_cons, ih, findSome?_addRoot, List.map_cons, ← List.filter_append,
        List.singleton_append]
  exact hrun otherRoots _

/-! ## §2. Paths -/

/-- A path lies below a root. -/
def Below (root path : String) : Prop := ∃ rest, path = root ++ "/" ++ rest

theorem belowRoot?_eq_some_iff {path root rest : String} :
    belowRoot? path root = some rest ↔ path = root ++ "/" ++ rest := by
  unfold belowRoot?
  rw [Option.bind_eq_some_iff]
  simp only [Text.dropPrefix?_eq_some_iff]
  constructor
  · intro h
    obtain ⟨behind, hpath, hbehind⟩ := h
    rw [hpath, hbehind, String.append_assoc]
  · intro hpath
    exact ⟨"/" ++ rest, by rw [hpath, String.append_assoc], rfl⟩

theorem belowRoot?_eq_none_iff {path root : String} :
    belowRoot? path root = none ↔ ¬ Below root path := by
  rw [Option.eq_none_iff_forall_ne_some, Below, not_exists]
  simp only [ne_eq, belowRoot?_eq_some_iff]

/-- What follows the first of some roots that a path lies below. -/
def FirstBelow (roots : List String) (path rest : String) : Prop :=
  ∃ before root after, roots = before ++ root :: after ∧ path = root ++ "/" ++ rest ∧
    ∀ r ∈ before, ¬ Below r path

theorem findSome?_eq_some_iff_firstBelow {roots : List String} {path rest : String} :
    roots.findSome? (belowRoot? path) = some rest ↔ FirstBelow roots path rest := by
  rw [List.findSome?_eq_some_iff]
  simp only [belowRoot?_eq_some_iff, belowRoot?_eq_none_iff, FirstBelow]

/-- A path from the top of a file system: it starts with a slash or with the letter of a drive. -/
def FromTop (path : String) : Prop :=
  (∃ rest, path = "/" ++ rest) ∨
    ∃ drive rest, drive.isAlpha = true ∧ path.toList = drive :: ':' :: rest

theorem isRooted_iff {path : String} : isRooted path = true ↔ FromTop path := by
  unfold isRooted FromTop
  simp only [← String.toList_inj, String.toList_append]
  split
  next rest hslash =>
    exact iff_of_true rfl (.inl ⟨String.ofList rest, by simp [hslash]⟩)
  next drive rest hno hdrive =>
    rw [hdrive]
    constructor
    · intro halpha
      exact .inr ⟨drive, rest, halpha, rfl⟩
    · intro h
      rcases h with ⟨behind, hslash⟩ | ⟨drive', rest', halpha, hsame⟩
      · exact absurd (List.cons.inj hslash).1 hno
      · rw [(List.cons.inj hsame).1]
        exact halpha
  next hno hnodrive =>
    refine iff_of_false (by simp) ?_
    intro h
    rcases h with ⟨behind, hslash⟩ | ⟨drive, rest, _, hdrive⟩
    · exact hno _ hslash
    · exact hnodrive _ _ hdrive

/-- A number of times `./`. -/
def dots (n : Nat) : List Char := (List.replicate n ['.', '/']).flatten

theorem dots_succ (n : Nat) : dots (n + 1) = '.' :: '/' :: dots n := by
  simp [dots, List.replicate_succ]

theorem dots_prefix_succ (n : Nat) : dots n <+: dots (n + 1) := by
  refine ⟨['.', '/'], ?_⟩
  simp [dots, List.replicate_succ']

/-- What is left of a path without every `./` in front. -/
structure Undotted (path rest : String) : Prop where
  dropped : ∃ n, path.toList = dots n ++ rest.toList
  done : ∀ more, rest ≠ "./" ++ more

theorem dropDots_spec (s : List Char) :
    (∃ n, s = dots n ++ dropDots s) ∧ ∀ more, dropDots s ≠ '.' :: '/' :: more := by
  fun_induction dropDots s with
  | case1 rest ih =>
    obtain ⟨⟨n, hn⟩, hdone⟩ := ih
    refine ⟨⟨n + 1, ?_⟩, hdone⟩
    rw [dots_succ, List.cons_append, List.cons_append, ← hn]
  | case2 s hno => exact ⟨⟨0, rfl⟩, hno⟩

theorem undotted_dropDots (path : String) : Undotted path (Text.mapChars dropDots path) := by
  obtain ⟨hdropped, hdone⟩ := dropDots_spec path.toList
  constructor
  · rw [Text.mapChars, String.toList_ofList]
    exact hdropped
  · intro more hmore
    have hlist := congrArg String.toList hmore
    rw [Text.mapChars, String.toList_ofList, String.toList_append] at hlist
    exact hdone more.toList hlist

/-! ## §3. Relative paths -/

/-- The only one of some files whose segments end in those of a path and are more. -/
structure OnlyTail (files : List String) (path file : String) : Prop where
  parsed : file ∈ files
  tail : Path.ProperTail path file
  only : ∀ other ∈ files, Path.ProperTail path other → other = file

theorem endsBelow_iff {path file : String} :
    endsBelow path file = true ↔ Path.ProperTail path file := by
  unfold endsBelow
  rw [Path.properTail_iff, Option.any_eq_true]
  simp only [Text.dropSuffix?_eq_some_iff, Text.endsWith_iff]
  constructor
  · intro h
    obtain ⟨_, hfile, head, hhead⟩ := h
    exact ⟨head, by rw [hfile, hhead]⟩
  · intro h
    obtain ⟨head, hfile⟩ := h
    exact ⟨head ++ "/", hfile, head, rfl⟩

/-- **Which file a relative path means.** -/
theorem locateRelative_eq_some_iff {l : Locator} (distinct : l.files.Nodup) {path file : String} :
    l.locateRelative path = some file ↔
      (path = file ∧ file ∈ l.files) ∨ (path ∉ l.files ∧ OnlyTail l.files path file) := by
  unfold locateRelative
  by_cases hpath : path ∈ l.files
  · rw [if_pos (List.contains_iff_mem.mpr hpath), Option.some.injEq]
    constructor
    · intro heq
      exact .inl ⟨heq, heq ▸ hpath⟩
    · intro h
      rcases h with ⟨heq, _⟩ | ⟨hnot, _⟩
      · exact heq
      · exact absurd hpath hnot
  · rw [if_neg (fun h => hpath (List.contains_iff_mem.mp h))]
    -- a single candidate is the only file with this tail
    have honly : l.files.filter (endsBelow path) = [file] ↔ OnlyTail l.files path file := by
      rw [filter_eq_singleton_iff distinct]
      simp only [endsBelow_iff]
      exact ⟨fun ⟨parsed, tail, only⟩ => ⟨parsed, tail, only⟩,
        fun ⟨parsed, tail, only⟩ => ⟨parsed, tail, only⟩⟩
    have hexact : ¬ (path = file ∧ file ∈ l.files) := fun h => hpath (h.1 ▸ h.2)
    rw [or_iff_right hexact, and_iff_right hpath, ← honly]
    split
    next candidate hone => rw [hone, Option.some.injEq, List.cons.injEq, and_iff_left rfl]
    next hmany =>
      refine iff_of_false (by simp) ?_
      intro hone
      exact hmany file hone

/-! ## §4. All paths -/

section Locate

variable {m : Model} {otherRoots : List String} {raw : String}

theorem locate_of_firstBelow {rest : String}
    (h : FirstBelow (knownRoots m otherRoots) (Path.slashed raw) rest) :
    (ofModel m otherRoots).locate raw = if rest ∈ m.files.keys then some rest else none := by
  unfold locate
  dsimp only
  rw [findSome?_roots, findSome?_eq_some_iff_firstBelow.mpr h, files_ofModel]
  simp only [List.contains_iff_mem]

theorem locate_of_forall_not_below
    (h : ∀ root ∈ knownRoots m otherRoots, ¬ Below root (Path.slashed raw)) :
    (ofModel m otherRoots).locate raw = if isRooted (Path.slashed raw) then none
      else (ofModel m otherRoots).locateRelative (Text.mapChars dropDots (Path.slashed raw)) := by
  have hnone : (knownRoots m otherRoots).findSome? (belowRoot? (Path.slashed raw)) = none := by
    rw [List.findSome?_eq_none_iff]
    intro root hroot
    exact belowRoot?_eq_none_iff.mpr (h root hroot)
  unfold locate
  dsimp only
  rw [findSome?_roots, hnone]

theorem nodup_files_ofModel : (ofModel m otherRoots).files.Nodup := by
  rw [files_ofModel]
  exact Table.nodup_keys m.files

end Locate

/-- What a path of a log means, given the spellings of the source root and the parsed files. -/
structure Placed (roots files : List String) (raw : String) (answer : Option String) : Prop where
  /-- Below a root, what follows the first one has to be a parsed file. -/
  below : ∀ rest, FirstBelow roots (Path.slashed raw) rest →
    answer = if rest ∈ files then some rest else none
  /-- Any other path from the top of a file system lies outside. -/
  outside : (∀ root ∈ roots, ¬ Below root (Path.slashed raw)) → FromTop (Path.slashed raw) →
    answer = none
  /-- Any other path, without the dots in front, is that of a parsed file or else the tail of only
  one. -/
  relative : (∀ root ∈ roots, ¬ Below root (Path.slashed raw)) → ¬ FromTop (Path.slashed raw) →
    ∃ path, Undotted (Path.slashed raw) path ∧ ∀ file, answer = some file ↔
      (path = file ∧ file ∈ files) ∨ (path ∉ files ∧ OnlyTail files path file)

theorem placed_of_knownRoots (m : Model) (otherRoots : List String) (raw : String) :
    Placed (knownRoots m otherRoots) m.files.keys raw ((ofModel m otherRoots).locate raw) where
  below rest h := locate_of_firstBelow h
  outside hroots htop := by
    rw [locate_of_forall_not_below hroots, if_pos (isRooted_iff.mpr htop)]
  relative hroots htop := by
    refine ⟨_, undotted_dropDots (Path.slashed raw), ?_⟩
    intro file
    rw [locate_of_forall_not_below hroots, if_neg (fun h => htop (isRooted_iff.mp h)),
      locateRelative_eq_some_iff nodup_files_ofModel, files_ofModel]

/-- **Paths are located by their segments**, for any model, any other spellings of its source root
and any path. -/
theorem placed_locate (m : Model) (otherRoots : List String) (raw : String) :
    Registered m.sourceRoot otherRoots (knownRoots m otherRoots) ∧
      Placed (knownRoots m otherRoots) m.files.keys raw ((ofModel m otherRoots).locate raw) :=
  ⟨registered_knownRoots m otherRoots, placed_of_knownRoots m otherRoots raw⟩

/-! ## §5. Paths below the source root -/

/-- A root without a separator at its end. -/
def Trimmed (root : String) : Prop :=
  root.toList.getLast? ≠ some '/' ∧ root.toList.getLast? ≠ some '\\'

namespace Trimmed

variable {root rest : String} (trimmed : Trimmed root)
include trimmed

theorem getLast?_slashed : (Path.slashed root).toList.getLast? ≠ some '/' := by
  obtain ⟨hslash, hback⟩ := trimmed
  rw [Path.toList_slashed, List.getLast?_map]
  intro h
  obtain ⟨c, hlast, hc⟩ := Option.map_eq_some_iff.mp h
  by_cases hc' : c = '\\'
  · exact hback (hc' ▸ hlast)
  · rw [if_neg (by simpa using hc')] at hc
    exact hslash (hc ▸ hlast)

/-- A dot in front of a root is not part of its spelling. -/
theorem plainRoot_of_dotted (dotted : Path.slashed root = "./" ++ rest) :
    plainRoot root = rest := by
  unfold plainRoot
  dsimp only
  rw [Path.dropEndSlashes_of_getLast trimmed.getLast?_slashed,
    Text.dropPrefix?_eq_some_iff.mpr dotted]
  rfl

theorem plainRoot_of_undotted (undotted : ∀ rest, Path.slashed root ≠ "./" ++ rest) :
    plainRoot root = Path.slashed root := by
  have hnone : Text.dropPrefix? "./" (Path.slashed root) = none := by
    rw [Option.eq_none_iff_forall_ne_some]
    intro rest hrest
    exact undotted rest (Text.dropPrefix?_eq_some_iff.mp hrest)
  unfold plainRoot
  dsimp only
  rw [Path.dropEndSlashes_of_getLast trimmed.getLast?_slashed, hnone]
  rfl

end Trimmed

/-- Of two ends of a path, the longer one ends in the shorter. -/
theorem exists_of_longer_end {path head file front rest : String}
    (hfile : path = head ++ "/" ++ file) (hrest : path = front ++ rest)
    (hlonger : file.toList.length < rest.toList.length) : ∃ dir, rest = dir ++ "/" ++ file := by
  have hshort : '/' :: file.toList <:+ path.toList := ⟨head.toList, by simp [hfile]⟩
  have hlong : rest.toList <:+ path.toList := ⟨front.toList, by simp [hrest]⟩
  obtain ⟨dir, hdir⟩ := List.suffix_of_suffix_length_le hshort hlong hlonger
  refine ⟨String.ofList dir, String.toList_inj.mp ?_⟩
  rw [← hdir]
  simp

section Dotted

variable {root file path rest : String}

/-- A dotted root that fits its own spelling fits too early. -/
theorem exists_dir_of_fit (fit : "./" ++ root ++ "/" ++ file = root ++ "/" ++ rest) :
    ∃ dir, rest = dir ++ "/" ++ file := by
  have hlength := congrArg (fun s => s.toList.length) fit
  simp only [String.toList_append, List.length_append] at hlength
  have hdot : "./".toList.length = 2 := rfl
  exact exists_of_longer_end rfl fit (by omega)

/-- One that does not fit stays in front of the file when the dots are dropped. -/
theorem exists_dir_of_undotted (unfit : ¬ Below root ("./" ++ root ++ "/" ++ file))
    (undotted : Undotted ("./" ++ root ++ "/" ++ file) path) :
    ∃ dir, path = dir ++ "/" ++ file := by
  obtain ⟨n, hn⟩ := undotted.dropped
  have hsplit : ("./" ++ root ++ "/" ++ file).toList =
      ('.' :: '/' :: (root.toList ++ ['/'])) ++ file.toList := by simp
  have hend : "./" ++ root ++ "/" ++ file = String.ofList (dots n) ++ path := by
    apply String.toList_inj.mp
    rw [hn, String.toList_append, String.toList_ofList]
  apply exists_of_longer_end rfl hend
  by_contra hshort
  have hlength := congrArg List.length (hsplit.symm.trans hn)
  rw [List.length_append, List.length_append] at hlength
  -- otherwise the dots cover the root, which is then made of dots and slashes as well
  have hdots : '.' :: '/' :: (root.toList ++ ['/']) <+: dots n :=
    List.prefix_of_prefix_length_le ⟨_, hsplit.symm⟩ ⟨_, hn.symm⟩ (by omega)
  cases n with
  | zero => exact absurd hdots.length_le (by simp [dots])
  | succ n =>
    rw [dots_succ, List.cons_prefix_cons, List.cons_prefix_cons] at hdots
    -- but then the path starts with the root, because one `./` is as good as another
    have hbelow : root.toList ++ ['/'] <+: ("./" ++ root ++ "/" ++ file).toList :=
      (hdots.2.2.trans (dots_prefix_succ n)).trans ⟨_, hn.symm⟩
    obtain ⟨rest, hrest⟩ := hbelow
    apply unfit
    refine ⟨String.ofList rest, String.toList_inj.mp ?_⟩
    rw [← hrest]
    simp

/-- A relative path that ends in a file means only files that end in it. -/
theorem exists_dir_of_locateRelative {l : Locator} (distinct : l.files.Nodup)
    (hpath : ∃ dir, path = dir ++ "/" ++ file) {found : String}
    (h : l.locateRelative path = some found) :
    found ∈ l.files ∧ ∃ dir, found = dir ++ "/" ++ file := by
  obtain ⟨dir, hdir⟩ := hpath
  rcases (locateRelative_eq_some_iff distinct).mp h with ⟨hexact, hmem⟩ | ⟨_, honly⟩
  · exact ⟨hmem, dir, by rw [← hexact, hdir]⟩
  · obtain ⟨head, hhead⟩ := Path.properTail_iff.mp honly.tail
    refine ⟨honly.parsed, head ++ "/" ++ dir, ?_⟩
    rw [hhead, hdir]
    simp only [String.append_assoc]

end Dotted

/-- The path of a file below a root, with slashes. -/
theorem slashed_spelled (root : String) {file : String} (plain : '\\' ∉ file.toList) :
    Path.slashed (root ++ "/" ++ file) = Path.slashed root ++ "/" ++ file := by
  rw [Path.slashed_append, Path.slashed_append, Path.slashed_of_plain plain]
  rfl

section SpelledRoot

variable {m : Model} {file : String}

/-- A root without a dot in front fits its own spelling. -/
theorem locate_of_undotted_root (trimmed : Trimmed m.sourceRoot) (parsed : file ∈ m.files.keys)
    (plain : '\\' ∉ file.toList) (undotted : ∀ rest, Path.slashed m.sourceRoot ≠ "./" ++ rest) :
    (ofModel m []).locate (m.sourceRoot ++ "/" ++ file) = some file := by
  have hroot := trimmed.plainRoot_of_undotted undotted
  have hfirst :
      FirstBelow (knownRoots m []) (Path.slashed (m.sourceRoot ++ "/" ++ file)) file := by
    refine ⟨[], plainRoot m.sourceRoot, [], rfl, ?_, by simp⟩
    rw [slashed_spelled m.sourceRoot plain, hroot]
  rw [locate_of_firstBelow hfirst, if_pos parsed]

/-- Below a root with a dot in front, only a file further down can be found. -/
theorem further_of_dotted_root (trimmed : Trimmed m.sourceRoot) (plain : '\\' ∉ file.toList)
    {root : String} (dotted : Path.slashed m.sourceRoot = "./" ++ root) {found : String}
    (h : (ofModel m []).locate (m.sourceRoot ++ "/" ++ file) = some found) :
    found ∈ m.files.keys ∧ ∃ dir, found = dir ++ "/" ++ file := by
  have hroot := trimmed.plainRoot_of_dotted dotted
  have hroots : knownRoots m [] = [root] := by rw [knownRoots, hroot]; rfl
  have hpath : Path.slashed (m.sourceRoot ++ "/" ++ file) = "./" ++ root ++ "/" ++ file := by
    rw [slashed_spelled m.sourceRoot plain, dotted]
  by_cases hfit : Below root ("./" ++ root ++ "/" ++ file)
  · -- the root is made of dots: it fits, but leaves a dot in front of the file
    obtain ⟨rest, hrest⟩ := hfit
    have hfirst :
        FirstBelow (knownRoots m []) (Path.slashed (m.sourceRoot ++ "/" ++ file)) rest := by
      refine ⟨[], root, [], by rw [hroots]; rfl, ?_, by simp⟩
      rw [hpath, hrest]
    rw [locate_of_firstBelow hfirst] at h
    split at h
    next hmem =>
      rw [← Option.some.inj h]
      exact ⟨hmem, exists_dir_of_fit hrest⟩
    next => exact absurd h (by simp)
  · -- the path counts as relative, with the root in front
    have hnone :
        ∀ r ∈ knownRoots m [], ¬ Below r (Path.slashed (m.sourceRoot ++ "/" ++ file)) := by
      intro r hr
      rw [hroots, List.mem_singleton] at hr
      rw [hpath, hr]
      exact hfit
    rw [locate_of_forall_not_below hnone, hpath] at h
    split at h
    next => exact absurd h (by simp)
    next =>
      have hdir := exists_dir_of_undotted hfit (undotted_dropDots _)
      have hfound := exists_dir_of_locateRelative nodup_files_ofModel hdir h
      rw [files_ofModel] at hfound
      exact hfound

end SpelledRoot

/-- **Files are found below the source root as the model spells it**, unless the spelling has a dot
in front.  Then no file is found under its own path, and what is found, if anything, is a file
further down. -/
theorem locate_spelledRoot (m : Model) (trimmed : Trimmed m.sourceRoot) {file : String}
    (parsed : file ∈ m.files.keys) (plain : '\\' ∉ file.toList) :
    ((ofModel m []).locate (m.sourceRoot ++ "/" ++ file) = some file ↔
      ∀ rest, Path.slashed m.sourceRoot ≠ "./" ++ rest) ∧
    ∀ found, (ofModel m []).locate (m.sourceRoot ++ "/" ++ file) = some found →
      found = file ∨ found ∈ m.files.keys ∧ ∃ dir, found = dir ++ "/" ++ file := by
  by_cases undotted : ∀ rest, Path.slashed m.sourceRoot ≠ "./" ++ rest
  · have hfound := locate_of_undotted_root trimmed parsed plain undotted
    refine ⟨iff_of_true hfound undotted, ?_⟩
    intro found h
    exact .inl (Option.some.inj (h.symm.trans hfound))
  · obtain ⟨root, dotted⟩ : ∃ root, Path.slashed m.sourceRoot = "./" ++ root := by
      simpa using undotted
    have hfurther : ∀ found, (ofModel m []).locate (m.sourceRoot ++ "/" ++ file) = some found →
        found ∈ m.files.keys ∧ ∃ dir, found = dir ++ "/" ++ file := by
      intro found h
      exact further_of_dotted_root trimmed plain dotted h
    refine ⟨iff_of_false ?_ undotted, fun found h => .inr (hfurther found h)⟩
    intro h
    obtain ⟨_, dir, hdir⟩ := hfurther file h
    -- no text is longer than itself
    have hlength := congrArg (fun s => s.toList.length) hdir
    simp only [String.toList_append, List.length_append] at hlength
    have hslash : "/".toList.length = 1 := rfl
    omega

/-- Two files of one name below a root on a drive. -/
def driveModel : Model where
  sourceRoot := "C:\\work\\src"
  files := Table.ofList [("a.php", ⟨1, 0⟩), ("src/a.php", ⟨1, 0⟩)]

/-- The first of them is found, although the other one ends in its path. -/
theorem locate_spelledRoot_drive :
    Trimmed driveModel.sourceRoot ∧ "a.php" ∈ driveModel.files.keys ∧ '\\' ∉ "a.php".toList ∧
      (ofModel driveModel []).locate ("C:\\work\\src" ++ "/" ++ "a.php") = some "a.php" := by
  have trimmed : Trimmed driveModel.sourceRoot := ⟨by decide +kernel, by decide +kernel⟩
  have parsed : "a.php" ∈ driveModel.files.keys := by decide +kernel
  have plain : '\\' ∉ "a.php".toList := by decide +kernel
  refine ⟨trimmed, parsed, plain, (locate_spelledRoot driveModel trimmed parsed plain).1.mpr ?_⟩
  intro rest h
  have hnone : Text.dropPrefix? "./" (Path.slashed driveModel.sourceRoot) = none := by
    decide +kernel
  rw [Text.dropPrefix?_eq_some_iff.mpr h] at hnone
  exact absurd hnone (by simp)

/-- Three files below a root with a dot in front. -/
def dottedModel : Model where
  sourceRoot := "./src"
  files := Table.ofList [("a.php", ⟨1, 0⟩), ("b.php", ⟨1, 0⟩), ("src/a.php", ⟨1, 0⟩)]

/-- One of them is taken for another one, and one is lost. -/
theorem misplaced_below_dotted_root :
    dottedModel.sourceRoot ≠ "" ∧ Trimmed dottedModel.sourceRoot ∧
      (∀ file ∈ dottedModel.files.keys, '\\' ∉ file.toList) ∧
      "a.php" ∈ dottedModel.files.keys ∧
      (ofModel dottedModel []).locate ("./src" ++ "/" ++ "a.php") = some "src/a.php" ∧
      "b.php" ∈ dottedModel.files.keys ∧
      (ofModel dottedModel []).locate ("./src" ++ "/" ++ "b.php") = none := by
  refine ⟨by decide, ⟨by decide +kernel, by decide +kernel⟩, ?_⟩
  decide +kernel

end CodeAtlas.Locator
