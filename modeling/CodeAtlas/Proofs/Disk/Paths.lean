/-
  CodeAtlas.Proofs.Disk.Paths — paths below a directory.

  A path that goes on behind a way to a directory is read as names from that directory on, whatever
  links led there.  The way to a directory passes directories and links only, so it stays as it is
  while files are written.

  Main results:
    * `Sound.spells` — a path below a directory, read from there.
    * `Keeps.find?_eq` — a path to a directory leads there as long as directories and links stay.
    * `Sound.on_resolveFrom` — what single steps keep, every way through links keeps.
-/
import CodeAtlas.Proofs.Disk.Sound

namespace CodeAtlas.Disk

variable {d d' : Disk}

/-! ## §1. Paths below a directory -/

theorem find?_eq_some_iff {path : String} {there : List String} {e : DiskEntry} :
    d.find? path = some (there, e) ↔ d.resolve true path = .ok (.present there e) := by
  unfold find?
  split
  next p e' h => rw [h]; simp
  next hnot =>
    constructor
    · intro h
      exact nomatch h
    · intro h
      exact absurd h (hnot there e)

theorem resolve_of_ne {path : String} (hpath : path ≠ "") (follow : Bool) : d.resolve follow path =
    d.resolveFrom follow linkLimit (if Text.startsWith "/" path then [] else d.cwd)
      (Path.segments path) := by
  unfold resolve
  rw [if_neg hpath]

theorem ne_empty_of_find? {path : String} {there : List String × DiskEntry}
    (h : d.find? path = some there) : path ≠ "" := by
  rintro rfl
  exact absurd h (by simp [find?, resolve])

/-- A path is read as names from a directory on, whatever links it has passed. -/
def Spells (d : Disk) (path : String) (dir names : List String) : Prop :=
  ∃ links, ∀ follow, d.resolve follow path = d.resolveFrom follow (links + 1) dir names

/-- **A path that goes on behind a way to a directory is read from that directory on.** -/
theorem Sound.spells (sound : d.Sound) {root path : String} {dir names : List String}
    (hroot : d.find? root = some (dir, .directory))
    (hpath : Path.segments path = Path.front root ++ names) (hnames : names ≠ []) :
    d.Spells path dir names := by
  have hne := ne_empty_of_find? hroot
  obtain ⟨first, front, hfront⟩ := List.exists_cons_of_ne_nil (Path.front_ne_nil root)
  obtain ⟨slack, hslack, hempty⟩ := Path.segments_eq_front root
  have hne' : path ≠ "" := Path.ne_empty_of_segments (Path.front_ne_nil root) hnames hpath
  have hstart : Text.startsWith "/" path = Text.startsWith "/" root := by
    apply Path.startsWith_slash_eq hne' hne
    rw [hpath, hslack, hfront]
    rfl
  rw [find?_eq_some_iff, resolve_of_ne hne, hslack] at hroot
  have hplain : ∀ s ∈ Path.front root, '/' ∉ s.toList := by
    intro s hs
    exact Path.notMem_of_mem_segments (hslack ▸ List.mem_append_left slack hs)
  obtain ⟨left, hleft⟩ :=
    sound.resolveFrom_append (get?_start root sound.here) hplain hempty hroot
  refine ⟨left, fun follow => ?_⟩
  rw [resolve_of_ne hne', hpath, hstart, hleft follow names hnames]

theorem Sound.along_of_some (sound : d.Sound) {dir names : List String} {e : DiskEntry}
    (h : d.get? (dir ++ names) = some e) (hlink : ∀ target, e ≠ .link target) :
    d.along dir names = .arrived (dir ++ names) := by
  induction names generalizing dir with
  | nil => rw [along, List.append_nil]
  | cons name names ih =>
    have hname : IsName name := sound.names _ e h name (by simp)
    rw [List.append_cons] at h ⊢
    by_cases hlast : names = []
    · subst hlast
      rw [List.append_nil] at h ⊢
      cases e with
      | directory => rw [along_cons_of_directory hname h, along]
      | file bytes => exact along_singleton_of_file hname h
      | link target => exact absurd rfl (hlink target)
    · rw [along_cons_of_directory hname (sound.directory_above h hlast)]
      exact ih h

theorem Sound.along_of_none (sound : d.Sound) {dir names : List String} {name : String}
    (hdir : d.get? dir = some .directory) (h : d.get? (dir ++ names) = some .directory)
    (hname : IsName name) (hnone : d.get? (dir ++ names ++ [name]) = none) :
    d.along dir (names ++ [name]) = .vacant (dir ++ names ++ [name]) := by
  rw [sound.along_append hdir, sound.along_of_some h (by simp), further_of_directory h,
    along_cons_of_none hname hnone]
  rfl

/-- A walk that needs a directory which is not there. -/
theorem along_of_missing {dir names : List String} {name : String}
    (hdir : d.get? dir = some .directory) (legal : ∀ s ∈ names, IsName s) (hname : IsName name)
    (clear : ∀ q, q <+: names → d.get? (dir ++ q) = none ∨ d.get? (dir ++ q) = some .directory)
    (hnone : d.get? (dir ++ names) = none) :
    d.along dir (names ++ [name]) = .failed .notFound := by
  induction names generalizing dir with
  | nil =>
    rw [List.append_nil, hdir] at hnone
    exact nomatch hnone
  | cons s names ih =>
    have hs : IsName s := legal s List.mem_cons_self
    rw [List.cons_append]
    rcases clear [s] (by simp) with hmissing | hthere
    · rw [along_cons_of_none hs hmissing, if_neg (by simp [hname.1])]
    · rw [along_cons_of_directory hs hthere]
      refine ih hthere (fun t ht => legal t (List.mem_cons_of_mem s ht)) ?_ (by simpa using hnone)
      intro q hq
      have hlonger := clear (s :: q) (List.cons_prefix_cons.mpr ⟨rfl, hq⟩)
      rwa [List.append_cons] at hlonger

namespace Spells

variable {path : String} {dir names : List String} {name : String}

theorem resolve_of_some (sound : d.Sound) {e : DiskEntry} (spells : d.Spells path dir names)
    (h : d.get? (dir ++ names) = some e) (hlink : ∀ target, e ≠ .link target) (follow : Bool) :
    d.resolve follow path = .ok (.present (dir ++ names) e) := by
  obtain ⟨links, hlinks⟩ := spells
  rw [hlinks, resolveFrom_of_arrived (sound.along_of_some h hlink) h]

theorem resolve_of_none (sound : d.Sound) (spells : d.Spells path dir (names ++ [name]))
    (hdir : d.get? dir = some .directory) (h : d.get? (dir ++ names) = some .directory)
    (hname : IsName name) (hnone : d.get? (dir ++ names ++ [name]) = none) (follow : Bool) :
    d.resolve follow path = .ok (.vacant (dir ++ names ++ [name])) := by
  obtain ⟨links, hlinks⟩ := spells
  rw [hlinks, resolveFrom_of_vacant (sound.along_of_none hdir h hname hnone)]

theorem resolve_of_missing (spells : d.Spells path dir (names ++ [name]))
    (hdir : d.get? dir = some .directory) (legal : ∀ s ∈ names, IsName s) (hname : IsName name)
    (clear : ∀ q, q <+: names → d.get? (dir ++ q) = none ∨ d.get? (dir ++ q) = some .directory)
    (hnone : d.get? (dir ++ names) = none) (follow : Bool) :
    d.resolve follow path = .error .notFound := by
  obtain ⟨links, hlinks⟩ := spells
  rw [hlinks, resolveFrom_of_failed (along_of_missing hdir legal hname clear hnone)]

end Spells

/-! ## §2. Disks with the same directories and links -/

/-- Directories and links stay; files may be added and get other bytes. -/
structure Keeps (d d' : Disk) : Prop where
  cwd : d'.cwd = d.cwd
  entry : ∀ path e, d.get? path = some e → (∀ bytes, e ≠ .file bytes) → d'.get? path = some e

/-- Where a walk stops that more files cannot change. -/
def Walked.Lasts (d : Disk) : Walked → Prop
  | .arrived path => d.get? path = some .directory
  | .link .. => True
  | _ => False

namespace Keeps

theorem refl (d : Disk) : d.Keeps d := ⟨rfl, fun _ _ h _ => h⟩

theorem trans {d'' : Disk} (h : d.Keeps d') (h' : d'.Keeps d'') : d.Keeps d'' where
  cwd := h'.cwd.trans h.cwd
  entry path e he hfile := h'.entry path e (h.entry path e he hfile) hfile

theorem directory (keeps : d.Keeps d') {path : List String} (h : d.get? path = some .directory) :
    d'.get? path = some .directory :=
  keeps.entry path .directory h (by simp)

/-- A walk to a directory or to a link stays as it is. -/
theorem along_eq (keeps : d.Keeps d') {dir names : List String}
    (h : (d.along dir names).Lasts d) : d'.along dir names = d.along dir names := by
  induction names generalizing dir with
  | nil => rw [along, along]
  | cons name names ih =>
    rw [along] at h ⊢
    rw [along]
    split at h
    next hstay =>
      rw [if_pos hstay, if_pos hstay]
      exact ih h
    next hstay =>
      rw [if_neg hstay, if_neg hstay]
      split at h
      next hup =>
        rw [if_pos hup, if_pos hup]
        exact ih h
      next hup =>
        rw [if_neg hup, if_neg hup]
        cases hentry : d.get? (dir ++ [name]) with
        | none =>
          rw [hentry] at h
          dsimp only at h
          split at h <;> exact h.elim
        | some e =>
          rw [hentry] at h
          cases e with
          | directory =>
            rw [keeps.directory hentry]
            exact ih h
          | link target => rw [keeps.entry _ _ hentry (by simp)]
          | file bytes =>
            dsimp only at h
            split at h
            next =>
              rw [Walked.Lasts, hentry] at h
              exact absurd h (by simp)
            next => exact h.elim

theorem resolveFrom_eq (sound : d.Sound) (keeps : d.Keeps d') {links : Nat}
    {dir names path : List String} (hdir : d.get? dir = some .directory)
    (plain : ∀ s ∈ names, '/' ∉ s.toList)
    (h : d.resolveFrom true links dir names = .ok (.present path .directory)) :
    d'.resolveFrom true links dir names = .ok (.present path .directory) := by
  induction links generalizing dir names with
  | zero => exact absurd h (by simp [resolveFrom])
  | succ links ih =>
    have hwhole : d.resolveFrom true (links + 1) dir (names ++ []) =
        .ok (.present path .directory) := by rwa [List.append_nil]
    rcases sound.walk_of_present hdir plain hwhole with
      ⟨there, hwalk⟩ | ⟨holder, name, target, rest, hwalk, hholder, hplain, hon⟩
    · have hright := sound.right_along hdir plain
      rw [hwalk] at hright
      obtain ⟨e, he, _⟩ := hright
      rw [resolveFrom_of_arrived hwalk he, Except.ok.injEq, Place.present.injEq] at h
      obtain ⟨rfl, rfl⟩ := h
      have hwalk' : d'.along dir names = .arrived there := by
        rw [keeps.along_eq (by rw [hwalk]; exact he), hwalk]
      exact resolveFrom_of_arrived hwalk' (keeps.directory he)
    · have hwalk' : d'.along dir names = .link holder name target rest := by
        rw [keeps.along_eq (by rw [hwalk]; trivial), hwalk]
      rw [resolveFrom_of_link hwalk' (by simp)]
      rw [List.append_nil] at hon
      exact ih (get?_start target hholder) hplain hon

/-- **A path to a directory leads there as long as directories and links stay.** -/
theorem find?_eq (sound : d.Sound) (keeps : d.Keeps d') {path : String} {dir : List String}
    (h : d.find? path = some (dir, .directory)) : d'.find? path = some (dir, .directory) := by
  have hne := ne_empty_of_find? h
  rw [find?_eq_some_iff, resolve_of_ne hne] at h ⊢
  rw [keeps.cwd]
  exact keeps.resolveFrom_eq sound (get?_start path sound.here)
    (fun _ hs => Path.notMem_of_mem_segments hs) h

end Keeps

/-! ## §3. Where a path can lead -/

/-- The directories and names that a walk has passed where it stops. -/
def Walked.On (C : List String → Prop) (N : String → Prop) : Walked → Prop
  | .arrived path => C path
  | .vacant path => C path
  | .failed _ => True
  | .link holder name _ rest => C holder ∧ N name ∧ ∀ s ∈ rest, N s

/-- What holds of a place. -/
def Place.On (C : List String → Prop) : Place → Prop
  | .present path _ => C path
  | .vacant path => C path

section

variable {C : List String → Prop} {N : String → Prop} (up : ∀ path, C path → C path.dropLast)
  (down : ∀ path name, C path → N name → C (path ++ [name]))
include up down

/-- What single steps keep, a walk keeps. -/
theorem on_along {dir names : List String} (hdir : C dir) (hnames : ∀ s ∈ names, N s) :
    (d.along dir names).On C N := by
  induction names generalizing dir with
  | nil =>
    rw [along]
    exact hdir
  | cons name names ih =>
    have hname : N name := hnames name List.mem_cons_self
    have hrest : ∀ s ∈ names, N s := fun s hs => hnames s (List.mem_cons_of_mem name hs)
    have hbelow : C (dir ++ [name]) := down dir name hdir hname
    rw [along]
    split
    next => exact ih hdir hrest
    next =>
      split
      next => exact ih (up dir hdir) hrest
      next =>
        cases hentry : d.get? (dir ++ [name]) with
        | none =>
          dsimp only
          split
          · exact hbelow
          · trivial
        | some e =>
          cases e with
          | directory => exact ih hbelow hrest
          | link target => exact ⟨hdir, hname, hrest⟩
          | file bytes =>
            dsimp only
            split
            · exact hbelow
            · trivial

/-- **What single steps keep, every way through links keeps**, if their targets are made of such
steps too. -/
theorem Sound.on_resolveFrom (sound : d.Sound) (root : C [])
    (targets : ∀ path target, d.get? path = some (.link target) → ∀ s ∈ Path.segments target, N s)
    {follow : Bool} {links : Nat} {dir names : List String} {place : Place}
    (hdir : d.get? dir = some .directory) (hC : C dir) (plain : ∀ s ∈ names, '/' ∉ s.toList)
    (hnames : ∀ s ∈ names, N s) (h : d.resolveFrom follow links dir names = .ok place) :
    place.On C := by
  apply resolveFrom_induction (d := d) (Q := Place.On C)
    (S := fun dir names => d.get? dir = some .directory ∧ C dir ∧
      (∀ s ∈ names, '/' ∉ s.toList) ∧ ∀ s ∈ names, N s)
    ?_ ?_ ?_ ?_ ⟨hdir, hC, plain, hnames⟩ h
  · rintro dir names path ⟨_, hC, _, hnames⟩ hwalk
    have hon := on_along (d := d) up down hC hnames
    rw [hwalk] at hon
    exact hon
  · rintro dir names path ⟨_, hC, _, hnames⟩ hwalk
    have hon := on_along (d := d) up down hC hnames
    rw [hwalk] at hon
    exact hon
  · rintro dir names holder name target ⟨_, hC, _, hnames⟩ hwalk
    obtain ⟨hholder, hname, _⟩ := hwalk ▸ on_along (d := d) up down hC hnames
    exact down holder name hholder hname
  · rintro dir names holder name target rest ⟨hdir, hC, plain, hnames⟩ hwalk
    obtain ⟨hholder, hentry, hrest⟩ := hwalk ▸ sound.right_along hdir plain
    obtain ⟨hCholder, _, hNrest⟩ := hwalk ▸ on_along (d := d) up down hC hnames
    refine ⟨get?_start target hholder, ?_, plain_behind plain hrest target, ?_⟩
    · split
      · exact root
      · exact hCholder
    · intro s hs
      rcases List.mem_append.mp hs with hs | hs
      · exact targets _ target hentry s hs
      · exact hNrest s hs

end

end CodeAtlas.Disk
