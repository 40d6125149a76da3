/-
  CodeAtlas.Proofs.Disk.Sound — disks as a file system keeps them.

  On a sound disk every entry has a name that can be written in a path and stands in a directory.
  A path is followed name by name and through links; on a sound disk what this finds is really
  there, or really missing from a directory that is there.

  Main results:
    * `Sound.along_append` — a walk along more names goes on where the walk along the first ones
      stops.
    * `resolveFrom_induction` — ONE induction along all ways, through links.
    * `Sound.right_resolve` — what a path is said to lead to is there.
    * `Sound.resolveFrom_append` — names behind a way to a directory are followed from there.
-/
import CodeAtlas.Disk.Basic
import CodeAtlas.Proofs.Path
import CodeAtlas.Proofs.Table

namespace CodeAtlas.Disk

variable {d d' : Disk}

/-! ## §1. Sound disks -/

/-- A name that an entry of a directory can have. -/
def IsName (name : String) : Prop :=
  name ≠ "" ∧ name ≠ "." ∧ name ≠ ".." ∧ '/' ∉ name.toList

/-- What a file system keeps of its entries. -/
structure Sound (d : Disk) : Prop where
  /-- Every entry has a name that can be written in a path. -/
  names : ∀ path e, d.get? path = some e → ∀ name ∈ path, IsName name
  /-- What holds an entry is a directory. -/
  above : ∀ dir name e, d.get? (dir ++ [name]) = some e → d.get? dir = some .directory
  /-- The working directory is there. -/
  here : d.get? d.cwd = some .directory

@[simp] theorem get?_nil (d : Disk) : d.get? [] = some .directory := rfl

theorem get?_cons (d : Disk) (name : String) (path : List String) :
    d.get? (name :: path) = d.entries.get? (name :: path) := rfl

theorem get?_put (d : Disk) (dir : List String) (name : String) (e : DiskEntry)
    (path : List String) : (d.put (dir ++ [name]) e).get? path =
      if path = dir ++ [name] then some e else d.get? path := by
  cases path with
  | nil => rw [get?_nil, get?_nil, if_neg (by simp)]
  | cons first rest =>
    rw [get?_cons, get?_cons, put, Table.get?_insert]

theorem sound_empty : Sound {} := by
  have hroot : ∀ path e, ({} : Disk).get? path = some e → path = [] := by
    intro path e h
    cases path with
    | nil => rfl
    | cons => exact nomatch h
  refine ⟨fun path e h name hname => ?_, fun dir name e h => ?_, rfl⟩
  · rw [hroot path e h] at hname
    exact nomatch hname
  · exact absurd (hroot _ e h) (by simp)

theorem Sound.directory_above (sound : d.Sound) {dir rest : List String} {e : DiskEntry}
    (h : d.get? (dir ++ rest) = some e) (hrest : rest ≠ []) : d.get? dir = some .directory := by
  induction rest generalizing dir with
  | nil => exact absurd rfl hrest
  | cons name rest ih =>
    rw [List.append_cons] at h
    by_cases hlast : rest = []
    · rw [hlast, List.append_nil] at h
      exact sound.above dir name e h
    · exact sound.above dir name .directory (ih h hlast)

theorem Sound.none_below (sound : d.Sound) {dir : List String} (h : d.get? dir = none)
    (rest : List String) : d.get? (dir ++ rest) = none := by
  by_cases hrest : rest = []
  · rw [hrest, List.append_nil, h]
  · rw [Option.eq_none_iff_forall_ne_some]
    intro e he
    rw [sound.directory_above he hrest] at h
    exact nomatch h

theorem Sound.directory_dropLast (sound : d.Sound) {dir : List String}
    (h : d.get? dir = some .directory) : d.get? dir.dropLast = some .directory := by
  rcases List.eq_nil_or_concat dir with rfl | ⟨front, name, rfl⟩
  · rfl
  · rw [List.concat_eq_append] at h ⊢
    rw [List.dropLast_concat]
    exact sound.above front name _ h

/-! ## §2. Along names -/

section

variable {name : String} {dir rest : List String} (hname : IsName name)
include hname

theorem along_cons_of_directory (h : d.get? (dir ++ [name]) = some .directory) :
    d.along dir (name :: rest) = d.along (dir ++ [name]) rest := by
  rw [along, if_neg (by simp [hname.1, hname.2.1]), if_neg hname.2.2.1, h]

theorem along_singleton_of_file {bytes : ByteArray}
    (h : d.get? (dir ++ [name]) = some (.file bytes)) :
    d.along dir [name] = .arrived (dir ++ [name]) := by
  rw [along, if_neg (by simp [hname.1, hname.2.1]), if_neg hname.2.2.1, h]
  rfl

theorem along_cons_of_none (h : d.get? (dir ++ [name]) = none) : d.along dir (name :: rest) =
    if rest.all (· == "") then .vacant (dir ++ [name]) else .failed .notFound := by
  rw [along, if_neg (by simp [hname.1, hname.2.1]), if_neg hname.2.2.1, h]

end

/-- Where a walk stops that goes on from where another one stopped. -/
def Walked.further (d : Disk) (more : List String) : Walked → Walked
  | .arrived path =>
    if more = [] then .arrived path
    else
      match d.get? path with
      | some .directory => d.along path more
      | _ => .failed .notDirectory
  | .vacant path => if more.all (· == "") then .vacant path else .failed .notFound
  | .failed e => .failed e
  | .link dir name target rest => .link dir name target (rest ++ more)

section

variable {path more : List String}

theorem further_of_directory (h : d.get? path = some .directory) :
    (Walked.arrived path).further d more = d.along path more := by
  rw [Walked.further, h]
  split
  next hmore => rw [hmore, along]
  next => rfl

theorem further_of_file {bytes : ByteArray} (h : d.get? path = some (.file bytes)) :
    (Walked.arrived path).further d more =
      if more = [] then .arrived path else .failed .notDirectory := by
  rw [Walked.further, h]

end

/-- **A walk along more names** goes on where the walk along the first ones stops. -/
theorem Sound.along_append (sound : d.Sound) {dir : List String}
    (hdir : d.get? dir = some .directory) (names more : List String) :
    d.along dir (names ++ more) = (d.along dir names).further d more := by
  induction names generalizing dir with
  | nil =>
    rw [List.nil_append, along, further_of_directory hdir]
  | cons name names ih =>
    rw [List.cons_append, along, along]
    split
    next => exact ih hdir
    next =>
      split
      next => exact ih (sound.directory_dropLast hdir)
      next =>
        cases hentry : d.get? (dir ++ [name]) with
        | none =>
          dsimp only
          rw [List.all_append]
          by_cases hnames : names.all (· == "") = true
          · simp only [hnames, Bool.true_and, if_true, Walked.further]
          · simp only [hnames, Bool.false_and, Walked.further]
            rfl
        | some e =>
          cases e with
          | directory => exact ih hentry
          | link target => rfl
          | file bytes =>
            dsimp only
            cases names with
            | nil =>
              cases more with
              | nil => rfl
              | cons m more => simp [Walked.further, hentry]
            | cons n names => rfl

/-- What a walk along names says about the disk is right. -/
def Walked.Right (d : Disk) (names : List String) : Walked → Prop
  | .arrived path => ∃ e, d.get? path = some e ∧ ∀ target, e ≠ .link target
  | .vacant path => ∃ dir name, path = dir ++ [name] ∧ IsName name ∧
      d.get? dir = some .directory ∧ d.get? path = none
  | .failed _ => True
  | .link dir name target rest => d.get? dir = some .directory ∧
      d.get? (dir ++ [name]) = some (.link target) ∧ ∀ s ∈ rest, s ∈ names

theorem Walked.Right.cons {name : String} {names : List String} {w : Walked} (h : w.Right d names) :
    w.Right d (name :: names) := by
  cases w with
  | link dir n target rest =>
    obtain ⟨hdir, hlink, hrest⟩ := h
    exact ⟨hdir, hlink, fun s hs => List.mem_cons_of_mem name (hrest s hs)⟩
  | arrived path => exact h
  | vacant path => exact h
  | failed e => exact h

theorem Sound.right_along (sound : d.Sound) {dir names : List String}
    (hdir : d.get? dir = some .directory) (plain : ∀ s ∈ names, '/' ∉ s.toList) :
    (d.along dir names).Right d names := by
  induction names generalizing dir with
  | nil =>
    rw [along]
    exact ⟨.directory, hdir, by simp⟩
  | cons name names ih =>
    have hplain : ∀ s ∈ names, '/' ∉ s.toList := fun s hs => plain s (List.mem_cons_of_mem name hs)
    rw [along]
    split
    next => exact (ih hdir hplain).cons
    next hreal =>
      split
      next => exact (ih (sound.directory_dropLast hdir) hplain).cons
      next hdots =>
        cases hentry : d.get? (dir ++ [name]) with
        | none =>
          dsimp only
          split
          next =>
            simp only [Bool.or_eq_true, decide_eq_true_eq, not_or] at hreal
            have hname : IsName name := ⟨hreal.1, hreal.2, hdots, plain name List.mem_cons_self⟩
            exact ⟨dir, name, rfl, hname, hdir, hentry⟩
          next => trivial
        | some e =>
          cases e with
          | directory => exact (ih hentry hplain).cons
          | link target => exact ⟨hdir, hentry, fun s hs => List.mem_cons_of_mem name hs⟩
          | file bytes =>
            dsimp only
            split
            next => exact ⟨_, hentry, by simp⟩
            next => trivial

/-! ## §3. Places -/

/-- What a place says about the disk is right. -/
def Place.Right (d : Disk) : Place → Prop
  | .present path e => d.get? path = some e
  | .vacant path => ∃ dir name, path = dir ++ [name] ∧ IsName name ∧
      d.get? dir = some .directory ∧ d.get? path = none

section

variable {follow : Bool} {links : Nat} {dir names : List String}

theorem resolveFrom_of_arrived {path : List String} {e : DiskEntry}
    (hwalk : d.along dir names = .arrived path) (he : d.get? path = some e) :
    d.resolveFrom follow (links + 1) dir names = .ok (.present path e) := by
  rw [resolveFrom, hwalk]
  dsimp only
  rw [he, Option.getD_some]

theorem resolveFrom_of_vacant {path : List String} (hwalk : d.along dir names = .vacant path) :
    d.resolveFrom follow (links + 1) dir names = .ok (.vacant path) := by
  rw [resolveFrom, hwalk]

theorem resolveFrom_of_failed {e : DiskError} (hwalk : d.along dir names = .failed e) :
    d.resolveFrom follow (links + 1) dir names = .error e := by
  rw [resolveFrom, hwalk]

/-- A link at the very end, where links are not followed there. -/
theorem resolveFrom_of_link_last {holder : List String} {name target : String}
    (hwalk : d.along dir names = .link holder name target []) :
    d.resolveFrom false (links + 1) dir names =
      .ok (.present (holder ++ [name]) (.link target)) := by
  rw [resolveFrom, hwalk]
  rfl

theorem resolveFrom_of_link {holder rest : List String} {name target : String}
    (hwalk : d.along dir names = .link holder name target rest)
    (hfollow : (rest.isEmpty && !follow) = false) : d.resolveFrom follow (links + 1) dir names =
      d.resolveFrom follow links (if Text.startsWith "/" target then [] else holder)
        (Path.segments target ++ rest) := by
  rw [resolveFrom, hwalk]
  dsimp only
  rw [hfollow]
  rfl

end

/-- The directory from which the target of a link is followed. -/
theorem get?_start {dir : List String} (target : String) (hdir : d.get? dir = some .directory) :
    d.get? (if Text.startsWith "/" target then [] else dir) = some .directory := by
  split
  · rfl
  · exact hdir

/-- The names that are followed behind a link hold no slashes either. -/
theorem plain_behind {names rest : List String} (plain : ∀ s ∈ names, '/' ∉ s.toList)
    (hrest : ∀ s ∈ rest, s ∈ names) (target : String) :
    ∀ s ∈ Path.segments target ++ rest, '/' ∉ s.toList := by
  intro s hs
  rcases List.mem_append.mp hs with hs | hs
  · exact Path.notMem_of_mem_segments hs
  · exact plain s (hrest s hs)

/-- **Induction along a way.**  `S` is what the names still to go satisfy in the directory that the
way has come to. -/
theorem resolveFrom_induction {S : List String → List String → Prop} {Q : Place → Prop}
    (arrived : ∀ {dir names path}, S dir names → d.along dir names = .arrived path →
      Q (.present path ((d.get? path).getD .directory)))
    (vacant : ∀ {dir names path}, S dir names → d.along dir names = .vacant path →
      Q (.vacant path))
    (last : ∀ {dir names holder name target}, S dir names →
      d.along dir names = .link holder name target [] →
      Q (.present (holder ++ [name]) (.link target)))
    (link : ∀ {dir names holder name target rest}, S dir names →
      d.along dir names = .link holder name target rest →
      S (if Text.startsWith "/" target then [] else holder) (Path.segments target ++ rest))
    {follow : Bool} {links : Nat} {dir names : List String} {place : Place} (start : S dir names)
    (h : d.resolveFrom follow links dir names = .ok place) : Q place := by
  induction links generalizing dir names with
  | zero => exact absurd h (by simp [resolveFrom])
  | succ links ih =>
    cases hwalk : d.along dir names with
    | arrived path =>
      rw [resolveFrom, hwalk] at h
      rw [← Except.ok.inj h]
      exact arrived start hwalk
    | vacant path =>
      rw [resolveFrom_of_vacant hwalk] at h
      rw [← Except.ok.inj h]
      exact vacant start hwalk
    | failed e =>
      rw [resolveFrom_of_failed hwalk] at h
      exact nomatch h
    | link holder name target rest =>
      by_cases hlast : (rest.isEmpty && !follow) = true
      · simp only [Bool.and_eq_true, List.isEmpty_iff, Bool.not_eq_true'] at hlast
        obtain ⟨rfl, rfl⟩ := hlast
        rw [resolveFrom_of_link_last hwalk] at h
        rw [← Except.ok.inj h]
        exact last start hwalk
      · rw [resolveFrom_of_link hwalk (Bool.eq_false_iff.mpr hlast)] at h
        exact ih (link start hwalk) h

theorem Sound.right_resolveFrom (sound : d.Sound) {follow : Bool} {links : Nat}
    {dir names : List String} {place : Place} (hdir : d.get? dir = some .directory)
    (plain : ∀ s ∈ names, '/' ∉ s.toList) (h : d.resolveFrom follow links dir names = .ok place) :
    place.Right d := by
  apply resolveFrom_induction (d := d) (Q := Place.Right d)
    (S := fun dir names => d.get? dir = some .directory ∧ ∀ s ∈ names, '/' ∉ s.toList)
    ?_ ?_ ?_ ?_ ⟨hdir, plain⟩ h
  · rintro dir names path ⟨hdir, plain⟩ hwalk
    obtain ⟨e, he, _⟩ := hwalk ▸ sound.right_along hdir plain
    rw [he]
    exact he
  · rintro dir names path ⟨hdir, plain⟩ hwalk
    have hright := sound.right_along hdir plain
    rw [hwalk] at hright
    exact hright
  · rintro dir names holder name target ⟨hdir, plain⟩ hwalk
    obtain ⟨_, hentry, _⟩ := hwalk ▸ sound.right_along hdir plain
    exact hentry
  · rintro dir names holder name target rest ⟨hdir, plain⟩ hwalk
    obtain ⟨hholder, _, hrest⟩ := hwalk ▸ sound.right_along hdir plain
    exact ⟨get?_start target hholder, plain_behind plain hrest target⟩

theorem Sound.right_resolve (sound : d.Sound) {follow : Bool} {path : String} {place : Place}
    (h : d.resolve follow path = .ok place) : place.Right d := by
  unfold resolve at h
  split at h
  next => exact nomatch h
  next =>
    exact sound.right_resolveFrom (get?_start path sound.here)
      (fun _ hs => Path.notMem_of_mem_segments hs) h

/-- The first names on the way to a place: a walk along them arrives somewhere, or it comes to a
link behind which the way goes on. -/
theorem Sound.walk_of_present (sound : d.Sound) {links : Nat} {dir names more path : List String}
    {e : DiskEntry} (hdir : d.get? dir = some .directory) (plain : ∀ s ∈ names, '/' ∉ s.toList)
    (h : d.resolveFrom true (links + 1) dir (names ++ more) = .ok (.present path e)) :
    (∃ there, d.along dir names = .arrived there) ∨
      ∃ holder name target rest, d.along dir names = .link holder name target rest ∧
        d.get? holder = some .directory ∧
        (∀ s ∈ Path.segments target ++ rest, '/' ∉ s.toList) ∧
        d.resolveFrom true links (if Text.startsWith "/" target then [] else holder)
          (Path.segments target ++ rest ++ more) = .ok (.present path e) := by
  have hright := sound.right_along hdir plain
  have happend := sound.along_append hdir names more
  cases hwalk : d.along dir names with
  | arrived there => exact .inl ⟨there, rfl⟩
  | vacant there =>
    rw [hwalk, Walked.further] at happend
    by_cases hmore : more.all (· == "") = true
    · rw [if_pos hmore] at happend
      rw [resolveFrom_of_vacant happend] at h
      exact nomatch h
    · rw [if_neg hmore] at happend
      rw [resolveFrom_of_failed happend] at h
      exact nomatch h
  | failed e' =>
    rw [hwalk, Walked.further] at happend
    rw [resolveFrom_of_failed happend] at h
    exact nomatch h
  | link holder name target rest =>
    rw [hwalk] at hright happend
    obtain ⟨hholder, _, hrest⟩ := hright
    rw [resolveFrom_of_link happend (by simp), ← List.append_assoc] at h
    exact .inr ⟨holder, name, target, rest, rfl, hholder, plain_behind plain hrest target, h⟩

/-- The first names on the way to a place lead to a place. -/
theorem Sound.present_of_append (sound : d.Sound) {links : Nat} {dir names more path : List String}
    {e : DiskEntry} (hdir : d.get? dir = some .directory) (plain : ∀ s ∈ names, '/' ∉ s.toList)
    (h : d.resolveFrom true links dir (names ++ more) = .ok (.present path e)) (follow : Bool) :
    ∃ there e', d.resolveFrom follow links dir names = .ok (.present there e') := by
  induction links generalizing dir names with
  | zero => exact absurd h (by simp [resolveFrom])
  | succ links ih =>
    rcases sound.walk_of_present hdir plain h with
      ⟨there, hwalk⟩ | ⟨holder, name, target, rest, hwalk, hholder, hplain, hon⟩
    · have hright := sound.right_along hdir plain
      rw [hwalk] at hright
      obtain ⟨e', he', _⟩ := hright
      exact ⟨there, e', resolveFrom_of_arrived hwalk he'⟩
    · by_cases hlast : (rest.isEmpty && !follow) = true
      · simp only [Bool.and_eq_true, List.isEmpty_iff, Bool.not_eq_true'] at hlast
        obtain ⟨rfl, rfl⟩ := hlast
        exact ⟨_, _, resolveFrom_of_link_last hwalk⟩
      · rw [resolveFrom_of_link hwalk (Bool.eq_false_iff.mpr hlast)]
        exact ih (get?_start target hholder) hplain hon

theorem along_of_empty {dir slack : List String} (h : ∀ s ∈ slack, s = "") :
    d.along dir slack = .arrived dir := by
  induction slack with
  | nil => rw [along]
  | cons s slack ih =>
    rw [along, if_pos (by simp [h s List.mem_cons_self])]
    exact ih fun t ht => h t (List.mem_cons_of_mem s ht)

/-- Names behind a way to a directory are followed from there. -/
theorem Sound.resolveFrom_append (sound : d.Sound) {links : Nat}
    {start front slack dir : List String} (hstart : d.get? start = some .directory)
    (plain : ∀ s ∈ front, '/' ∉ s.toList) (hslack : ∀ s ∈ slack, s = "")
    (h : d.resolveFrom true links start (front ++ slack) = .ok (.present dir .directory)) :
    ∃ left, ∀ follow names, names ≠ [] →
      d.resolveFrom follow links start (front ++ names) =
        d.resolveFrom follow (left + 1) dir names := by
  induction links generalizing start front with
  | zero => exact absurd h (by simp [resolveFrom])
  | succ links ih =>
    rcases sound.walk_of_present hstart plain h with
      ⟨there, hwalk⟩ | ⟨holder, name, target, rest, hwalk, hholder, hplain, hon⟩
    · have hright := sound.right_along hstart plain
      have happend := sound.along_append hstart front slack
      rw [hwalk] at hright happend
      obtain ⟨e, he, hlink⟩ := hright
      cases e with
      | directory =>
        rw [further_of_directory he, along_of_empty hslack] at happend
        rw [resolveFrom_of_arrived happend he, Except.ok.injEq, Place.present.injEq] at h
        refine ⟨links, fun follow names _ => ?_⟩
        rw [resolveFrom, resolveFrom, sound.along_append hstart, hwalk,
          further_of_directory he, h.1]
      | file bytes =>
        rw [further_of_file he] at happend
        by_cases hnone : slack = []
        · rw [if_pos hnone] at happend
          rw [resolveFrom_of_arrived happend he] at h
          exact nomatch h
        · rw [if_neg hnone] at happend
          rw [resolveFrom_of_failed happend] at h
          exact nomatch h
      | link target => exact absurd rfl (hlink target)
    · obtain ⟨left, hleft⟩ := ih (get?_start target hholder) hplain hon
      refine ⟨left, fun follow names hnames => ?_⟩
      have hwalk' : d.along start (front ++ names) = .link holder name target (rest ++ names) := by
        rw [sound.along_append hstart, hwalk, Walked.further]
      rw [resolveFrom_of_link hwalk' (by simp [hnames]), ← List.append_assoc,
        hleft follow names hnames]

end CodeAtlas.Disk
