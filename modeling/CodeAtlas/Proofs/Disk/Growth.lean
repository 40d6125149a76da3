/-
  CodeAtlas.Proofs.Disk.Growth — what writing can do to a disk.

  Every change puts entries where nothing stood, or over a file.  So a disk stays sound, directories
  and links stay, and whatever is new satisfies what is known of the places that paths lead to.
  This is said once, by `Grown`; each operation is shown to grow a disk, and every invariant of a
  sequence of writes follows.

  Main results:
    * `Sound.grown_makeDirectoriesUpTo`, `Sound.grown_write`, `Sound.grown_copy` — the operations.
    * `Sound.sound_add` — a disk that is built from a manifest is sound.
    * `Sound.makeDirectories_below`, `Sound.copy_below` — what is made and copied below a directory.
-/
import Mathlib.Data.List.Induction
import CodeAtlas.Disk.Manifest
import CodeAtlas.Proofs.Disk.Paths
import CodeAtlas.Proofs.Loop

namespace CodeAtlas.Disk

variable {d d' d'' : Disk} {P : List String → DiskEntry → Prop}

/-! ## §1. Growth -/

/-- A sound disk on which directories and links stay, and on which all that is new satisfies `P`. -/
structure Grown (P : List String → DiskEntry → Prop) (d d' : Disk) : Prop where
  sound : d'.Sound
  keeps : d.Keeps d'
  new : ∀ path e, d'.get? path = some e → d.get? path = some e ∨ P path e

theorem Sound.grown_refl (sound : d.Sound) : d.Grown P d := ⟨sound, .refl d, fun _ _ h => .inl h⟩

theorem Grown.trans (h : d.Grown P d') (h' : d'.Grown P d'') : d.Grown P d'' where
  sound := h'.sound
  keeps := h.keeps.trans h'.keeps
  new path e he := by
    rcases h'.new path e he with hold | hnew
    · exact h.new path e hold
    · exact .inr hnew

/-- An entry that is put where nothing stood, or over a file. -/
theorem Sound.grown_put (sound : d.Sound) {dir : List String} {name : String} {e : DiskEntry}
    (hdir : d.get? dir = some .directory) (hname : IsName name)
    (free : ∀ e', d.get? (dir ++ [name]) = some e' → ∃ bytes, e' = .file bytes)
    (hP : P (dir ++ [name]) e) : d.Grown P (d.put (dir ++ [name]) e) := by
  have hkeep : ∀ path e', d.get? path = some e' → (∀ bytes, e' ≠ .file bytes) →
      (d.put (dir ++ [name]) e).get? path = some e' := by
    intro path e' he' hfile
    rw [get?_put, if_neg ?_]
    · exact he'
    · rintro rfl
      obtain ⟨bytes, rfl⟩ := free e' he'
      exact hfile bytes rfl
  have hdirectory : ∀ path, d.get? path = some .directory →
      (d.put (dir ++ [name]) e).get? path = some .directory :=
    fun path h => hkeep path .directory h (by simp)
  refine ⟨⟨?_, ?_, hdirectory d.cwd sound.here⟩, ⟨rfl, hkeep⟩, ?_⟩
  · intro path e' he' s hs
    rw [get?_put] at he'
    split at he'
    next heq =>
      rw [heq, List.mem_append, List.mem_singleton] at hs
      rcases hs with hs | rfl
      · exact sound.names dir _ hdir s hs
      · exact hname
    next => exact sound.names path e' he' s hs
  · intro dir' name' e' he'
    rw [get?_put] at he'
    split at he'
    next heq =>
      rw [(List.append_inj' heq rfl).1]
      exact hdirectory dir hdir
    next => exact hdirectory dir' (sound.above dir' name' e' he')
  · intro path e' he'
    rw [get?_put] at he'
    split at he'
    next heq => exact .inr (heq ▸ Option.some.inj he' ▸ hP)
    next => exact .inl he'

/-- What a path leads to where it can be written. -/
def Writable (d : Disk) (follow : Bool) (path : String) (there : List String) : Prop :=
  d.resolve follow path = .ok (.vacant there) ∨
    ∃ bytes, d.resolve follow path = .ok (.present there (.file bytes))

theorem Sound.grown_put_of_writable (sound : d.Sound) {follow : Bool} {path : String}
    {there : List String} {e : DiskEntry} (h : d.Writable follow path there) (hP : P there e) :
    d.Grown P (d.put there e) := by
  rcases h with h | ⟨bytes, h⟩
  · obtain ⟨dir, name, rfl, hname, hdir, hnone⟩ := sound.right_resolve h
    refine sound.grown_put hdir hname (fun e' he' => ?_) hP
    rw [hnone] at he'
    exact nomatch he'
  · have hfile : d.get? there = some (.file bytes) := sound.right_resolve h
    rcases List.eq_nil_or_concat' there with rfl | ⟨dir, name, rfl⟩
    · exact nomatch hfile
    · refine sound.grown_put (sound.above dir name _ hfile)
        (sound.names _ _ hfile name (by simp)) (fun e' he' => ?_) hP
      rw [hfile] at he'
      exact ⟨bytes, (Option.some.inj he').symm⟩

/-! ## §2. Operations -/

theorem Sound.grown_makeDirectory (sound : d.Sound) {path : String}
    (hP : ∀ there, d.Writable false path there → P there .directory)
    (h : d.makeDirectory path = .ok d') : d.Grown P d' := by
  unfold makeDirectory at h
  split at h
  next => exact nomatch h
  next there hvacant =>
    rw [← Except.ok.inj h]
    exact sound.grown_put_of_writable (.inl hvacant) (hP there (.inl hvacant))
  next => exact nomatch h

theorem Sound.grown_makeLink (sound : d.Sound) {path target : String}
    (hP : ∀ there, d.Writable false path there → P there (.link target))
    (h : d.makeLink path target = .ok d') : d.Grown P d' := by
  unfold makeLink at h
  split at h
  next => exact nomatch h
  next there hvacant =>
    rw [← Except.ok.inj h]
    exact sound.grown_put_of_writable (.inl hvacant) (hP there (.inl hvacant))
  next => exact nomatch h

theorem write_eq_ok_iff {path : String} {bytes : ByteArray} : d.write path bytes = .ok d' ↔
    ∃ there, d.Writable true path there ∧ d' = d.put there (.file bytes) := by
  unfold write
  constructor
  · intro h
    split at h
    next there old hfile => exact ⟨there, .inr ⟨old, hfile⟩, (Except.ok.inj h).symm⟩
    next => exact nomatch h
    next there hvacant => exact ⟨there, .inl hvacant, (Except.ok.inj h).symm⟩
    next => exact nomatch h
  · rintro ⟨there, h | ⟨old, h⟩, rfl⟩
    · rw [h]
    · rw [h]

theorem Sound.grown_write (sound : d.Sound) {path : String} {bytes : ByteArray}
    (hP : ∀ there, d.Writable true path there → P there (.file bytes))
    (h : d.write path bytes = .ok d') : d.Grown P d' := by
  obtain ⟨there, hwritable, rfl⟩ := write_eq_ok_iff.mp h
  exact sound.grown_put_of_writable hwritable (hP there hwritable)

/-- A copied file is written twice: first without its bytes. -/
theorem copy_eq_ok_iff {source target : String} : d.copy source target = .ok d' ↔
    ∃ old d₁ bytes, d.read source = .ok old ∧ d.write target .empty = .ok d₁ ∧
      d₁.read source = .ok bytes ∧ d₁.write target bytes = .ok d' := by
  unfold copy
  constructor
  · intro h
    obtain ⟨old, hold, h⟩ := exists_of_bind_eq_ok h
    obtain ⟨d₁, hempty, h⟩ := exists_of_bind_eq_ok h
    obtain ⟨bytes, hbytes, h⟩ := exists_of_bind_eq_ok h
    exact ⟨old, d₁, bytes, eq_ok_of_mapError hold, hempty, hbytes, h⟩
  · rintro ⟨old, d₁, bytes, hold, hempty, hbytes, h⟩
    rw [hold, hempty]
    show d₁.read source >>= _ = _
    rw [hbytes]
    exact h

theorem Sound.grown_copy (sound : d.Sound) {source target : String}
    (hP : ∀ d₁ there bytes, d.Grown P d₁ → d₁.Writable true target there → P there (.file bytes))
    (h : d.copy source target = .ok d') : d.Grown P d' := by
  obtain ⟨_, d₁, bytes, _, hempty, _, hfull⟩ := copy_eq_ok_iff.mp h
  have hgrown : d.Grown P d₁ :=
    sound.grown_write (fun there => hP d there _ sound.grown_refl) hempty
  exact hgrown.trans (hgrown.sound.grown_write (fun there => hP d₁ there _ hgrown) hfull)

theorem eq_of_unlessDirectory {path : String} {e : DiskError}
    (h : d.unlessDirectory path e = .ok d') : d = d' := by
  unfold unlessDirectory at h
  split at h
  next => exact Except.ok.inj h
  next => exact nomatch h

/-- Directories are made along the parents of a path; `T` is what a path and its parents satisfy. -/
theorem Sound.grown_makeDirectoriesUpTo (sound : d.Sound) {T : String → Prop}
    (parents : ∀ path parent, T path → Path.parent? path = some parent → T parent)
    (hP : ∀ d₁ path there, d.Grown P d₁ → T path → d₁.Writable false path there →
      P there .directory) {depth : Nat} {path : String} (hpath : T path)
    (h : makeDirectoriesUpTo depth d path = .ok d') : d.Grown P d' := by
  have one : ∀ {d₁ d₂ path}, d.Grown P d₁ → T path → d₁.makeDirectory path = .ok d₂ →
      d.Grown P d₂ := by
    intro d₁ d₂ path hgrown hpath h
    exact hgrown.trans
      (hgrown.sound.grown_makeDirectory (fun there => hP d₁ path there hgrown hpath) h)
  induction depth generalizing path d' with
  | zero => exact nomatch h
  | succ depth ih =>
    rw [makeDirectoriesUpTo] at h
    split at h
    next => exact Except.ok.inj h ▸ sound.grown_refl
    next =>
      split at h
      next d₁ hmade => exact one sound.grown_refl hpath (Except.ok.inj h ▸ hmade)
      next =>
        split at h
        next => exact nomatch h
        next parent hparent =>
          obtain ⟨d₁, hd₁, h⟩ := exists_of_bind_eq_ok h
          have hgrown : d.Grown P d₁ := ih (parents path parent hpath hparent) hd₁
          split at h
          next d₂ hmade => exact one hgrown hpath (Except.ok.inj h ▸ hmade)
          next => exact eq_of_unlessDirectory h ▸ hgrown
      next => exact eq_of_unlessDirectory h ▸ sound.grown_refl

/-- **A disk that is built from a manifest is sound.** -/
theorem Sound.sound_add (sound : d.Sound) {bytes : ByteArray} {e : ManifestEntry}
    (h : d.add bytes e = .ok d') : d'.Sound := by
  have directories : ∀ {path d₁}, d.makeDirectories path = .ok d₁ → d₁.Sound := by
    intro path d₁ h
    exact (sound.grown_makeDirectoriesUpTo (P := fun _ _ => True) (T := fun _ => True)
      (fun _ _ _ _ => trivial) (fun _ _ _ _ _ _ => trivial) trivial h).sound
  have parents : ∀ {path d₁}, d.makeParents path = .ok d₁ → d₁.Sound := by
    intro path d₁ h
    unfold makeParents at h
    split at h
    next => exact directories h
    next => exact Except.ok.inj h ▸ sound
  cases e with
  | directory path => exact directories h
  | file path =>
    obtain ⟨d₁, hd₁, h⟩ := exists_of_bind_eq_ok h
    exact ((parents hd₁).grown_write (P := fun _ _ => True) (fun _ _ => trivial) h).sound
  | link path target =>
    obtain ⟨d₁, hd₁, h⟩ := exists_of_bind_eq_ok h
    exact ((parents hd₁).grown_makeLink (P := fun _ _ => True) (fun _ _ => trivial) h).sound

/-! ## §3. Making directories below a directory -/

/-- A directory is not made again. -/
theorem Sound.makeDirectoriesUpTo_of_directory (sound : d.Sound) {path : String}
    {dir : List String} (h : d.find? path = some (dir, .directory)) (depth : Nat) :
    makeDirectoriesUpTo (depth + 1) d path = .ok d := by
  have hne := ne_empty_of_find? h
  have hagain : d.unlessDirectory path .alreadyExists = .ok d := by
    unfold unlessDirectory isDirectory
    rw [h]
    rfl
  have hthere : ∃ there e, d.resolve false path = .ok (.present there e) := by
    rw [find?_eq_some_iff, resolve_of_ne hne, ← List.append_nil (Path.segments path)] at h
    rw [resolve_of_ne hne]
    exact sound.present_of_append (get?_start path sound.here)
      (fun _ hs => Path.notMem_of_mem_segments hs) h false
  obtain ⟨there, e, hthere⟩ := hthere
  have hmake : d.makeDirectory path = .error .alreadyExists := by
    unfold makeDirectory
    rw [hthere]
  rw [makeDirectoriesUpTo, if_neg hne, hmake]
  exact hagain

/-- The directories on the way to names below a directory are there, and nothing else is new. -/
structure MadeBelow (d : Disk) (dir names : List String) (d' : Disk) : Prop where
  made : ∀ q, q <+: names → d'.get? (dir ++ q) = some .directory
  others : ∀ path, (∀ q, q <+: names → path ≠ dir ++ q) → d'.get? path = d.get? path

theorem Sound.madeBelow_self (sound : d.Sound) {dir names : List String}
    (h : d.get? (dir ++ names) = some .directory) : d.MadeBelow dir names d := by
  refine ⟨?_, fun _ _ => rfl⟩
  rintro q ⟨rest, rfl⟩
  by_cases hrest : rest = []
  · rwa [hrest, List.append_nil] at h
  · rw [← List.append_assoc] at h
    exact sound.directory_above h hrest

theorem MadeBelow.concat {dir names : List String} (h : d.MadeBelow dir names d') (name : String) :
    d.MadeBelow dir (names ++ [name]) (d'.put (dir ++ names ++ [name]) .directory) := by
  constructor
  · intro q hq
    rw [get?_put]
    rcases List.prefix_concat_iff.mp hq with rfl | hq
    · rw [if_pos (List.append_assoc ..).symm]
    · split
      next => rfl
      next => exact h.made q hq
  · intro path hpath
    rw [get?_put, if_neg ?_]
    · exact h.others path fun q hq => hpath q (hq.trans (List.prefix_append ..))
    · rw [List.append_assoc]
      exact hpath _ (List.prefix_refl _)

theorem MadeBelow.get?_below {dir names rest : List String} (h : d.MadeBelow dir names d')
    (hrest : rest ≠ []) : d'.get? (dir ++ names ++ rest) = d.get? (dir ++ names ++ rest) := by
  apply h.others
  rintro q ⟨back, rfl⟩ heq
  have hlength := congrArg List.length heq
  have hpositive := List.length_pos_iff.mpr hrest
  simp only [List.length_append] at hlength
  omega

theorem makeDirectory_of_vacant {path : String} {there : List String}
    (h : d.resolve false path = .ok (.vacant there)) :
    d.makeDirectory path = .ok (d.put there .directory) := by
  unfold makeDirectory
  rw [h]

theorem makeDirectory_of_error {path : String} {e : DiskError}
    (h : d.resolve false path = .error e) : d.makeDirectory path = .error e := by
  unfold makeDirectory
  rw [h]

/-- Where the parent of a path is missing, it is made first. -/
theorem makeDirectoriesUpTo_of_missing {depth : Nat} {path parent : String} (hpath : path ≠ "")
    (hmissing : d.makeDirectory path = .error .notFound) (hparent : Path.parent? path = some parent)
    (hmade : makeDirectoriesUpTo depth d parent = .ok d')
    (h : d'.makeDirectory path = .ok d'') : makeDirectoriesUpTo (depth + 1) d path = .ok d'' := by
  rw [makeDirectoriesUpTo, if_neg hpath, hmissing]
  dsimp only
  rw [hparent]
  dsimp only
  rw [hmade, Except.bind, h]

theorem exists_parent?_below {path name : String} {front names : List String} (hnames : names ≠ [])
    (legal : ∀ s ∈ names, IsName s) (hname : IsName name)
    (h : Path.segments path = front ++ (names ++ [name])) :
    ∃ parent, Path.parent? path = some parent ∧ Path.segments parent = front ++ names := by
  rcases List.eq_nil_or_concat names with rfl | ⟨names, last, rfl⟩
  · exact absurd rfl hnames
  · have hlast : IsName last := legal last (by simp)
    rw [List.concat_eq_append] at h ⊢
    rw [← List.append_assoc, ← List.append_assoc] at h
    rw [← List.append_assoc]
    exact Path.exists_parent?_of_names h hlast.1 hlast.2.1 hname.1 hname.2.1

/-- **Directories that are missing below a directory are made**, and nothing else changes. -/
theorem Sound.makeDirectories_below (sound : d.Sound) {root : String} {dir names : List String}
    (hroot : d.find? root = some (dir, .directory)) (hnames : names ≠ [])
    (legal : ∀ s ∈ names, IsName s)
    (clear : ∀ q, q <+: names → d.get? (dir ++ q) = none ∨ d.get? (dir ++ q) = some .directory)
    {path : String} (hpath : Path.segments path = Path.front root ++ names) {depth : Nat}
    (hdepth : names.length ≤ depth) :
    ∃ d', makeDirectoriesUpTo depth d path = .ok d' ∧ d.MadeBelow dir names d' := by
  have hdir : d.get? dir = some .directory :=
    sound.right_resolve (find?_eq_some_iff.mp hroot)
  -- from the last name backwards, as parents are made
  induction names using List.reverseRecOn generalizing path depth with
  | nil => exact absurd rfl hnames
  | append_singleton names name ih =>
    have hne := Path.ne_empty_of_segments (Path.front_ne_nil root) hnames hpath
    have hname : IsName name := legal name (by simp)
    have spells := sound.spells hroot hpath hnames
    rw [List.length_append, List.length_singleton] at hdepth
    obtain ⟨depth, rfl⟩ : ∃ n, depth = n + 1 := ⟨depth - 1, by omega⟩
    rcases clear names (List.prefix_append ..) with hmissing | hthere
    · have hlegal : ∀ s ∈ names, IsName s := fun s hs => legal s (List.mem_append_left _ hs)
      have hclear : ∀ q, q <+: names →
          d.get? (dir ++ q) = none ∨ d.get? (dir ++ q) = some .directory :=
        fun q hq => clear q (hq.trans (List.prefix_append ..))
      have hsome : names ≠ [] := by
        rintro rfl
        rw [List.append_nil, hdir] at hmissing
        exact nomatch hmissing
      obtain ⟨parent, hparent, hsegments⟩ := exists_parent?_below hsome hlegal hname hpath
      obtain ⟨d₁, hd₁, made⟩ :=
        ih hsome hlegal hclear hsegments (Nat.le_of_succ_le_succ hdepth)
      have hgrown : d.Grown (fun _ _ => True) d₁ :=
        sound.grown_makeDirectoriesUpTo (T := fun _ => True) (fun _ _ _ _ => trivial)
          (fun _ _ _ _ _ _ => trivial) trivial hd₁
      have hnone : d₁.get? (dir ++ names ++ [name]) = none := by
        rw [made.get?_below (by simp)]
        exact sound.none_below hmissing [name]
      have hvacant := (hgrown.sound.spells (hgrown.keeps.find?_eq sound hroot) hpath
        hnames).resolve_of_none hgrown.sound (hgrown.keeps.directory hdir)
          (made.made _ (List.prefix_refl _)) hname hnone false
      have hnotFound := spells.resolve_of_missing hdir hlegal hname hclear hmissing false
      exact ⟨_, makeDirectoriesUpTo_of_missing hne (makeDirectory_of_error hnotFound) hparent hd₁
        (makeDirectory_of_vacant hvacant), made.concat name⟩
    · rcases clear _ (List.prefix_refl _) with hnone | hsome
      · rw [← List.append_assoc] at hnone
        rw [makeDirectoriesUpTo, if_neg hne, makeDirectory_of_vacant
          (spells.resolve_of_none sound hdir hthere hname hnone false)]
        exact ⟨_, rfl, (sound.madeBelow_self hthere).concat name⟩
      · have hfind := find?_eq_some_iff.mpr (spells.resolve_of_some sound hsome (by simp) true)
        exact ⟨d, sound.makeDirectoriesUpTo_of_directory hfind depth, sound.madeBelow_self hsome⟩

/-! ## §4. Writing below a directory -/

section

variable {root destination source target name : String} {dir dest r names : List String}

theorem Sound.read_below (sound : d.Sound) (hroot : d.find? root = some (dir, .directory))
    (hsource : Path.segments source = Path.front root ++ r) (hr : r ≠ []) {bytes : ByteArray}
    (h : d.get? (dir ++ r) = some (.file bytes)) : d.read source = .ok bytes := by
  unfold read
  rw [(sound.spells hroot hsource hr).resolve_of_some sound h (by simp) true]

theorem Sound.writable_below (sound : d.Sound)
    (hdest : d.find? destination = some (dest, .directory))
    (htarget : Path.segments target = Path.front destination ++ (names ++ [name]))
    (hdir : d.get? (dest ++ names) = some .directory) (hname : IsName name)
    (free : ∀ e, d.get? (dest ++ names ++ [name]) = some e → ∃ bytes, e = .file bytes) :
    d.Writable true target (dest ++ names ++ [name]) := by
  have spells := sound.spells hdest htarget (by simp)
  cases hentry : d.get? (dest ++ names ++ [name]) with
  | none =>
    have hthere : d.get? dest = some .directory :=
      sound.right_resolve (find?_eq_some_iff.mp hdest)
    exact .inl (spells.resolve_of_none sound hthere hdir hname hentry true)
  | some e =>
    obtain ⟨bytes, rfl⟩ := free e hentry
    have hresolve := spells.resolve_of_some sound (by rwa [← List.append_assoc]) (by simp) true
    rw [← List.append_assoc] at hresolve
    exact .inr ⟨bytes, hresolve⟩

/-- A file and the directories around it have been added below a directory. -/
structure Added (d : Disk) (dir names : List String) (name : String) (bytes : ByteArray)
    (d' : Disk) : Prop where
  outside : ∀ path, ¬ dir <+: path → d'.get? path = d.get? path
  file : d'.get? (dir ++ (names ++ [name])) = some (.file bytes)
  directory : ∀ q, q <+: names → d'.get? (dir ++ q) = some .directory
  others : ∀ q, q ≠ names ++ [name] → ¬ q <+: names → d'.get? (dir ++ q) = d.get? (dir ++ q)

theorem MadeBelow.added {dir names : List String} {name : String} {bytes : ByteArray}
    (made : d.MadeBelow dir names d') (hwritten : ∀ path, d''.get? path =
      if path = dir ++ names ++ [name] then some (.file bytes) else d'.get? path) :
    d.Added dir names name bytes d'' := by
  have hkept : ∀ path, path ≠ dir ++ (names ++ [name]) → d''.get? path = d'.get? path := by
    intro path hpath
    rw [hwritten, if_neg (by rwa [List.append_assoc])]
  refine ⟨?_, ?_, ?_, ?_⟩
  · intro path hpath
    rw [hkept, made.others]
    · rintro q _ rfl
      exact hpath (List.prefix_append ..)
    · rintro rfl
      exact hpath (List.prefix_append ..)
  · rw [hwritten, if_pos (List.append_assoc ..).symm]
  · intro q hq
    rw [hkept, made.made q hq]
    intro heq
    have hlength := hq.length_le
    rw [List.append_cancel_left heq, List.length_append, List.length_singleton] at hlength
    omega
  · intro q hfile hq
    rw [hkept, made.others]
    · intro q' hq' heq
      exact hq (List.append_cancel_left heq ▸ hq')
    · exact fun heq => hfile (List.append_cancel_left heq)

/-- **A file is copied below a directory**, and nothing else changes. -/
theorem Sound.copy_below (sound : d.Sound) (hroot : d.find? root = some (dir, .directory))
    (hsource : Path.segments source = Path.front root ++ r) (hr : r ≠ []) {bytes : ByteArray}
    (hfile : d.get? (dir ++ r) = some (.file bytes))
    (hdest : d.find? destination = some (dest, .directory))
    (htarget : Path.segments target = Path.front destination ++ (names ++ [name]))
    (hdir : d.get? (dest ++ names) = some .directory) (hname : IsName name)
    (free : ∀ e, d.get? (dest ++ names ++ [name]) = some e → ∃ bytes, e = .file bytes)
    (hother : dir ++ r ≠ dest ++ names ++ [name]) :
    ∃ d', d.copy source target = .ok d' ∧ ∀ path, d'.get? path =
      if path = dest ++ names ++ [name] then some (.file bytes) else d.get? path := by
  have hwritable := sound.writable_below hdest htarget hdir hname free
  -- the target is emptied first, which changes neither the ways nor the source
  have hgrown : d.Grown (fun _ _ => True) (d.put (dest ++ names ++ [name]) (.file .empty)) :=
    sound.grown_put_of_writable hwritable trivial
  have hwritable' := hgrown.sound.writable_below (hgrown.keeps.find?_eq sound hdest) htarget
    (hgrown.keeps.directory hdir) hname (by
      intro e he
      rw [get?_put, if_pos rfl] at he
      exact ⟨.empty, (Option.some.inj he).symm⟩)
  have hfile' : (d.put (dest ++ names ++ [name]) (.file .empty)).get? (dir ++ r) =
      some (.file bytes) := by rw [get?_put, if_neg hother, hfile]
  have hread' := hgrown.sound.read_below (hgrown.keeps.find?_eq sound hroot) hsource hr hfile'
  refine ⟨_, copy_eq_ok_iff.mpr ⟨bytes, _, bytes, sound.read_below hroot hsource hr hfile,
    write_eq_ok_iff.mpr ⟨_, hwritable, rfl⟩, hread',
    write_eq_ok_iff.mpr ⟨_, hwritable', rfl⟩⟩, fun path => ?_⟩
  rw [get?_put, get?_put]
  split <;> rfl

end

end CodeAtlas.Disk
