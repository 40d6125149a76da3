/-
  CodeAtlas.Proofs.Disk.Walk — a walk that passes over nothing.

  A walk without options comes to every file below a directory exactly once: hidden entries are
  entries like others, links are not followed, and no rules are read.  The bound on the depth of a
  walk cuts nothing off, because the directories above an entry are entries too.

  Main results:
    * `Sound.length_le_size` — no way down a sound disk is longer than the disk has entries.
    * `Sound.mem_walk_iff`, `nodup_walk` — every file below a directory, once.
-/
import Mathlib.Data.List.Nodup
import Mathlib.Data.List.Perm.Subperm
import CodeAtlas.Disk.Walk
import CodeAtlas.Proofs.Disk.Sound

namespace CodeAtlas.Disk

variable {d : Disk}

/-! ## §1. Entries of a directory -/

theorem childName?_eq_some_iff {dir path : List String} {name : String} :
    childName? dir path = some name ↔ path = dir ++ [name] := by
  fun_induction childName? dir path with
  | case1 n => simp [eq_comm]
  | case2 a dir path ih => rw [ih]; simp
  | case3 a dir b path hne => simp [Ne.symm hne]
  | case4 dir path hnil hcons =>
    constructor
    · intro h
      exact nomatch h
    · rintro rfl
      cases dir with
      | nil => exact (hnil name rfl rfl).elim
      | cons a dir => exact (hcons a dir a (dir ++ [name]) rfl rfl).elim

theorem get?_of_ne_nil {path : List String} (hpath : path ≠ []) :
    d.get? path = d.entries.get? path := by
  unfold get?
  rw [if_neg (by simpa using hpath)]

theorem mem_children_iff {dir : List String} {name : String} {e : DiskEntry} :
    (name, e) ∈ d.children dir ↔ d.get? (dir ++ [name]) = some e := by
  unfold children
  rw [get?_of_ne_nil (by simp), ← Table.mem_toList_iff, List.mem_filterMap]
  constructor
  · rintro ⟨⟨path, e'⟩, hmem, h⟩
    obtain ⟨n, hn, heq⟩ := Option.map_eq_some_iff.mp h
    obtain ⟨rfl, rfl⟩ := Prod.mk.inj heq
    rwa [← childName?_eq_some_iff.mp hn]
  · intro hmem
    exact ⟨_, hmem, Option.map_eq_some_iff.mpr ⟨name, childName?_eq_some_iff.mpr rfl, rfl⟩⟩

theorem distinct_children (d : Disk) (dir : List String) :
    (d.children dir).Pairwise fun a b => a.1 ≠ b.1 := by
  unfold children
  rw [List.pairwise_filterMap]
  refine (List.pairwise_map.mp d.entries.nodup_keys).imp ?_
  rintro ⟨path, e⟩ ⟨path', e'⟩ hne a ha b hb heq
  obtain ⟨n, hn, rfl⟩ := Option.map_eq_some_iff.mp ha
  obtain ⟨n', hn', rfl⟩ := Option.map_eq_some_iff.mp hb
  apply hne
  rw [childName?_eq_some_iff.mp hn, childName?_eq_some_iff.mp hn']
  exact congrArg (dir ++ [·]) heq

/-- Nothing stands below a directory without entries. -/
theorem Sound.none_of_children (sound : d.Sound) {dir rest : List String}
    (h : d.children dir = []) (hrest : rest ≠ []) : d.get? (dir ++ rest) = none := by
  obtain ⟨name, rest, rfl⟩ := List.exists_cons_of_ne_nil hrest
  rw [List.append_cons]
  apply sound.none_below
  rw [Option.eq_none_iff_forall_ne_some]
  intro e he
  have hmem := mem_children_iff.mpr he
  rw [h] at hmem
  exact nomatch hmem

/-- **No way down is longer than the disk has entries**: every step of it is one. -/
theorem Sound.length_le_size (sound : d.Sound) {path : List String} {e : DiskEntry}
    (h : d.get? path = some e) : path.length ≤ d.entries.size := by
  have hsteps : ((List.range path.length).map fun n => path.take (n + 1)).Nodup := by
    apply List.Nodup.map_on ?_ List.nodup_range
    intro n hn m hm heq
    rw [List.mem_range] at hn hm
    have hlength := congrArg List.length heq
    rw [List.length_take_of_le hn, List.length_take_of_le hm] at hlength
    omega
  have hentries : ((List.range path.length).map fun n => path.take (n + 1)) ⊆ d.entries.keys := by
    intro step hstep
    obtain ⟨n, hn, rfl⟩ := List.mem_map.mp hstep
    rw [List.mem_range] at hn
    have hsome : path.take (n + 1) ≠ [] := by
      rw [ne_eq, List.take_eq_nil_iff, not_or]
      exact ⟨by omega, List.length_pos_iff.mp (by omega)⟩
    rw [Table.mem_keys_iff, ← get?_of_ne_nil hsome]
    by_cases hlast : path.drop (n + 1) = []
    · rw [← List.take_append_drop (n + 1) path, hlast, List.append_nil] at h
      exact ⟨e, h⟩
    · rw [← List.take_append_drop (n + 1) path] at h
      exact ⟨.directory, sound.directory_above h hlast⟩
  have hle := (List.subperm_of_subset hsteps hentries).length_le
  rwa [List.length_map, List.length_range, Table.length_keys] at hle

/-! ## §2. Walks -/

/-- What a walk without options lists for an entry of a directory. -/
def listed (d : Disk) (depth : Nat) (p : WalkPosition) (name : String) :
    DiskEntry → List (List String)
  | .file _ => [p.path ++ [name]]
  | .directory => d.walkFrom {} depth (d.enter {} p name (p.dir ++ [name]))
  | .link _ => []

theorem verdict?_of_default (path : String) (isDirectory : Bool) :
    ({} : IgnoreLevels).verdict? path isDirectory = none := rfl

theorem leavesOut_of_default {p : WalkPosition} (hlevels : p.levels = {}) (name : String)
    (isDirectory : Bool) : leavesOut {} p name isDirectory = false := by
  unfold leavesOut
  rw [hlevels, verdict?_of_default]
  rfl

theorem walkFrom_succ {p : WalkPosition} (hlevels : p.levels = {}) (depth : Nat) :
    d.walkFrom {} (depth + 1) p =
      (d.children p.dir).flatMap fun c => d.listed depth p c.1 c.2 := by
  rw [walkFrom]
  congr 1
  funext c
  obtain ⟨name, e⟩ := c
  cases e with
  | file bytes =>
    show (if leavesOut {} p name false = true then [] else _) = _
    rw [leavesOut_of_default hlevels]
    rfl
  | directory =>
    show (if leavesOut {} p name true = true then [] else _) = _
    rw [leavesOut_of_default hlevels]
    rfl
  | link target => rfl

/-- **A walk without options comes to the files**, down to its depth. -/
theorem Sound.mem_walkFrom_iff (sound : d.Sound) {depth : Nat} {p : WalkPosition}
    (hlevels : p.levels = {}) (hdir : d.get? p.dir = some .directory) {path : List String} :
    path ∈ d.walkFrom {} depth p ↔ ∃ rest bytes, path = p.path ++ rest ∧ rest.length ≤ depth ∧
      d.get? (p.dir ++ rest) = some (.file bytes) := by
  induction depth generalizing p path with
  | zero =>
    rw [walkFrom]
    constructor
    · intro h
      exact nomatch h
    · rintro ⟨rest, bytes, _, hlength, hfile⟩
      rw [List.length_eq_zero_iff.mp (Nat.le_zero.mp hlength), List.append_nil, hdir] at hfile
      exact nomatch hfile
  | succ depth ih =>
    rw [walkFrom_succ hlevels, List.mem_flatMap]
    constructor
    · rintro ⟨⟨name, e⟩, hchild, hmem⟩
      have hentry := mem_children_iff.mp hchild
      cases e with
      | link target => exact nomatch hmem
      | file bytes =>
        exact ⟨[name], bytes, List.mem_singleton.mp hmem, by simp, hentry⟩
      | directory =>
        obtain ⟨rest, bytes, rfl, hlength, hfile⟩ :=
          (ih (p := d.enter {} p name (p.dir ++ [name])) hlevels hentry).mp hmem
        refine ⟨name :: rest, bytes, (List.append_cons ..).symm, by simpa using hlength, ?_⟩
        rw [List.append_cons]
        exact hfile
    · rintro ⟨rest, bytes, rfl, hlength, hfile⟩
      cases rest with
      | nil =>
        rw [List.append_nil, hdir] at hfile
        exact nomatch hfile
      | cons name rest =>
        rw [List.append_cons] at hfile
        by_cases hlast : rest = []
        · subst hlast
          rw [List.append_nil] at hfile
          exact ⟨(name, .file bytes), mem_children_iff.mpr hfile, List.mem_singleton.mpr rfl⟩
        · have hentry := sound.directory_above hfile hlast
          refine ⟨(name, .directory), mem_children_iff.mpr hentry,
            (ih (p := d.enter {} p name (p.dir ++ [name])) hlevels hentry).mpr ?_⟩
          exact ⟨rest, bytes, List.append_cons .., by simpa using hlength, hfile⟩

/-- What is listed for an entry has its name behind the path of the directory. -/
theorem Sound.append_name_of_mem_listed (sound : d.Sound) {depth : Nat} {p : WalkPosition}
    (hlevels : p.levels = {}) {name : String} {e : DiskEntry}
    (hentry : d.get? (p.dir ++ [name]) = some e) {path : List String}
    (h : path ∈ d.listed depth p name e) : p.path ++ [name] <+: path := by
  cases e with
  | link target => exact nomatch h
  | file bytes => exact List.mem_singleton.mp h ▸ List.prefix_refl _
  | directory =>
    obtain ⟨rest, bytes, rfl, _⟩ :=
      (sound.mem_walkFrom_iff (p := d.enter {} p name (p.dir ++ [name])) hlevels hentry).mp h
    exact List.prefix_append ..

theorem Sound.nodup_walkFrom (sound : d.Sound) {depth : Nat} {p : WalkPosition}
    (hlevels : p.levels = {}) : (d.walkFrom {} depth p).Nodup := by
  induction depth generalizing p with
  | zero => exact List.nodup_nil
  | succ depth ih =>
    rw [walkFrom_succ hlevels, List.nodup_flatMap]
    constructor
    · rintro ⟨name, e⟩ _
      cases e with
      | link target => exact List.nodup_nil
      | file bytes => exact List.nodup_singleton _
      | directory => exact ih hlevels
    · -- different names stand at the same place of the paths
      refine (d.distinct_children p.dir).imp_of_mem ?_
      rintro ⟨name, e⟩ ⟨name', e'⟩ hchild hchild' hne path h h'
      have hname := sound.append_name_of_mem_listed hlevels (mem_children_iff.mp hchild) h
      have hname' := sound.append_name_of_mem_listed hlevels (mem_children_iff.mp hchild') h'
      have heq := (List.prefix_of_prefix_length_le hname hname' (by simp)).eq_of_length (by simp)
      exact hne (by simpa using heq)

theorem Sound.nodup_walk (sound : d.Sound) (root : String) (dir : List String) :
    (d.walk {} root dir).Nodup :=
  sound.nodup_walkFrom rfl

/-- **A walk without options comes to every file below a directory.** -/
theorem Sound.mem_walk_iff (sound : d.Sound) {root : String} {dir path : List String}
    (hdir : d.get? dir = some .directory) :
    path ∈ d.walk {} root dir ↔ ∃ bytes, d.get? (dir ++ path) = some (.file bytes) := by
  refine (sound.mem_walkFrom_iff (p := d.startAt {} root dir) rfl hdir).trans ?_
  constructor
  · rintro ⟨rest, bytes, rfl, _, hfile⟩
    exact ⟨bytes, hfile⟩
  · rintro ⟨bytes, hfile⟩
    have hlength := sound.length_le_size hfile
    rw [List.length_append] at hlength
    have hdepth : d.entries.size ≤ d.walkDepth := by
      unfold walkDepth
      exact Nat.le_trans (Nat.le_succ _) (Nat.le_mul_of_pos_right _ (Nat.succ_pos _))
    exact ⟨path, bytes, rfl, by omega, hfile⟩

end CodeAtlas.Disk
