/-
  CodeAtlas.Proofs.Overlay.Accounting — every coverage record is reported or counted.

  A record is turned down for one of two reasons, and the two are reported under different keys: a
  path that names no parsed file under its spelling in the log, a line that does not exist under the
  file it was located in.  A file may be spelled in several ways and have good and bad lines, so
  neither the warnings nor the sums follow the records one by one.  They follow their places: each
  record has one place, and a sheet lists each place of its records once.

  Main results:
    * `Tallied.mem_places_iff`, `nodup_places` — the places of a sheet are those of its records.
    * `Tallied.flatMap_places_perm` — the records at all of them are ALL records.
    * `accounted_merge` — the warnings of a merged log, and where its records went.
-/
import Mathlib.Algebra.Ring.Nat
import CodeAtlas.Proofs.Overlay.Location
import CodeAtlas.Proofs.Overlay.Sampling

namespace CodeAtlas

/-- What is located is a parsed file. -/
theorem Locator.mem_files_of_locate {l : Locator} {raw file : String}
    (h : l.locate raw = some file) : file ∈ l.files := by
  unfold locate at h
  dsimp only at h
  split at h
  next rest _ =>
    split at h
    next hparsed =>
      rw [← Option.some.inj h]
      exact List.contains_iff_mem.mp hparsed
    next => exact absurd h (by simp)
  next =>
    split at h
    next => exact absurd h (by simp)
    next =>
      unfold locateRelative at h
      split at h
      next hexact =>
        rw [← Option.some.inj h]
        exact List.contains_iff_mem.mp hexact
      next =>
        split at h
        next candidate hone =>
          -- the only candidate was taken from the files
          have hmem := List.mem_singleton_self candidate
          rw [← hone] at hmem
          rw [← Option.some.inj h]
          exact (List.mem_filter.mp hmem).1
        next => exact absurd h (by simp)

/-- A record is of a line that the file it is located in does not have. -/
structure CoverageRecord.Misses (m : Model) (l : Locator) (file : String) (r : CoverageRecord) :
    Prop where
  located : l.locate r.path = some file
  outside : ∀ summary, m.files.get? file = some summary → r.line = 0 ∨ summary.lineCount < r.line

namespace CoverageSheet

variable {m : Model} {l : Locator} {rs : List CoverageRecord} {s : CoverageSheet}

/-! ## §1. The places of records -/

theorem placeOf_eq_unknown_iff {r : CoverageRecord} {path : String} :
    placeOf m l r = .unknown path ↔ r.path = path ∧ l.locate r.path = none := by
  unfold placeOf
  cases l.locate r.path with
  | none => simp
  | some file => by_cases h : hasLine m file r.line = true <;> simp [h]

theorem placeOf_eq_beyond_iff {r : CoverageRecord} {file : String} :
    placeOf m l r = .beyond file ↔ r.Misses m l file := by
  -- a file has no such line iff the line is 0 or lies behind its last one
  have houtside : hasLine m file r.line = false ↔
      ∀ summary, m.files.get? file = some summary → r.line = 0 ∨ summary.lineCount < r.line := by
    rw [← Bool.not_eq_true, hasLine_iff, not_exists]
    refine forall_congr' fun summary => ?_
    rw [not_and]
    refine forall_congr' fun _ => ?_
    omega
  unfold placeOf
  cases hlocate : l.locate r.path with
  | none =>
    refine iff_of_false (by simp) ?_
    intro hmisses
    rw [hmisses.located] at hlocate
    exact absurd hlocate (by simp)
  | some f =>
    constructor
    · intro h
      by_cases hline : hasLine m f r.line = true
      · simp [hline] at h
      · simp only [hline] at h
        have hf : f = file := Place.beyond.inj h
        subst hf
        exact ⟨hlocate, houtside.mp (by simpa using hline)⟩
    · intro h
      have hf : f = file := Option.some.inj (hlocate.symm.trans h.located)
      subst hf
      simp [houtside.mpr h.outside]

instance (r : CoverageRecord) (file : String) : Decidable (r.Misses m l file) :=
  decidable_of_iff _ placeOf_eq_beyond_iff

theorem recordsAt_beyond (file : String) :
    recordsAt m l rs (.beyond file) = rs.filter (·.Misses m l file) := by
  apply List.filter_congr
  intro r _
  exact decide_eq_decide.mpr placeOf_eq_beyond_iff

theorem recordsAt_samples (file : String) (n : Nat) :
    recordsAt m l rs (.line file n) = rs.filter (·.Samples m l file n) := by
  apply List.filter_congr
  intro r _
  exact decide_eq_decide.mpr placeOf_eq_line_iff_samples

/-- A place has a value if one of the records is there. -/
theorem exists_groupValue_iff {β : Type} {f : List CoverageRecord → β} {p : Place} :
    (∃ b, groupValue f (recordsAt m l rs p) = some b) ↔ ∃ r ∈ rs, placeOf m l r = p := by
  have hrecords : recordsAt m l rs p ≠ [] ↔ ∃ r ∈ rs, placeOf m l r = p := by
    unfold recordsAt
    rw [ne_eq, List.filter_eq_nil_iff]
    simp
  simp only [groupValue_eq_some_iff, exists_and_left, hrecords]
  exact and_iff_left ⟨_, rfl⟩

/-! ## §2. The places of a sheet -/

/-- The lines with a sum. -/
def summedLines (s : CoverageSheet) : List (String × Nat) :=
  s.lines.toList.flatMap fun e => e.2.keys.map fun n => (e.1, n)

/-- The places that a sheet holds something for. -/
def places (s : CoverageSheet) : List Place :=
  s.unknown.keys.map .unknown ++ s.beyond.keys.map .beyond ++
    s.summedLines.map fun e => .line e.1 e.2

theorem mem_summedLines_iff {file : String} {n : Nat} :
    (file, n) ∈ s.summedLines ↔ ∃ sum, s.count? file n = some sum := by
  unfold summedLines count?
  rw [List.mem_flatMap]
  constructor
  · rintro ⟨⟨f, t⟩, hfile, hline⟩
    obtain ⟨k, hk, heq⟩ := List.mem_map.mp hline
    obtain ⟨rfl, rfl⟩ := Prod.mk.inj heq
    obtain ⟨sum, hsum⟩ := Table.mem_keys_iff.mp hk
    refine ⟨sum, ?_⟩
    rw [Table.mem_toList_iff.mp hfile]
    exact hsum
  · rintro ⟨sum, hsum⟩
    obtain ⟨t, hfile, hline⟩ := Option.bind_eq_some_iff.mp hsum
    exact ⟨(file, t), Table.mem_toList_iff.mpr hfile,
      List.mem_map.mpr ⟨n, Table.mem_keys_iff.mpr ⟨sum, hline⟩, rfl⟩⟩

theorem nodup_summedLines (s : CoverageSheet) : s.summedLines.Nodup := by
  unfold summedLines
  rw [List.nodup_flatMap]
  constructor
  · intro e _
    exact e.2.nodup_keys.map (Prod.mk_right_injective e.1)
  · -- lines of different files are different
    refine s.lines.ordered.imp ?_
    intro a b hlt
    rw [Function.onFun, List.disjoint_left]
    intro x ha hb
    obtain ⟨_, _, rfl⟩ := List.mem_map.mp ha
    obtain ⟨_, _, heq⟩ := List.mem_map.mp hb
    rw [(Prod.mk.inj heq).1] at hlt
    exact String.lt_irrefl _ hlt

/-- **A sheet lists no place twice.** -/
theorem nodup_places (s : CoverageSheet) : s.places.Nodup := by
  have hunknown : (s.unknown.keys.map Place.unknown).Nodup :=
    s.unknown.nodup_keys.map fun _ _ h => Place.unknown.inj h
  have hbeyond : (s.beyond.keys.map Place.beyond).Nodup :=
    s.beyond.nodup_keys.map fun _ _ h => Place.beyond.inj h
  have hline : (s.summedLines.map fun e => Place.line e.1 e.2).Nodup :=
    s.nodup_summedLines.map fun a b h => Prod.ext (Place.line.inj h).1 (Place.line.inj h).2
  unfold places
  -- places of different kinds are different
  refine (hunknown.append hbeyond ?_).append hline ?_
  · intro p hp hp'
    obtain ⟨_, _, rfl⟩ := List.mem_map.mp hp'
    simp at hp
  · intro p hp hp'
    obtain ⟨_, _, rfl⟩ := List.mem_map.mp hp'
    simp at hp

namespace Tallied

variable (h : Tallied m l rs s)
include h

theorem mem_unknown_iff {path : String} :
    path ∈ s.unknown.keys ↔ ∃ r ∈ rs, placeOf m l r = .unknown path := by
  rw [Table.mem_keys_iff]
  simp only [h.unknown]
  exact exists_groupValue_iff

theorem mem_beyond_iff {file : String} :
    file ∈ s.beyond.keys ↔ ∃ r ∈ rs, placeOf m l r = .beyond file := by
  rw [Table.mem_keys_iff]
  simp only [h.beyond]
  exact exists_groupValue_iff

theorem mem_summedLines_iff {file : String} {n : Nat} :
    (file, n) ∈ s.summedLines ↔ ∃ r ∈ rs, placeOf m l r = .line file n := by
  rw [CoverageSheet.mem_summedLines_iff]
  simp only [h.count]
  exact exists_groupValue_iff

/-- **The places of a sheet are those of its records.** -/
theorem mem_places_iff {p : Place} : p ∈ s.places ↔ ∃ r ∈ rs, placeOf m l r = p := by
  unfold places
  cases p with
  | unknown path => simp [h.mem_unknown_iff]
  | beyond file => simp [h.mem_beyond_iff]
  | line file n =>
    rw [← h.mem_summedLines_iff]
    simp

/-- **The records at the places of a sheet are all records**, each of them once. -/
theorem flatMap_places_perm : (s.places.flatMap (recordsAt m l rs)).Perm rs := by
  have hsingle : ∀ r p q, decide (placeOf m l r = p) = true → decide (placeOf m l r = q) = true →
      p = q := by
    intro r p q hp hq
    exact (of_decide_eq_true hp).symm.trans (of_decide_eq_true hq)
  have hgroups := flatMap_filter_perm (nodup_places s) hsingle rs
  have hall : rs.filter (fun r => s.places.any fun p => decide (placeOf m l r = p)) = rs := by
    rw [List.filter_eq_self]
    intro r hr
    rw [List.any_eq_true]
    exact ⟨placeOf m l r, h.mem_places_iff.mpr ⟨r, hr, rfl⟩, decide_eq_true rfl⟩
  rw [hall] at hgroups
  exact hgroups

/-- The records without a parsed file are those of the unknown paths. -/
theorem flatMap_unknown_perm :
    (s.unknown.keys.flatMap fun path => recordsAt m l rs (.unknown path)).Perm
      (rs.filter fun r => l.locate r.path = none) := by
  have hsingle : ∀ r p q, decide (placeOf m l r = .unknown p) = true →
      decide (placeOf m l r = .unknown q) = true → p = q := by
    intro r p q hp hq
    exact Place.unknown.inj ((of_decide_eq_true hp).symm.trans (of_decide_eq_true hq))
  have hgroups := flatMap_filter_perm s.unknown.nodup_keys hsingle rs
  have hall : rs.filter (fun r => s.unknown.keys.any fun p => decide (placeOf m l r = .unknown p)) =
      rs.filter fun r => l.locate r.path = none := by
    apply List.filter_congr
    intro r hr
    rw [Bool.eq_iff_iff, List.any_eq_true, decide_eq_true_eq]
    constructor
    · rintro ⟨path, _, hplace⟩
      exact (placeOf_eq_unknown_iff.mp (of_decide_eq_true hplace)).2
    · intro hnone
      have hplace : placeOf m l r = .unknown r.path := placeOf_eq_unknown_iff.mpr ⟨rfl, hnone⟩
      exact ⟨r.path, h.mem_unknown_iff.mpr ⟨r, hr, hplace⟩, decide_eq_true hplace⟩
  rw [hall] at hgroups
  exact hgroups

/-- **No record is lost and none is taken twice.** -/
theorem parts_perm : ((rs.filter fun r => l.locate r.path = none) ++
    (s.beyond.keys.flatMap fun file => rs.filter (·.Misses m l file)) ++
    s.summedLines.flatMap fun e => rs.filter (·.Samples m l e.1 e.2)).Perm rs := by
  have hplaces := h.flatMap_places_perm
  unfold places at hplaces
  simp only [List.flatMap_append, List.flatMap_map, recordsAt_beyond, recordsAt_samples] at hplaces
  exact ((h.flatMap_unknown_perm.symm.append_right _).append_right _).trans hplaces

end Tallied

/-! ## §3. Warnings -/

/-- The warning about a path that names no parsed file. -/
def outsideSources (path : String) : Warning :=
  .ofMetadata (some path) "coverage records for a file outside the parsed sources ignored"

/-- The warning about a number of records of lines that a file does not have. -/
def beyondEnd (file : String) (n : Nat) : Warning :=
  .ofMetadata (some file) (toString n ++ " coverage records beyond the end of the file ignored")

/-- **The warnings of a sheet** tell the unknown paths, then the files with missed lines and the
numbers of records that missed. -/
theorem Tallied.warnings_eq (h : Tallied m l rs s) : s.warnings =
    s.unknown.keys.map outsideSources ++
      s.beyond.keys.map fun file => beyondEnd file (rs.countP (·.Misses m l file)) := by
  have hbeyond : s.beyond.toList.map (fun e => beyondEnd e.1 e.2) =
      s.beyond.keys.map fun file => beyondEnd file (rs.countP (·.Misses m l file)) := by
    unfold Table.keys
    rw [List.map_map]
    apply List.map_congr_left
    rintro ⟨file, n⟩ he
    have hn := (h.beyond file).symm.trans (Table.mem_toList_iff.mp he)
    rw [groupValue_eq_some_iff, recordsAt_beyond, ← List.countP_eq_length_filter] at hn
    show beyondEnd file n = beyondEnd file _
    rw [hn.2]
  rw [← hbeyond]
  rfl

/-- Where the records of a log went: into the sums of a sheet, or into a report about paths that
cannot be located and files with missed lines. -/
structure Accounted (m : Model) (l : Locator) (rs : List CoverageRecord) (s : CoverageSheet)
    (unknown beyond : List String) : Prop where
  /-- What is located is a parsed file. -/
  parsed : ∀ path file, l.locate path = some file → ∃ summary, m.files.get? file = some summary
  /-- The unknown paths are those that cannot be located, each once, in increasing order. -/
  increasing_unknown : unknown.Pairwise (· < ·)
  mem_unknown : ∀ path, path ∈ unknown ↔ ∃ r ∈ rs, r.path = path ∧ l.locate r.path = none
  /-- The files are those with missed lines, each once, in increasing order. -/
  increasing_beyond : beyond.Pairwise (· < ·)
  mem_beyond : ∀ file, file ∈ beyond ↔ ∃ r ∈ rs, r.Misses m l file
  /-- A line has a sum if some record samples it, and that is the sum of all these records. -/
  sums : ∀ file n, s.count? file n = groupValue sumOf (rs.filter (·.Samples m l file n))
  /-- Records without a file, records that miss and records in the sums make up all records. -/
  total : rs.countP (fun r => l.locate r.path = none) +
    (beyond.map fun file => rs.countP (·.Misses m l file)).sum +
    (s.summedLines.map fun e => rs.countP (·.Samples m l e.1 e.2)).sum = rs.length

/-- **A tally accounts for its records.** -/
theorem Tallied.accounted (h : Tallied m l rs s)
    (parsed : ∀ path file, l.locate path = some file →
      ∃ summary, m.files.get? file = some summary) :
    s.Accounted m l rs s.unknown.keys s.beyond.keys where
  parsed := parsed
  increasing_unknown := s.unknown.increasing_keys
  mem_unknown path := by simp only [h.mem_unknown_iff, placeOf_eq_unknown_iff]
  increasing_beyond := s.beyond.increasing_keys
  mem_beyond file := by simp only [h.mem_beyond_iff, placeOf_eq_beyond_iff]
  sums file n := by rw [h.count, recordsAt_samples]
  total := by
    have hlength := h.parts_perm.length_eq
    simp only [List.length_append, List.length_flatMap, ← List.countP_eq_length_filter] at hlength
    exact hlength

end CoverageSheet

/-! ## §4. Merged logs -/

namespace Overlay

variable {m : Model} {l : Locator}

/-- The warnings of a coverage log come first and do not depend on the tests. -/
theorem warnings_merge {rs : List CoverageRecord} {tests : Option (List TestRecord)} {o : Overlay}
    {ws : List Warning} (h : merge m l (some rs) tests = .ok (o, ws)) :
    ∃ s alone tested, CoverageSheet.ofRecords m l rs = .ok s ∧
      merge m l none tests = .ok (alone, tested) ∧ ws = s.warnings ++ tested := by
  unfold merge at h
  obtain ⟨⟨covered, cws⟩, hcoverage, h⟩ := exists_of_bind_eq_ok h
  obtain ⟨s, hsheet, hattach⟩ := exists_of_bind_eq_ok hcoverage
  obtain ⟨_, _, hpure⟩ := exists_of_bind_eq_ok hattach
  have hcws : s.warnings = cws := (Prod.mk.inj (Except.ok.inj hpure)).2
  have hws := (Prod.mk.inj (Except.ok.inj h)).2
  rw [← hcws] at hws
  cases tests with
  | none => exact ⟨s, _, [], hsheet, rfl, hws.symm⟩
  | some ts => exact ⟨s, _, (addTests m l {} ts).2, hsheet, rfl, hws.symm⟩

/-- **Every coverage record is accounted for.**  Whenever a log is merged, its warnings come first:
one for each path that cannot be located, then one for each file with missed lines, with the number
of records that missed.  These records and those in the sums are all records. -/
theorem accounted_merge {otherRoots : List String} {rs : List CoverageRecord}
    {tests : Option (List TestRecord)} {o : Overlay} {ws : List Warning}
    (h : merge m (Locator.ofModel m otherRoots) (some rs) tests = .ok (o, ws)) :
    ∃ s unknown beyond alone tested,
      CoverageSheet.ofRecords m (Locator.ofModel m otherRoots) rs = .ok s ∧
      s.Accounted m (Locator.ofModel m otherRoots) rs unknown beyond ∧
      merge m (Locator.ofModel m otherRoots) none tests = .ok (alone, tested) ∧
      ws = unknown.map CoverageSheet.outsideSources ++
        (beyond.map fun file => CoverageSheet.beyondEnd file
          (rs.countP (·.Misses m (Locator.ofModel m otherRoots) file))) ++ tested := by
  have hparsed : ∀ path file, (Locator.ofModel m otherRoots).locate path = some file →
      ∃ summary, m.files.get? file = some summary := by
    intro path file hlocate
    have hmem := Locator.mem_files_of_locate hlocate
    rw [Locator.files_ofModel] at hmem
    exact Table.mem_keys_iff.mp hmem
  generalize Locator.ofModel m otherRoots = l at h hparsed ⊢
  obtain ⟨s, alone, tested, hsheet, htests, hws⟩ := warnings_merge h
  -- the sheet that was merged is the tally of the records
  have htallied : CoverageSheet.Tallied m l rs s := by
    rcases CoverageSheet.ofRecords_cases m l rs with ⟨s', hok, htallied⟩ | ⟨herror, _⟩
    · rw [← Except.ok.inj (hok.symm.trans hsheet)]
      exact htallied
    · rw [herror] at hsheet
      exact absurd hsheet (by simp)
  refine ⟨s, _, _, alone, tested, hsheet, htallied.accounted hparsed, htests, ?_⟩
  rw [hws, htallied.warnings_eq]

/-- A line under two spellings of its file, a line 0 and a line behind the end under two others, and
a file that was not parsed, under two spellings as well. -/
def strayRecords : List CoverageRecord :=
  [⟨"b.php", 5, 1⟩, ⟨"/work/src/a.php", 3, 0⟩, ⟨"a.php", 0, 1⟩, ⟨"./b.php", 5, 1⟩,
    ⟨"src/a.php", 10, 5⟩, ⟨"b.php", 6, 1⟩, ⟨"a.php", 3, 2⟩]

/-- Two warnings tell the spellings of the unknown file, and one tells the two missed lines of the
other, however they are spelled. -/
theorem accounted_merge_stray : ∃ o s unknown beyond alone tested,
    merge counterModel counterLocator (some strayRecords) none = .ok (o,
      [⟨.metadata, some "./b.php", none,
          "coverage records for a file outside the parsed sources ignored"⟩,
        ⟨.metadata, some "b.php", none,
          "coverage records for a file outside the parsed sources ignored"⟩,
        ⟨.metadata, some "a.php", none,
          "2 coverage records beyond the end of the file ignored"⟩]) ∧
    CoverageSheet.ofRecords counterModel counterLocator strayRecords = .ok s ∧
    s.Accounted counterModel counterLocator strayRecords unknown beyond ∧
    merge counterModel counterLocator none none = .ok (alone, tested) := by
  have hwarnings : (merge counterModel counterLocator (some strayRecords) none).toOption.map (·.2) =
      some [⟨.metadata, some "./b.php", none,
          "coverage records for a file outside the parsed sources ignored"⟩,
        ⟨.metadata, some "b.php", none,
          "coverage records for a file outside the parsed sources ignored"⟩,
        ⟨.metadata, some "a.php", none,
          "2 coverage records beyond the end of the file ignored"⟩] := by
    decide +kernel
  cases h : merge counterModel counterLocator (some strayRecords) none with
  | error e => rw [h] at hwarnings; exact nomatch hwarnings
  | ok merged =>
    rw [h] at hwarnings
    obtain ⟨s, unknown, beyond, alone, tested, hsheet, haccounted, hnone, _⟩ := accounted_merge h
    exact ⟨merged.1, s, unknown, beyond, alone, tested,
      by rw [← Option.some.inj hwarnings], hsheet, haccounted, hnone⟩

end Overlay
end CodeAtlas
