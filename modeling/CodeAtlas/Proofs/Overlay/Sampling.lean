/-
  CodeAtlas.Proofs.Overlay.Sampling — line coverage, counted over the records of a log.

  Coverage is computed from the sums of a sheet: a line is sampled if its file has a sum for it, and
  executed if that sum is positive.  Here both are read off the records.  A line is sampled if some
  record is located there, and since counts are never negative it is executed if one of these
  records has a count.  How a record spells its path does not matter, only where it is located.

  Main results:
    * `Tallied.coverageOf_eq` — the coverage of a declaration counts its lines with records.
    * `Tallied.metricsFor_eq` — a declaration without such lines has no coverage.
    * `sampledIn_merge` — both, of a merged log.
-/
import Mathlib.Order.Interval.Finset.Nat
import CodeAtlas.Proofs.Overlay.Containment

namespace CodeAtlas

/-! ## §1. Lines with records -/

/-- The entries of a table that pass a test are as many as their keys. -/
theorem Table.length_filter_toList {α : Type} (t : Table Nat α) {p : Nat × α → Bool}
    {ns : Finset Nat} (h : ∀ n, n ∈ ns ↔ ∃ a, t.get? n = some a ∧ p (n, a) = true) :
    (t.toList.filter p).length = ns.card := by
  have hnodup : ((t.toList.filter p).map (·.1)).Nodup :=
    (List.filter_sublist.map _).nodup t.nodup_keys
  have hkeys : ((t.toList.filter p).map (·.1)).toFinset = ns := by
    ext n
    rw [h, List.mem_toFinset, List.mem_map]
    constructor
    · rintro ⟨⟨k, a⟩, hmem, rfl⟩
      obtain ⟨hentry, hp⟩ := List.mem_filter.mp hmem
      exact ⟨a, Table.mem_toList_iff.mp hentry, hp⟩
    · rintro ⟨a, hget, hp⟩
      exact ⟨(n, a), List.mem_filter.mpr ⟨Table.mem_toList_iff.mpr hget, hp⟩, rfl⟩
  rw [← hkeys, List.toFinset_card_of_nodup hnodup, List.length_map]

/-- A record samples a line of a file: it is located in the file, and the file has such a line. -/
structure CoverageRecord.Samples (m : Model) (l : Locator) (file : String) (n : Nat)
    (r : CoverageRecord) : Prop where
  located : l.locate r.path = some file
  line : r.line = n
  inside : ∃ summary, m.files.get? file = some summary ∧ 1 ≤ n ∧ n ≤ summary.lineCount

namespace CoverageSheet

variable {m : Model} {l : Locator} {rs : List CoverageRecord} {s : CoverageSheet} {file : String}
  {n : Nat}

theorem placeOf_eq_line_iff_samples {r : CoverageRecord} :
    placeOf m l r = .line file n ↔ r.Samples m l file n := by
  rw [placeOf_eq_line_iff, hasLine_iff]
  exact ⟨fun ⟨inside, located, line⟩ => ⟨located, line, inside⟩,
    fun ⟨located, line, inside⟩ => ⟨inside, located, line⟩⟩

instance (r : CoverageRecord) : Decidable (r.Samples m l file n) :=
  decidable_of_iff _ placeOf_eq_line_iff_samples

theorem mem_recordsAt_line {r : CoverageRecord} :
    r ∈ recordsAt m l rs (.line file n) ↔ r ∈ rs ∧ r.Samples m l file n := by
  rw [recordsAt, List.mem_filter, decide_eq_true_eq, placeOf_eq_line_iff_samples]

/-- The lines of a declaration with a record. -/
def sampledLines (m : Model) (l : Locator) (rs : List CoverageRecord) (d : Declaration) :
    Finset Nat :=
  (Finset.Icc d.lineStart d.lineEnd).filter fun n => ∃ r ∈ rs, r.Samples m l d.filePath n

/-- Those of them with a record that counts. -/
def executedLines (m : Model) (l : Locator) (rs : List CoverageRecord) (d : Declaration) :
    Finset Nat :=
  (sampledLines m l rs d).filter fun n => ∃ r ∈ rs, r.Samples m l d.filePath n ∧ 0 < r.count

theorem mem_sampledLines {d : Declaration} : n ∈ sampledLines m l rs d ↔
    d.spans n = true ∧ ∃ r ∈ rs, r.Samples m l d.filePath n := by
  rw [sampledLines, Finset.mem_filter]
  simp [Declaration.spans]

theorem mem_executedLines {d : Declaration} : n ∈ executedLines m l rs d ↔
    d.spans n = true ∧ ∃ r ∈ rs, r.Samples m l d.filePath n ∧ 0 < r.count := by
  rw [executedLines, Finset.mem_filter, mem_sampledLines]
  constructor
  · rintro ⟨⟨hspans, _⟩, hcounts⟩
    exact ⟨hspans, hcounts⟩
  · rintro ⟨hspans, r, hr, hsamples, hcount⟩
    exact ⟨⟨hspans, r, hr, hsamples⟩, r, hr, hsamples, hcount⟩

/-! ## §2. From sums to records -/

/-- Some counts come to something if one of them does. -/
theorem sumOf_pos_iff {rs : List CoverageRecord} : 0 < sumOf rs ↔ ∃ r ∈ rs, 0 < r.count := by
  induction rs with
  | nil => simp [sumOf]
  | cons r rest ih =>
    rw [sumOf, List.exists_mem_cons_iff, ← ih]
    omega

namespace Tallied

variable (h : Tallied m l rs s) {t : Table Nat Nat} (ht : s.lines.get? file = some t)
include h ht

theorem get?_eq (n : Nat) : t.get? n = groupValue sumOf (recordsAt m l rs (.line file n)) := by
  rw [← h.count, count?, ht, Option.bind_some]

/-- A file has a sum for the lines with a record. -/
theorem exists_get?_iff : (∃ sum, t.get? n = some sum) ↔ ∃ r ∈ rs, r.Samples m l file n := by
  rw [h.get?_eq ht]
  simp only [← mem_recordsAt_line]
  unfold groupValue
  split
  next hnil => simp [hnil]
  next hne => exact iff_of_true ⟨_, rfl⟩ (List.exists_mem_of_ne_nil _ hne)

/-- The sum is positive for the lines with a record that counts. -/
theorem exists_get?_pos_iff : (∃ sum, t.get? n = some sum ∧ 0 < sum) ↔
    ∃ r ∈ rs, r.Samples m l file n ∧ 0 < r.count := by
  have hrecords : (∃ r ∈ rs, r.Samples m l file n ∧ 0 < r.count) ↔
      0 < sumOf (recordsAt m l rs (.line file n)) := by
    rw [sumOf_pos_iff]
    simp only [mem_recordsAt_line, and_assoc]
  rw [hrecords, h.get?_eq ht]
  unfold groupValue
  split
  next hnil => simp [hnil, sumOf]
  next => simp

end Tallied

/-- **The coverage of a declaration**: its lines with records, and those with records that count. -/
theorem Tallied.coverageOf_eq (h : Tallied m l rs s) {d : Declaration} {t : Table Nat Nat}
    (ht : s.lines.get? d.filePath = some t) :
    coverageOf t d = ⟨(executedLines m l rs d).card, (sampledLines m l rs d).card⟩ := by
  have hsampled : (coverageOf t d).sampled = (sampledLines m l rs d).card := by
    show ((t.toList.filter fun e => d.spans e.1).map (·.2)).length = _
    rw [List.length_map]
    apply t.length_filter_toList
    intro k
    rw [mem_sampledLines, ← h.exists_get?_iff ht, and_comm]
    exact exists_and_right.symm
  have hexecuted : (coverageOf t d).executed = (executedLines m l rs d).card := by
    show (((t.toList.filter fun e => d.spans e.1).map (·.2)).filter (0 < ·)).length = _
    rw [List.filter_map, List.length_map, List.filter_filter]
    apply t.length_filter_toList
    intro k
    rw [mem_executedLines, ← h.exists_get?_pos_iff ht, and_comm]
    simp only [Function.comp_apply, Bool.and_eq_true, decide_eq_true_eq, ← and_assoc,
      exists_and_right]
  rw [← hexecuted, ← hsampled]

/-- **The coverage that is attached to a declaration**: none if no line of it has a record. -/
theorem Tallied.metricsFor_eq (h : Tallied m l rs s) {name : String} {d : Declaration}
    (hd : m.get? name = some d) : s.metricsFor m name =
      if sampledLines m l rs d = ∅ then []
      else [.lineCoverage ⟨(executedLines m l rs d).card, (sampledLines m l rs d).card⟩] := by
  unfold metricsFor
  rw [hd, Option.bind_some]
  cases ht : s.lines.get? d.filePath with
  | none =>
    -- no line of the file has a record
    have hnone : sampledLines m l rs d = ∅ := by
      apply Finset.eq_empty_of_forall_notMem
      intro k hk
      obtain ⟨r, hr, hsamples⟩ := (mem_sampledLines.mp hk).2
      have hmem := mem_recordsAt_line.mpr ⟨hr, hsamples⟩
      rw [(h.present d.filePath).mp ht k] at hmem
      exact List.not_mem_nil hmem
    rw [if_pos hnone]
    rfl
  | some t =>
    rw [Option.map_some, Option.getD_some, metricsOf, h.coverageOf_eq ht]
    simp only [Finset.card_eq_zero]

end CoverageSheet

/-! ## §3. Merged logs -/

namespace Overlay

/-- The line coverage of a declaration is that of the records of a log. -/
structure SampledIn (m : Model) (l : Locator) (rs : List CoverageRecord) (o : Overlay)
    (d : Declaration) : Prop where
  /-- Nothing is known of a declaration whose lines have no record. -/
  absent : CoverageSheet.sampledLines m l rs d = ∅ →
    (o.metrics d.qualifiedName).filterMap coverageIn? = [] ∧
      o.statusText d.qualifiedName = .ok "no data"
  /-- Otherwise it has one coverage. -/
  present : CoverageSheet.sampledLines m l rs d ≠ ∅ →
    (o.metrics d.qualifiedName).filterMap coverageIn? =
      [⟨(CoverageSheet.executedLines m l rs d).card, (CoverageSheet.sampledLines m l rs d).card⟩]

/-- What the tests of a name tell is no coverage. -/
theorem filterMap_coverageIn?_tests (s : TestSheet) (n : String) :
    (s.metricsFor n).filterMap coverageIn? = [] := by
  unfold TestSheet.metricsFor
  cases s.byName.get? n <;> rfl

theorem statusText_of_filterMap_eq_nil {o : Overlay} {n : String}
    (h : (o.metrics n).filterMap coverageIn? = []) : o.statusText n = .ok "no data" := by
  have hnone : o.coverage? n = none := by
    rw [coverage?_eq_findSome?, ← List.head?_filterMap, h]
    rfl
  unfold statusText
  rw [hnone]

/-- **Line coverage counts lines with records.**  Unless the counts of some line are too many, a log
is merged, and the coverage of every declaration of the model is the number of its lines with a
record and of those with a record that counts, however the paths are spelled. -/
theorem sampledIn_merge {m : Model} (keyed : m.Keyed) (ranged : m.Ranged) (otherRoots : List String)
    {rs : List CoverageRecord} (fit : ¬ CoverageSheet.Overflows m (Locator.ofModel m otherRoots) rs)
    (tests : Option (List TestRecord)) :
    ∃ o ws, merge m (Locator.ofModel m otherRoots) (some rs) tests = .ok (o, ws) ∧
      ∀ name d, m.get? name = some d → o.SampledIn m (Locator.ofModel m otherRoots) rs d := by
  generalize Locator.ofModel m otherRoots = l at fit ⊢
  rcases merge_outcome ranged l (some rs) tests with ⟨o, ws, hmerge, _, _⟩ | ⟨_, hover⟩
  case inr => exact absurd hover fit
  refine ⟨o, ws, hmerge, fun name d hd => ?_⟩
  obtain ⟨s, hsheet, hmetrics⟩ := metrics_merge keyed hmerge
  -- the sheet that was merged is the tally of the records
  have htallied : CoverageSheet.Tallied m l rs s := by
    rcases CoverageSheet.ofRecords_outcome m l rs with ⟨s', hok, htallied, _⟩ | ⟨_, hover⟩
    · rw [← Except.ok.inj (hok.symm.trans hsheet)]
      exact htallied
    · exact absurd hover fit
  have hcoverage : (o.metrics d.qualifiedName).filterMap coverageIn? =
      (s.metricsFor m d.qualifiedName).filterMap coverageIn? := by
    rw [hmetrics, List.filterMap_append, filterMap_coverageIn?_tests, List.append_nil]
  rw [htallied.metricsFor_eq (keyed hd ▸ hd)] at hcoverage
  constructor
  case absent =>
    intro hnone
    rw [if_pos hnone] at hcoverage
    exact ⟨hcoverage, statusText_of_filterMap_eq_nil hcoverage⟩
  case present =>
    intro hsome
    rw [hcoverage, if_neg hsome]
    rfl

/-- A line under two paths, a line that did not run, a line behind the method, and records of a line
that the file does not have and of a file that was not parsed. -/
def spelledRecords : List CoverageRecord :=
  [⟨"/work/src/a.php", 3, 0⟩, ⟨"a.php", 4, 0⟩, ⟨"src/a.php", 3, 2⟩, ⟨"a.php", 7, 1⟩,
    ⟨"a.php", 10, 5⟩, ⟨"b.php", 5, 1⟩]

/-- The model of a class with one method, and the paths by which its file is known. -/
def counterModel : Model := (Model.ofUnits "src" counterUnits).1

def counterLocator : Locator := Locator.ofModel counterModel ["/work/src"]

/-- Two lines of the method have records, and one of them has a record that counts. -/
theorem sampledIn_merge_spelled : counterModel.Keyed ∧ counterModel.Ranged ∧
    ¬ CoverageSheet.Overflows counterModel counterLocator spelledRecords ∧
    (∃ o ws, merge counterModel counterLocator (some spelledRecords) (some counterTests) =
        .ok (o, ws) ∧
      ∀ name d, counterModel.get? name = some d →
        o.SampledIn counterModel counterLocator spelledRecords d) ∧
    (counterModel.get? "Counter.next").map (fun d =>
      (CoverageSheet.sampledLines counterModel counterLocator spelledRecords d,
        CoverageSheet.executedLines counterModel counterLocator spelledRecords d)) =
      some ({3, 4}, {3}) := by
  have keyed : counterModel.Keyed := Model.keyed_ofUnits "src" counterUnits
  have ranged : counterModel.Ranged := by
    have hvalues : ∀ d ∈ counterModel.declarations.values, d.lineStart ≤ d.lineEnd := by
      decide +kernel
    intro name d hd
    exact hvalues d (Table.mem_values_iff.mpr ⟨name, hd⟩)
  have fit : ¬ CoverageSheet.Overflows counterModel counterLocator spelledRecords := by
    have hok : (CoverageSheet.ofRecords counterModel counterLocator
        spelledRecords).toOption.isSome = true := by
      decide +kernel
    rcases CoverageSheet.ofRecords_outcome counterModel counterLocator spelledRecords with
      ⟨_, _, _, fit⟩ | ⟨herror, _⟩
    · exact fit
    · rw [herror] at hok
      exact absurd hok (by decide)
  exact ⟨keyed, ranged, fit, sampledIn_merge keyed ranged ["/work/src"] fit (some counterTests),
    by decide +kernel⟩

end Overlay
end CodeAtlas
