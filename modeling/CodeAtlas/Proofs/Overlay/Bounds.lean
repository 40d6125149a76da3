/-
  CodeAtlas.Proofs.Overlay.Bounds — when merging logs fails, and how large its numbers get.

  Merging a coverage log can go wrong in two places: the sum of a line may leave the range of
  counters, and a declaration may end above its first line.  Rendering a percentage multiplies by a
  hundred and may leave the range as well.  None of this is guarded where it happens.  In a model
  whose declarations have ranges only the sums are left, and a product is in range because no
  declaration has more sampled lines than there are records.

  Main results:
    * `ofRecords_outcome` — records are sorted out, or the counts of some line are too many.
    * `Tallied.size_le` — a file has no more sampled lines than there are records.
    * `merge_outcome` — merging ends well unless the counts of some line are too many.
    * `rendered_of_coverageAtMost` — few records make small products.
-/
import CodeAtlas.Proofs.Overlay.Merge

namespace CodeAtlas

/-! ## §1. Lines whose counts are too many -/

namespace CoverageSheet

variable {m : Model} {l : Locator} {rs : List CoverageRecord} {file : String} {n : Nat}

theorem hasLine_iff : hasLine m file n = true ↔
    ∃ summary, m.files.get? file = some summary ∧ 1 ≤ n ∧ n ≤ summary.lineCount := by
  unfold hasLine
  cases m.files.get? file with
  | none =>
    -- a file that is not there has no lines
    simp only [Option.map_none, Option.getD_none]
    constructor
    · intro h
      simp at h
    · rintro ⟨summary, hnone, _⟩
      exact absurd hnone (by simp)
  | some summary =>
    simp only [Option.map_some, Option.getD_some, Bool.and_eq_true, bne_iff_ne, decide_eq_true_eq]
    constructor
    · rintro ⟨hpos, hle⟩
      exact ⟨summary, rfl, by omega, hle⟩
    · rintro ⟨summary', heq, hpos, hle⟩
      rw [← Option.some.inj heq] at hle
      exact ⟨by omega, hle⟩

theorem placeOf_eq_line_iff {r : CoverageRecord} : placeOf m l r = .line file n ↔
    hasLine m file n = true ∧ l.locate r.path = some file ∧ r.line = n := by
  unfold placeOf
  cases hlocate : l.locate r.path with
  | none => simp
  | some f =>
    by_cases hline : hasLine m f r.line = true
    · simp only [hline, if_true, Place.line.injEq, Option.some.injEq]
      constructor
      · rintro ⟨rfl, rfl⟩
        exact ⟨hline, rfl, rfl⟩
      · rintro ⟨_, hf, hn⟩
        exact ⟨hf, hn⟩
    · simp only [hline]
      refine iff_of_false (by simp) ?_
      rintro ⟨hhas, hf, hn⟩
      rw [← Option.some.inj hf, ← hn] at hhas
      exact hline hhas

/-- The counts of a line of a parsed file come to more than a counter holds. -/
def Overflows (m : Model) (l : Locator) (rs : List CoverageRecord) : Prop :=
  ∃ file summary n, m.files.get? file = some summary ∧ (1 ≤ n ∧ n ≤ summary.lineCount) ∧
    counterLimit ≤ sumOf (rs.filter fun r => l.locate r.path = some file ∧ r.line = n)

/-- The records of a line are those that are located there. -/
theorem recordsAt_line (h : hasLine m file n = true) : recordsAt m l rs (.line file n) =
    rs.filter fun r => l.locate r.path = some file ∧ r.line = n := by
  unfold recordsAt
  apply List.filter_congr
  intro r _
  rw [decide_eq_decide, placeOf_eq_line_iff, and_iff_right h]

theorem overflows_iff :
    Overflows m l rs ↔ ∃ file n, counterLimit ≤ sumOf (recordsAt m l rs (.line file n)) := by
  constructor
  · rintro ⟨file, summary, n, hfile, hn, hsum⟩
    refine ⟨file, n, ?_⟩
    rw [recordsAt_line (hasLine_iff.mpr ⟨summary, hfile, hn⟩)]
    exact hsum
  · rintro ⟨file, n, hsum⟩
    -- a line with records is a line of its file
    have hhas : hasLine m file n = true := by
      have hne : recordsAt m l rs (.line file n) ≠ [] := by
        intro hnil
        rw [hnil, sumOf_nil] at hsum
        exact absurd hsum (by decide)
      obtain ⟨r, hr⟩ := List.exists_mem_of_ne_nil _ hne
      have hplace := of_decide_eq_true (List.mem_filter.mp hr).2
      exact (placeOf_eq_line_iff.mp hplace).1
    obtain ⟨summary, hfile, hn⟩ := hasLine_iff.mp hhas
    rw [recordsAt_line hhas] at hsum
    exact ⟨file, summary, n, hfile, hn, hsum⟩

/-- **Records are sorted out unless the counts of some line are too many.** -/
theorem ofRecords_outcome (m : Model) (l : Locator) (rs : List CoverageRecord) :
    (∃ s, ofRecords m l rs = .ok s ∧ Tallied m l rs s ∧ ¬ Overflows m l rs) ∨
      ofRecords m l rs = .error .sumOverflow ∧ Overflows m l rs := by
  rcases ofRecords_cases m l rs with ⟨s, hok, htallied⟩ | ⟨herror, hlarge⟩
  · refine .inl ⟨s, hok, htallied, ?_⟩
    intro hover
    obtain ⟨file, n, hsum⟩ := overflows_iff.mp hover
    have hbound := htallied.bounded file n
    omega
  · exact .inr ⟨herror, overflows_iff.mpr hlarge⟩

/-! ## §2. The number of sampled lines -/

/-- **A file has no more sampled lines than there are records.** -/
theorem Tallied.size_le {s : CoverageSheet} (h : Tallied m l rs s) {t : Table Nat Nat}
    (hfile : s.lines.get? file = some t) : t.size ≤ rs.length := by
  have hlines : t.keys ⊆ rs.map (·.line) := by
    intro k hk
    obtain ⟨sum, hsum⟩ := Table.mem_keys_iff.mp hk
    have hcount := h.count file k
    unfold count? at hcount
    rw [hfile, Option.bind_some, hsum] at hcount
    -- a line that is listed has a record
    have hne : recordsAt m l rs (.line file k) ≠ [] := by
      intro hnil
      rw [hnil] at hcount
      exact absurd hcount (by simp)
    obtain ⟨r, hr⟩ := List.exists_mem_of_ne_nil _ hne
    obtain ⟨hmem, hplace⟩ := List.mem_filter.mp hr
    have hline := (placeOf_eq_line_iff.mp (of_decide_eq_true hplace)).2.2
    exact List.mem_map.mpr ⟨r, hmem, hline⟩
  have hle := t.nodup_keys.length_le_of_subset hlines
  rw [Table.length_keys, List.length_map] at hle
  exact hle

end CoverageSheet

/-- Some lines are sampled, no more than `most`, and some of them are executed. -/
structure LineCoverage.AtMost (most : Nat) (c : LineCoverage) : Prop where
  executed : c.executed ≤ c.sampled
  sampled : 0 < c.sampled
  most : c.sampled ≤ most

/-- A declaration has no more sampled lines than its file. -/
theorem CoverageSheet.atMost_coverageOf {t : Table Nat Nat} {d : Declaration}
    (h : (coverageOf t d).sampled ≠ 0) : (coverageOf t d).AtMost t.size where
  executed := List.length_filter_le _ _
  sampled := Nat.pos_of_ne_zero h
  most := by
    show ((t.toList.filter fun e => d.spans e.1).map (·.2)).length ≤ t.toList.length
    rw [List.length_map]
    exact List.length_filter_le _ _

/-- **A percentage of few lines is in range.** -/
theorem LineCoverage.percent_of_atMost {most : Nat} {c : LineCoverage} (h : c.AtMost most)
    (small : 100 * most < counterLimit) : ∃ p, p ≤ 100 ∧ c.percent = .ok (some p) := by
  obtain ⟨hexecuted, hsampled, hmost⟩ := h
  have hproduct : c.executed * 100 < counterLimit := by omega
  refine ⟨c.executed * 100 / c.sampled, ?_, ?_⟩
  · apply Nat.div_le_of_le_mul
    exact Nat.mul_le_mul_right 100 hexecuted
  · unfold percent mulCount
    rw [if_neg (by omega), if_pos hproduct]
    rfl

/-! ## §3. Overlays -/

namespace Overlay

/-- Every line coverage of an overlay is bounded. -/
def CoverageAtMost (most : Nat) (o : Overlay) : Prop :=
  ∀ name c, Metric.lineCoverage c ∈ o.metrics name → c.AtMost most

variable {most : Nat} {o : Overlay}

theorem metrics_attach (o : Overlay) (name k : String) (metric : Metric) :
    (o.attach name metric).metrics k =
      if k = name then o.metrics name ++ [metric] else o.metrics k := by
  unfold metrics attach
  rw [Table.get?_upsert]
  split <;> rfl

theorem coverageAtMost_empty (most : Nat) : CoverageAtMost most {} := by
  intro name c hc
  exact absurd hc List.not_mem_nil

theorem CoverageAtMost.attach (h : o.CoverageAtMost most) (name : String) {metric : Metric}
    (hmetric : ∀ c, metric = .lineCoverage c → c.AtMost most) :
    (o.attach name metric).CoverageAtMost most := by
  intro k c hc
  rw [metrics_attach] at hc
  split at hc
  next =>
    rcases List.mem_append.mp hc with hold | hnew
    · exact h name c hold
    · exact hmetric c (List.mem_singleton.mp hnew).symm
  next => exact h k c hc

/-- What a name is rendered as: nothing known, or a percentage. -/
inductive Rendered (o : Overlay) (name : String) : Prop
  | noData (absent : o.coverage? name = none) (text : o.statusText name = .ok "no data")
  | covered {c : LineCoverage} {p : Nat} (present : o.coverage? name = some c)
      (percent : c.percent = .ok (some p)) (small : p ≤ 100)
      (text : o.statusText name = .ok (toString p ++ "% covered"))

/-- **Every name is rendered**, if no coverage is too large. -/
theorem rendered_of_coverageAtMost (h : o.CoverageAtMost most) (small : 100 * most < counterLimit)
    (name : String) : o.Rendered name := by
  cases hc : o.coverage? name with
  | none =>
    refine .noData hc ?_
    unfold statusText
    rw [hc]
  | some c =>
    -- what is shown is one of the metrics that were attached
    have hmem : Metric.lineCoverage c ∈ o.metrics name := by
      obtain ⟨metric, hmetric, hfound⟩ := List.exists_of_findSome?_eq_some hc
      cases metric with
      | lineCoverage c' => rw [← Option.some.inj hfound]; exact hmetric
      | testOutcomes => exact absurd hfound (by simp)
    obtain ⟨p, hp, hpercent⟩ := LineCoverage.percent_of_atMost (h name c hmem) small
    refine .covered hc hpercent hp ?_
    unfold statusText LineCoverage.statusText
    rw [hc]
    show c.percent.map _ = _
    rw [hpercent]
    rfl

end Overlay

/-! ## §4. Merging -/

/-- No declaration of a model ends above its first line. -/
def Model.Ranged (m : Model) : Prop :=
  ∀ ⦃n : String⦄ ⦃d : Declaration⦄, m.get? n = some d → d.lineStart ≤ d.lineEnd

namespace CoverageSheet

variable {m : Model} {most : Nat}

theorem attachTo_succeeds {t : Table Nat Nat} (size : t.size ≤ most) {d : Declaration}
    (range : d.lineStart ≤ d.lineEnd) {o : Overlay} (h : o.CoverageAtMost most) :
    ∃ o', attachTo t o d = .ok o' ∧ o'.CoverageAtMost most := by
  unfold attachTo
  rw [if_neg (by omega)]
  refine ⟨_, rfl, ?_⟩
  split
  next => exact h
  next hsampled =>
    apply h.attach
    intro c hc
    have hbound := atMost_coverageOf hsampled
    rw [Metric.lineCoverage.inj hc] at hbound
    exact ⟨hbound.executed, hbound.sampled, Nat.le_trans hbound.most size⟩

/-- **Coverage is attached to every declaration that has a range.** -/
theorem attach_succeeds (ranged : m.Ranged) {s : CoverageSheet}
    (size : ∀ file t, s.lines.get? file = some t → t.size ≤ most) {o : Overlay}
    (h : o.CoverageAtMost most) : ∃ o', s.attach m o = .ok o' ∧ o'.CoverageAtMost most := by
  -- a loop over the files, and in it one over the declarations of a file
  apply foldlM_succeeds h
  rintro ⟨file, t⟩ hfile o ho
  apply foldlM_succeeds ho
  intro d hd o ho
  obtain ⟨n, hn⟩ := Table.mem_values_iff.mp (List.mem_filter.mp hd).1
  exact attachTo_succeeds (size file t (Table.mem_toList_iff.mp hfile)) (ranged hn) ho

end CoverageSheet

/-- Test outcomes leave line coverage alone. -/
theorem TestSheet.coverageAtMost_attach (s : TestSheet) {most : Nat} {o : Overlay}
    (h : o.CoverageAtMost most) : (s.attach o).CoverageAtMost most := by
  have run : (s.byName.toList.foldl (fun o e => o.attach e.1 (.testOutcomes e.2.normalize))
      o).CoverageAtMost most := by
    apply foldl_invariant (P := fun _ (o : Overlay) => o.CoverageAtMost most) h
    intro done e rest o _ ho
    apply ho.attach
    intro c hc
    exact absurd hc (by simp)
  exact run

namespace Overlay

variable {m : Model}

theorem addCoverage_outcome (ranged : m.Ranged) (l : Locator) (rs : List CoverageRecord) :
    (∃ o ws, addCoverage m l {} rs = .ok (o, ws) ∧ o.CoverageAtMost rs.length ∧
        ¬ CoverageSheet.Overflows m l rs) ∨
      addCoverage m l {} rs = .error .sumOverflow ∧ CoverageSheet.Overflows m l rs := by
  unfold addCoverage
  rcases CoverageSheet.ofRecords_outcome m l rs with ⟨s, hok, htallied, hfit⟩ | ⟨herror, hover⟩
  · have hstart : CoverageAtMost rs.length { coverageAvailable := true } :=
      coverageAtMost_empty rs.length
    obtain ⟨o, hattach, hbound⟩ :=
      CoverageSheet.attach_succeeds ranged (fun _ _ h => htallied.size_le h) hstart
    refine .inl ⟨o, s.warnings, ?_, hbound, hfit⟩
    rw [hok]
    show (s.attach m _ >>= _) = _
    rw [hattach]
    rfl
  · refine .inr ⟨?_, hover⟩
    rw [herror]
    rfl

/-- **Merging ends well unless the counts of some line are too many.** -/
theorem merge_outcome (ranged : m.Ranged) (l : Locator) (coverage : Option (List CoverageRecord))
    (tests : Option (List TestRecord)) :
    (∃ o ws, merge m l coverage tests = .ok (o, ws) ∧
        o.CoverageAtMost (coverage.getD []).length ∧
        ¬ CoverageSheet.Overflows m l (coverage.getD [])) ∨
      merge m l coverage tests = .error .sumOverflow ∧
        CoverageSheet.Overflows m l (coverage.getD []) := by
  cases coverage with
  | none =>
    have hnone : ¬ CoverageSheet.Overflows m l [] := by
      rintro ⟨file, summary, n, _, _, hsum⟩
      rw [List.filter_nil, CoverageSheet.sumOf_nil] at hsum
      exact absurd hsum (by decide)
    have hempty := coverageAtMost_empty 0
    cases tests with
    | none => exact .inl ⟨_, _, rfl, hempty, hnone⟩
    | some ts => exact .inl ⟨_, _, rfl, TestSheet.coverageAtMost_attach _ hempty, hnone⟩
  | some rs =>
    unfold merge
    rcases addCoverage_outcome ranged l rs with ⟨o, ws, hok, hbound, hfit⟩ | ⟨herror, hover⟩
    · -- the tests are merged last and cannot fail
      simp only [hok]
      cases tests with
      | none => exact .inl ⟨_, _, rfl, hbound, hfit⟩
      | some ts => exact .inl ⟨_, _, rfl, TestSheet.coverageAtMost_attach _ hbound, hfit⟩
    · simp only [herror]
      exact .inr ⟨rfl, hover⟩

end Overlay
end CodeAtlas
