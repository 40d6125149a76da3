/-
  CodeAtlas.Proofs.Overlay.Containment — metrics grow towards the outside.

  Line coverage goes by ranges of lines, and so do tests that are placed by a line; tests that name
  a unit are credited along the way upwards from it.  These are two different rules.  Both of them
  reach the parent of every declaration that they reach: the range of a parent holds the range of
  its child, and the way upwards does not leave the parent out.

  Main results:
    * `metrics_merge` — the metrics of a name, in closed form.
    * `coverageOf_le`, `count_credited_le` — what each rule gives a declaration it gives its parent.
    * `rising_merge` — in a model from assembly no metric shrinks from a declaration to its parent.
-/
import Mathlib.Data.List.Perm.Basic
import CodeAtlas.Proofs.Assembly
import CodeAtlas.Proofs.Overlay.Bounds

namespace CodeAtlas

/-! ## §1. The metrics of a name -/

/-- What is collected from some of the declarations, if all of it comes from one name. -/
theorem Model.flatMap_filter_values {β : Type} {m : Model} (keyed : m.Keyed) (n : String)
    {p : Declaration → Bool} {f : Declaration → List β}
    (other : ∀ d, d.qualifiedName ≠ n → f d = []) :
    (m.declarations.values.filter p).flatMap f =
      ((m.get? n).map fun d => if p d then f d else []).getD [] := by
  have hfilter : ∀ ds : List Declaration,
      (ds.filter p).flatMap f = ds.flatMap fun d => if p d then f d else [] := by
    intro ds
    induction ds with
    | nil => rfl
    | cons d ds ih => by_cases hp : p d = true <;> simp [hp, ih]
  unfold Table.values
  rw [hfilter, List.flatMap_map]
  apply m.declarations.flatMap_toList_of_key n
  rintro ⟨k, d⟩ he hne
  rw [← keyed (Table.mem_toList_iff.mp he)] at hne
  simp [other d hne]

namespace Overlay

variable {α : Type} {n : String}

/-- Metrics that are attached one after the other stand one behind the other. -/
theorem metrics_foldlM {f : Overlay → α → Except Fault Overlay} {g : α → List Metric}
    (round : ∀ o a o', f o a = .ok o' → o'.metrics n = o.metrics n ++ g a) {l : List α}
    {o o' : Overlay} (h : l.foldlM f o = .ok o') : o'.metrics n = o.metrics n ++ l.flatMap g := by
  induction l generalizing o with
  | nil =>
    rw [← Except.ok.inj h]
    simp
  | cons a l ih =>
    rw [List.foldlM_cons] at h
    obtain ⟨o₁, hfirst, hrest⟩ := exists_of_bind_eq_ok h
    rw [ih hrest, round o a o₁ hfirst, List.flatMap_cons, List.append_assoc]

end Overlay

namespace CoverageSheet

variable {m : Model} {o o' : Overlay}

/-- The coverage of a declaration, if any of its lines was sampled. -/
def metricsOf (t : Table Nat Nat) (d : Declaration) : List Metric :=
  if (coverageOf t d).sampled = 0 then [] else [.lineCoverage (coverageOf t d)]

theorem metrics_attachTo {t : Table Nat Nat} {d : Declaration} (h : attachTo t o d = .ok o')
    (n : String) :
    o'.metrics n = o.metrics n ++ if d.qualifiedName = n then metricsOf t d else [] := by
  unfold attachTo at h
  split at h
  next => exact absurd h (by simp)
  next =>
    rw [← Except.ok.inj h]
    unfold metricsOf
    split
    next => simp
    next =>
      rw [Overlay.metrics_attach]
      by_cases hn : d.qualifiedName = n
      · rw [if_pos hn.symm, if_pos hn, hn]
      · rw [if_neg (Ne.symm hn), if_neg hn, List.append_nil]

/-- The metrics that a sheet attaches to a name. -/
def metricsFor (s : CoverageSheet) (m : Model) (n : String) : List Metric :=
  ((m.get? n).bind fun d => (s.lines.get? d.filePath).map fun t => metricsOf t d).getD []

/-- **Coverage comes from the file of the declaration**, and from nowhere else. -/
theorem metrics_attach (keyed : m.Keyed) {s : CoverageSheet} (h : s.attach m o = .ok o')
    (n : String) : o'.metrics n = o.metrics n ++ s.metricsFor m n := by
  have hfile : ∀ o file o', attachFile m o file = .ok o' → o'.metrics n = o.metrics n ++
      ((m.get? n).map fun d => if d.filePath = file.1 then metricsOf file.2 d else []).getD [] := by
    intro o file o' hfile
    have hround := fun o d o' (hd : attachTo file.2 o d = .ok o') => metrics_attachTo hd n
    rw [Overlay.metrics_foldlM hround hfile, Model.flatMap_filter_values keyed n]
    · cases hd : m.get? n with
      | none => rfl
      | some d => simp [keyed hd]
    · intro d hne
      simp [hne]
  rw [Overlay.metrics_foldlM hfile h]
  unfold metricsFor
  cases m.get? n with
  | none => simp
  | some d =>
    -- of all files only that of the declaration counts
    rw [s.lines.flatMap_toList_of_key d.filePath]
    · simp
    · intro e _ hne
      simp [Ne.symm hne]

end CoverageSheet

namespace TestSheet

/-- The metrics that a sheet attaches to a name. -/
def metricsFor (s : TestSheet) (n : String) : List Metric :=
  ((s.byName.get? n).map fun summary => [Metric.testOutcomes summary.normalize]).getD []

theorem metrics_attach (s : TestSheet) (o : Overlay) (n : String) :
    (s.attach o).metrics n = o.metrics n ++ s.metricsFor n := by
  have run : ∀ (l : List (String × TestSummary)) (o : Overlay),
      (l.foldl (fun o e => o.attach e.1 (.testOutcomes e.2.normalize)) o).metrics n =
        o.metrics n ++ l.flatMap fun e =>
          if e.1 = n then [Metric.testOutcomes e.2.normalize] else [] := by
    intro l
    induction l with
    | nil => simp
    | cons e l ih =>
      intro o
      rw [List.foldl_cons, ih, Overlay.metrics_attach, List.flatMap_cons, ← List.append_assoc]
      by_cases hn : e.1 = n
      · rw [if_pos hn.symm, if_pos hn, hn]
      · rw [if_neg (Ne.symm hn), if_neg hn, List.append_nil]
  have hattach : (s.attach o).metrics n = (s.byName.toList.foldl
      (fun o e => o.attach e.1 (.testOutcomes e.2.normalize)) o).metrics n := rfl
  rw [hattach, run, s.byName.flatMap_toList_of_key n]
  · unfold metricsFor
    simp
  · intro e _ hne
    exact if_neg hne

end TestSheet

namespace Overlay

variable {m : Model} {l : Locator} {o : Overlay} {n : String}

theorem metrics_addCoverage (keyed : m.Keyed) {rs : List CoverageRecord} {o' : Overlay}
    {ws : List Warning} (h : addCoverage m l o rs = .ok (o', ws)) :
    ∃ s, CoverageSheet.ofRecords m l rs = .ok s ∧
      ∀ n, o'.metrics n = o.metrics n ++ s.metricsFor m n := by
  obtain ⟨s, hsheet, h⟩ := exists_of_bind_eq_ok h
  obtain ⟨covered, hattach, h⟩ := exists_of_bind_eq_ok h
  have hcovered : covered = o' := (Prod.mk.inj (Except.ok.inj h)).1
  refine ⟨s, hsheet, fun n => ?_⟩
  rw [← hcovered, CoverageSheet.metrics_attach keyed hattach n]
  rfl

theorem metrics_addTests (rs : List TestRecord) (n : String) :
    (addTests m l o rs).1.metrics n = o.metrics n ++
      (TestSheet.ofRecords ⟨m, SymbolTable.ofModel m, l⟩ rs).metricsFor n :=
  TestSheet.metrics_attach _ _ n

/-- **The metrics of a name**: its coverage, then its tests. -/
theorem metrics_merge (keyed : m.Keyed) {coverage : Option (List CoverageRecord)}
    {tests : Option (List TestRecord)} {ws : List Warning}
    (h : merge m l coverage tests = .ok (o, ws)) :
    ∃ s, CoverageSheet.ofRecords m l (coverage.getD []) = .ok s ∧ ∀ n, o.metrics n =
      s.metricsFor m n ++
        (TestSheet.ofRecords ⟨m, SymbolTable.ofModel m, l⟩ (tests.getD [])).metricsFor n := by
  -- what the coverage log leaves behind; without a log it is nothing, as with an empty one
  obtain ⟨s, before, hsheet, hbefore, htests⟩ : ∃ s before,
      CoverageSheet.ofRecords m l (coverage.getD []) = .ok s ∧
        (∀ n, metrics before n = s.metricsFor m n) ∧
          (tests = none ∧ o = before ∨ ∃ rs, tests = some rs ∧ o = (addTests m l before rs).1) := by
    unfold merge at h
    cases coverage with
    | none =>
      refine ⟨{}, {}, rfl, ?_, ?_⟩
      · intro n
        unfold CoverageSheet.metricsFor
        cases m.get? n <;> rfl
      · have ho := (Prod.mk.inj (Except.ok.inj h)).1
        cases tests with
        | none => exact .inl ⟨rfl, ho.symm⟩
        | some rs => exact .inr ⟨rs, rfl, ho.symm⟩
    | some rs =>
      obtain ⟨⟨covered, _⟩, hcoverage, h⟩ := exists_of_bind_eq_ok h
      obtain ⟨s, hsheet, hmetrics⟩ := metrics_addCoverage keyed hcoverage
      refine ⟨s, covered, hsheet, hmetrics, ?_⟩
      have ho := (Prod.mk.inj (Except.ok.inj h)).1
      cases tests with
      | none => exact .inl ⟨rfl, ho.symm⟩
      | some rs => exact .inr ⟨rs, rfl, ho.symm⟩
  refine ⟨s, hsheet, fun n => ?_⟩
  rcases htests with ⟨rfl, rfl⟩ | ⟨rs, rfl, rfl⟩
  · rw [hbefore]
    exact (List.append_nil _).symm
  · rw [metrics_addTests, hbefore]
    rfl

/-- The coverage that a metric tells. -/
def coverageIn? : Metric → Option LineCoverage
  | .lineCoverage c => some c
  | .testOutcomes _ => none

/-- The tests that a metric tells. -/
def testsIn? : Metric → Option TestSummary
  | .testOutcomes s => some s
  | .lineCoverage _ => none

theorem coverage?_eq_findSome? (o : Overlay) (n : String) :
    o.coverage? n = (o.metrics n).findSome? coverageIn? := by
  unfold coverage?
  congr 1

theorem tests?_eq_findSome? (o : Overlay) (n : String) :
    o.tests? n = (o.metrics n).findSome? testsIn? := by
  unfold tests?
  congr 1

section Views

variable {s : CoverageSheet} {ts : TestSheet}
    (h : o.metrics n = s.metricsFor m n ++ ts.metricsFor n)
include h

/-- The coverage of a name is read off the counts of its file. -/
theorem coverage?_eq_some_iff {c : LineCoverage} : o.coverage? n = some c ↔
    ∃ d t, m.get? n = some d ∧ s.lines.get? d.filePath = some t ∧
      CoverageSheet.coverageOf t d = c ∧ c.sampled ≠ 0 := by
  have htests : (ts.metricsFor n).findSome? coverageIn? = none := by
    unfold TestSheet.metricsFor
    cases ts.byName.get? n <;> rfl
  rw [coverage?_eq_findSome?, h, List.findSome?_append, htests, Option.or_none]
  unfold CoverageSheet.metricsFor
  cases m.get? n with
  | none => simp
  | some d =>
    rw [Option.bind_some]
    cases ht : s.lines.get? d.filePath with
    | none => simp [ht]
    | some t =>
      rw [Option.map_some, Option.getD_some]
      unfold CoverageSheet.metricsOf
      by_cases hc : (CoverageSheet.coverageOf t d).sampled = 0
      · rw [if_pos hc]
        refine iff_of_false (by simp) ?_
        rintro ⟨d', t', hd', ht', rfl, hne⟩
        rw [← Option.some.inj hd', ht] at ht'
        rw [← Option.some.inj hd', ← Option.some.inj ht'] at hne
        exact hne hc
      · rw [if_neg hc]
        constructor
        · intro heq
          have hcoverage : CoverageSheet.coverageOf t d = c := Option.some.inj heq
          exact ⟨d, t, rfl, ht, hcoverage, hcoverage ▸ hc⟩
        · rintro ⟨d', t', hd', ht', rfl, _⟩
          rw [← Option.some.inj hd', ht] at ht'
          rw [← Option.some.inj hd', ← Option.some.inj ht']
          rfl

/-- The tests of a name are those of its summary. -/
theorem tests?_eq : o.tests? n = (ts.byName.get? n).map TestSummary.normalize := by
  have hcoverage : (s.metricsFor m n).findSome? testsIn? = none := by
    unfold CoverageSheet.metricsFor CoverageSheet.metricsOf
    cases m.get? n with
    | none => rfl
    | some d =>
      rw [Option.bind_some]
      cases s.lines.get? d.filePath with
      | none => rfl
      | some t =>
        rw [Option.map_some, Option.getD_some]
        split <;> rfl
  rw [tests?_eq_findSome?, h, List.findSome?_append, hcoverage, Option.none_or]
  unfold TestSheet.metricsFor
  cases ts.byName.get? n <;> rfl

end Views

end Overlay

/-! ## §2. Coverage -/

/-- What a declaration spans, a declaration around it spans. -/
theorem Declaration.spans_of_contains {d e : Declaration} (h : e.contains d = true) {line : Nat}
    (hline : d.spans line = true) : e.spans line = true := by
  simp only [contains, spans, Bool.and_eq_true, decide_eq_true_eq] at *
  omega

theorem Declaration.filePath_eq_of_contains {d e : Declaration} (h : e.contains d = true) :
    e.filePath = d.filePath := by
  simp only [contains, Bool.and_eq_true, beq_iff_eq] at h
  exact h.1.1

/-- **A declaration around another has at least its coverage.** -/
theorem CoverageSheet.coverageOf_le (t : Table Nat Nat) {d e : Declaration}
    (h : e.contains d = true) : (coverageOf t d).executed ≤ (coverageOf t e).executed ∧
      (coverageOf t d).sampled ≤ (coverageOf t e).sampled := by
  have hlines : (t.toList.filter fun x => d.spans x.1).Sublist
      (t.toList.filter fun x => e.spans x.1) :=
    List.monotone_filter_right _ fun x hx => Declaration.spans_of_contains h hx
  exact ⟨((hlines.map _).filter _).length_le, (hlines.map _).length_le⟩

/-! ## §3. Tests -/

namespace Crediting

variable {c : Crediting} (keyed : c.model.Keyed)
include keyed

theorem nodup_ofLocation (path : String) (line : Nat) :
    ((c.ofLocation path line).map (·.qualifiedName)).Nodup := by
  unfold ofLocation
  split
  next =>
    apply List.Nodup.sublist (List.filter_sublist.map _)
    rw [Model.map_qualifiedName_values keyed]
    exact c.model.declarations.nodup_keys
  next => exact List.nodup_nil

/-- The declarations that a unit and a member credit are a lineage, if there are any. -/
theorem ofUnit_cases (lineage : ∀ ⦃n d⦄, c.model.get? n = some d → ∃ l, c.model.Lineage d l)
    (name : String) (member : Option String) : c.ofUnit name member = [] ∨
      ∃ d, c.model.get? d.qualifiedName = some d ∧ c.model.Lineage d (c.ofUnit name member) := by
  unfold ofUnit
  split
  next unit _ =>
    split
    next d hd =>
      have hstored : ∃ n, c.model.get? n = some ((member.bind (member? c.model d)).getD d) := by
        cases hm : member.bind (member? c.model d) with
        | none => exact ⟨unit, hd⟩
        | some e =>
          obtain ⟨k, _, hk⟩ := Option.bind_eq_some_iff.mp hm
          have hmember := List.mem_of_find?_eq_some hk
          exact Table.mem_values_iff.mp (List.mem_filter.mp hmember).1
      generalize (member.bind (member? c.model d)).getD d = e at hstored
      obtain ⟨n, hn⟩ := hstored
      have he : c.model.get? e.qualifiedName = some e := by rw [keyed hn]; exact hn
      obtain ⟨l, hl⟩ := lineage hn
      refine .inr ⟨e, he, ?_⟩
      rw [Model.withEnclosing_eq keyed hl he]
      exact hl
    next => exact .inl rfl
  next => exact .inl rfl

variable (lineage : ∀ ⦃n d⦄, c.model.get? n = some d → ∃ l, c.model.Lineage d l)
  (enclosed : ∀ ⦃n d p⦄, c.model.get? n = some d → d.parent = some p →
    ∃ e, c.model.get? p = some e ∧ e.contains d = true)
include lineage

/-- No test is credited to a name twice. -/
theorem nodup_credited (subject : TestSubject) : (c.credited subject).Nodup := by
  cases subject with
  | location path line => exact nodup_ofLocation keyed path line
  | unit name member =>
    show ((c.ofUnit name member).map (·.qualifiedName)).Nodup
    rcases ofUnit_cases keyed lineage name member with hnil | ⟨d, hd, hl⟩
    · rw [hnil]
      exact List.nodup_nil
    · exact hl.nodup keyed hd

include enclosed

/-- **Credit goes to the parent as well**, whether a test is placed by a line or by a name. -/
theorem parent_mem_credited {n p : String} {d : Declaration} (hd : c.model.get? n = some d)
    (hp : d.parent = some p) {subject : TestSubject} (h : n ∈ c.credited subject) :
    p ∈ c.credited subject := by
  obtain ⟨e, he, hcontains⟩ := enclosed hd hp
  have hname : e.qualifiedName = p := keyed he
  cases subject with
  | location path line =>
    obtain ⟨d', hd', rfl⟩ := List.mem_map.mp h
    refine List.mem_map.mpr ⟨e, ?_, hname⟩
    unfold ofLocation at hd' ⊢
    split at hd'
    next file _ =>
      obtain ⟨hvalue, hspans⟩ := List.mem_filter.mp hd'
      rw [Model.mem_values_iff keyed, hd] at hvalue
      rw [← Option.some.inj hvalue, Bool.and_eq_true, beq_iff_eq] at hspans
      refine List.mem_filter.mpr ⟨(Model.mem_values_iff keyed).mpr (hname ▸ he), ?_⟩
      rw [Bool.and_eq_true, beq_iff_eq, Declaration.filePath_eq_of_contains hcontains]
      exact ⟨hspans.1, Declaration.spans_of_contains hcontains hspans.2⟩
    next => exact absurd hd' (by simp)
  | unit name member =>
    obtain ⟨d', hd', rfl⟩ := List.mem_map.mp h
    refine List.mem_map.mpr ⟨e, ?_, hname⟩
    rcases ofUnit_cases keyed lineage name member with hnil | ⟨start, hstart, hl⟩
    · rw [hnil] at hd'
      exact absurd hd' (by simp)
    · have hdd : d' = d := by
        have hget := hl.stored keyed hstart d' hd'
        rw [hd] at hget
        exact (Option.some.inj hget).symm
      subst hdd
      -- the way from `d'` upwards is the rest of the way, and it starts at the parent
      obtain ⟨below, above, hsplit⟩ := List.append_of_mem hd'
      have hrest := (hsplit ▸ hl).drop
      generalize hway : d' :: above = way at hrest
      cases hrest with
      | root htop => rw [hp] at htop; exact absurd htop (by simp)
      | step hup hfound htail =>
        rw [hp] at hup
        rw [← Option.some.inj hup, he] at hfound
        obtain ⟨_, htail⟩ := htail.eq_cons
        rw [hsplit, (List.cons.inj hway).2, htail, ← Option.some.inj hfound]
        simp

theorem count_credited_le {n p : String} {d : Declaration} (hd : c.model.get? n = some d)
    (hp : d.parent = some p) (subject : TestSubject) :
    (c.credited subject).count n ≤ (c.credited subject).count p := by
  by_cases h : n ∈ c.credited subject
  · have hparent := parent_mem_credited keyed lineage enclosed hd hp h
    have hone := List.nodup_iff_count_le_one.mp (nodup_credited keyed lineage subject) n
    exact Nat.le_trans hone (List.one_le_count_iff.mpr hparent)
  · rw [List.count_eq_zero_of_not_mem h]
    exact Nat.zero_le _

/-- The test cases of a declaration are among those of its parent. -/
theorem casesFor_sublist {n p : String} {d : Declaration} (hd : c.model.get? n = some d)
    (hp : d.parent = some p) (rs : List TestRecord) :
    (TestSheet.casesFor c rs n).Sublist (TestSheet.casesFor c rs p) := by
  unfold TestSheet.casesFor
  induction rs with
  | nil => exact List.Sublist.refl _
  | cons r rs ih =>
    rw [List.flatMap_cons, List.flatMap_cons]
    refine List.Sublist.append ?_ ih
    rw [List.replicate_sublist_replicate]
    unfold TestSheet.creditedBy
    cases r.subject with
    | none => exact Nat.le_refl _
    | some subject => exact count_credited_le keyed lineage enclosed hd hp subject

end Crediting

/-- A summary of more cases counts more of each outcome. -/
structure TestSummary.Below (s t : TestSummary) : Prop where
  cases : s.cases.Subperm t.cases
  passed : s.passed ≤ t.passed
  failed : s.failed ≤ t.failed
  skipped : s.skipped ≤ t.skipped

theorem TestSummary.below_of_sublist {cs cs' : List TestCase} (h : cs.Sublist cs') :
    (ofCases cs).normalize.Below (ofCases cs').normalize where
  cases := by
    have hsorted := (sortBy_perm TestCase.order cs).subperm
    exact hsorted.trans (h.subperm.trans (sortBy_perm TestCase.order cs').symm.subperm)
  passed := h.countP_le
  failed := h.countP_le
  skipped := h.countP_le

/-! ## §4. Overlays -/

namespace Overlay

/-- Metrics grow from a declaration to its parent. -/
structure Rising (m : Model) (o : Overlay) : Prop where
  /-- A declaration with coverage has a parent with coverage, of at least as many lines. -/
  coverage : ∀ n d p c, m.get? n = some d → d.parent = some p → o.coverage? n = some c →
    ∃ c', o.coverage? p = some c' ∧ c.executed ≤ c'.executed ∧ c.sampled ≤ c'.sampled
  /-- A declaration with tests has a parent with tests, its own among them. -/
  tests : ∀ n d p s, m.get? n = some d → d.parent = some p → o.tests? n = some s →
    ∃ s', o.tests? p = some s' ∧ s.Below s'

/-- **No metric shrinks from a declaration to its parent**, in a model from assembly, whatever the
logs say and however they spell the source root. -/
theorem rising_merge {root : String} {units : List ParsedUnit} {otherRoots : List String}
    {coverage : Option (List CoverageRecord)} {tests : Option (List TestRecord)} {o : Overlay}
    {ws : List Warning}
    (h : merge (Model.ofUnits root units).1
      (Locator.ofModel (Model.ofUnits root units).1 otherRoots) coverage tests = .ok (o, ws)) :
    o.Rising (Model.ofUnits root units).1 := by
  have keyed := Model.keyed_ofUnits root units
  have lineage := fun n d (hd : (Model.ofUnits root units).1.get? n = some d) =>
    Model.lineage_ofUnits root units hd
  have enclosed := fun n d p (hd : (Model.ofUnits root units).1.get? n = some d)
    (hp : d.parent = some p) => ((Model.grown_ofUnits root units).fitsIn hd).within p hp
  generalize (Model.ofUnits root units).1 = m at *
  obtain ⟨sheet, _, hmetrics⟩ := metrics_merge keyed h
  constructor
  case coverage =>
    intro n d p c hd hp hc
    obtain ⟨d', t, hd', ht, rfl, hsampled⟩ := (coverage?_eq_some_iff (hmetrics n)).mp hc
    rw [hd] at hd'
    rw [← Option.some.inj hd'] at ht hsampled ⊢
    obtain ⟨e, he, hcontains⟩ := enclosed n d p hd hp
    obtain ⟨hexecuted, hle⟩ := CoverageSheet.coverageOf_le t hcontains
    have hpath := Declaration.filePath_eq_of_contains hcontains
    refine ⟨CoverageSheet.coverageOf t e, ?_, hexecuted, hle⟩
    exact (coverage?_eq_some_iff (hmetrics p)).mpr ⟨e, t, he, hpath ▸ ht, rfl, by omega⟩
  case tests =>
    intro n d p s hd hp hs
    rw [tests?_eq (hmetrics n), (TestSheet.credited_ofRecords _ _).byName, map_groupValue] at hs
    have hsub := Crediting.casesFor_sublist (c := ⟨m, SymbolTable.ofModel m,
      Locator.ofModel m otherRoots⟩) keyed lineage enclosed hd hp (tests.getD [])
    unfold groupValue at hs
    split at hs
    next => exact absurd hs (by simp)
    next hne =>
      rw [← Option.some.inj hs]
      refine ⟨_, ?_, TestSummary.below_of_sublist hsub⟩
      rw [tests?_eq (hmetrics p), (TestSheet.credited_ofRecords _ _).byName, map_groupValue]
      apply if_neg
      intro hnil
      rw [hnil] at hsub
      exact hne (List.sublist_nil.mp hsub)

/-- A class on the first nine lines of a file, with a method on three of them. -/
def counterUnits : List ParsedUnit :=
  let counter : Declaration :=
    { name := "Counter", qualifiedName := "Counter", kind := .type, construct := .classType
      parent := none, documentation := "", signature := "class Counter"
      visibility := .publicAccess, modifiers := [], filePath := "a.php", lineStart := 1
      lineEnd := 9 }
  let next : Declaration :=
    { counter with
      name := "next", qualifiedName := "Counter.next", kind := .callable, construct := .method
      parent := some "Counter", signature := "function next()", lineStart := 3, lineEnd := 5 }
  [⟨"a.php", .php, 9, [counter, next], [], []⟩]

/-- Two lines of the method, one of which ran, and one line behind it. -/
def counterRecords : List CoverageRecord :=
  [⟨"/work/src/a.php", 3, 2⟩, ⟨"a.php", 4, 0⟩, ⟨"src/a.php", 7, 1⟩]

/-- A test of the method by its place, one by its name, and one of the class. -/
def counterTests : List TestRecord :=
  [⟨"testNext", .passed, some (.location "a.php" 4)⟩,
    ⟨"testEnd", .failed, some (.unit "Counter" (some "NEXT"))⟩,
    ⟨"testNew", .passed, some (.location "a.php" 8)⟩]

/-- The class has a line and a test more than its method. -/
theorem rising_merge_counter : ∃ o ws,
    merge (Model.ofUnits "src" counterUnits).1
        (Locator.ofModel (Model.ofUnits "src" counterUnits).1 ["/work/src"]) (some counterRecords)
        (some counterTests) = .ok (o, ws) ∧
      o.Rising (Model.ofUnits "src" counterUnits).1 ∧
      (o.coverage? "Counter.next", o.coverage? "Counter") = (some ⟨1, 2⟩, some ⟨2, 3⟩) ∧
      ((o.tests? "Counter.next").map TestSummary.total,
        (o.tests? "Counter").map TestSummary.total) = (some 2, some 3) := by
  have hmerge : (merge (Model.ofUnits "src" counterUnits).1
      (Locator.ofModel (Model.ofUnits "src" counterUnits).1 ["/work/src"]) (some counterRecords)
      (some counterTests)).toOption.map (fun merged =>
        ((merged.1.coverage? "Counter.next", merged.1.coverage? "Counter"),
          ((merged.1.tests? "Counter.next").map TestSummary.total,
            (merged.1.tests? "Counter").map TestSummary.total))) =
      some ((some ⟨1, 2⟩, some ⟨2, 3⟩), (some 2, some 3)) := by
    decide +kernel
  cases h : merge (Model.ofUnits "src" counterUnits).1
      (Locator.ofModel (Model.ofUnits "src" counterUnits).1 ["/work/src"]) (some counterRecords)
      (some counterTests) with
  | error e => rw [h] at hmerge; exact nomatch hmerge
  | ok merged =>
    rw [h] at hmerge
    obtain ⟨hcoverage, htests⟩ := Prod.mk.inj (Option.some.inj hmerge)
    exact ⟨merged.1, merged.2, rfl, rising_merge h, hcoverage, htests⟩

end Overlay
end CodeAtlas
