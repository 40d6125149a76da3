/-
  CodeAtlas.Proofs.Overlay.Tests — what a test sheet holds.

  The summary of some test cases counts them by outcome and lists them.  A sheet holds the summary
  of all cases, for each name that of the cases credited to it, and the subjects that credit
  nothing.  Summaries list cases in the order they came in until they are normalized; what is
  attached to declarations is normalized, so there the order is gone.

  Main results:
    * `credited_ofRecords` — a sheet of records, in closed form.
    * `attach_eq_of_perm`, `warnings_eq_of_perm` — the order of the records does not matter.
-/
import CodeAtlas.Overlay.Tests
import CodeAtlas.Proofs.Loop
import CodeAtlas.Proofs.Order
import CodeAtlas.Proofs.Table

namespace CodeAtlas

/-! ## §1. Summaries -/

namespace TestSummary

/-- The summary of some cases. -/
def ofCases (cs : List TestCase) : TestSummary where
  passed := cs.countP (·.outcome = .passed)
  failed := cs.countP (·.outcome = .failed)
  skipped := cs.countP (·.outcome = .skipped)
  cases := cs

theorem ofCases_nil : ofCases [] = {} := rfl

theorem record_ofCases (cs : List TestCase) (c : TestCase) :
    (ofCases cs).record c = ofCases (cs ++ [c]) := by
  unfold record ofCases
  cases hc : c.outcome <;> simp [hc]

/-- **A normalized summary forgets the order of its cases.** -/
theorem normalize_ofCases_eq_of_perm {cs cs' : List TestCase} (h : cs.Perm cs') :
    (ofCases cs).normalize = (ofCases cs').normalize := by
  have hsort : sortBy TestCase.order cs = sortBy TestCase.order cs' :=
    sortBy_eq_of_perm h fun _ _ _ _ heq => Std.LawfulEqCmp.eq_of_compare heq
  unfold normalize ofCases
  simp only [hsort, h.countP_eq]

end TestSummary

namespace TestSheet

variable {c : Crediting} {rs : List TestRecord} {s : TestSheet}

/-! ## §2. Credit -/

/-- The names that a record credits. -/
def creditedBy (c : Crediting) (r : TestRecord) : List String := (r.subject.map c.credited).getD []

/-- The cases credited to a name, each as often as its record credits the name. -/
def casesFor (c : Crediting) (rs : List TestRecord) (n : String) : List TestCase :=
  rs.flatMap fun r => List.replicate ((creditedBy c r).count n) r.testCase

/-- The subject of a record, if it credits nothing. -/
def lost? (c : Crediting) (r : TestRecord) : Option TestSubject :=
  r.subject.filter fun subject => c.credited subject = []

/-- A sheet holds what some records come to. -/
structure Credited (c : Crediting) (rs : List TestRecord) (s : TestSheet) : Prop where
  suite : s.suite = .ofCases (rs.map (·.testCase))
  byName : ∀ n, s.byName.get? n = groupValue TestSummary.ofCases (casesFor c rs n)
  unmatched : s.unmatched = rs.filterMap (lost? c)

theorem get?_credit {byName : Table String TestSummary} {group : String → List TestCase}
    (h : ∀ n, byName.get? n = groupValue TestSummary.ofCases (group n)) (t : TestCase)
    (name n : String) : (credit t byName name).get? n =
      groupValue TestSummary.ofCases (if n = name then group n ++ [t] else group n) := by
  unfold credit
  rw [Table.get?_upsert, h name, getD_groupValue TestSummary.ofCases_nil,
    TestSummary.record_ofCases]
  by_cases hn : n = name
  · rw [if_pos hn, if_pos hn, hn, groupValue_concat]
  · rw [if_neg hn, if_neg hn, h]

/-- A case is credited to a name as often as the name is listed. -/
theorem get?_foldl_credit (t : TestCase) (names : List String) {byName : Table String TestSummary}
    {group : String → List TestCase}
    (h : ∀ n, byName.get? n = groupValue TestSummary.ofCases (group n)) (n : String) :
    (names.foldl (credit t) byName).get? n =
      groupValue TestSummary.ofCases (group n ++ List.replicate (names.count n) t) := by
  induction names generalizing byName group with
  | nil => simp [h]
  | cons name names ih =>
    rw [List.foldl_cons, ih (get?_credit h t name)]
    congr 1
    by_cases hn : n = name
    · subst hn
      rw [if_pos rfl, List.count_cons_self, List.replicate_succ, List.append_assoc]
      rfl
    · rw [if_neg hn, List.count_cons_of_ne (Ne.symm hn)]

/-! ## §3. Sheets -/

theorem casesFor_concat (c : Crediting) (rs : List TestRecord) (r : TestRecord) (n : String) :
    casesFor c (rs ++ [r]) n =
      casesFor c rs n ++ List.replicate ((creditedBy c r).count n) r.testCase := by
  simp [casesFor]

/-- Every record does the same three things, some of them to no effect. -/
theorem add_eq (c : Crediting) (s : TestSheet) (r : TestRecord) :
    s.add c r = { suite := s.suite.record r.testCase
                  byName := (creditedBy c r).foldl (credit r.testCase) s.byName
                  unmatched := s.unmatched ++ (lost? c r).toList } := by
  unfold add creditedBy lost?
  cases r.subject with
  | none => simp
  | some subject => cases hc : c.credited subject <;> simp [Option.filter, hc]

/-- **One record**: its case joins the suite and the names it credits, or its subject is lost. -/
theorem Credited.add (h : Credited c rs s) (r : TestRecord) :
    Credited c (rs ++ [r]) (s.add c r) := by
  rw [add_eq]
  constructor
  · show s.suite.record r.testCase = _
    rw [h.suite, TestSummary.record_ofCases, List.map_append]
    rfl
  · intro n
    show ((creditedBy c r).foldl (credit r.testCase) s.byName).get? n = _
    rw [get?_foldl_credit _ _ h.byName, casesFor_concat]
  · show s.unmatched ++ (lost? c r).toList = _
    rw [h.unmatched, List.filterMap_append]
    cases hl : lost? c r <;> simp [hl]

/-- **All records.** -/
theorem credited_ofRecords (c : Crediting) (rs : List TestRecord) :
    Credited c rs (ofRecords c rs) := by
  unfold ofRecords
  apply foldl_invariant
  · exact ⟨rfl, fun _ => rfl, rfl⟩
  · intro done r rest s _ h
    exact h.add r

/-! ## §4. The order of records -/

/-- What is attached to names is normalized. -/
theorem attach_eq (s : TestSheet) (o : Overlay) :
    s.attach o = { (s.byName.map (·.normalize)).toList.foldl
      (fun o e => o.attach e.1 (.testOutcomes e.2)) o with suite := some s.suite.normalize } := by
  unfold attach Table.map Table.toList
  rw [List.foldl_map]

variable {rs' : List TestRecord} (perm : rs.Perm rs')
include perm

theorem casesFor_perm (n : String) : (casesFor c rs n).Perm (casesFor c rs' n) :=
  perm.flatMap_right _

/-- **The order of test records does not matter** for what is attached. -/
theorem attach_eq_of_perm (o : Overlay) :
    (ofRecords c rs).attach o = (ofRecords c rs').attach o := by
  have h := credited_ofRecords c rs
  have h' := credited_ofRecords c rs'
  have hnames : (ofRecords c rs).byName.map (·.normalize) =
      (ofRecords c rs').byName.map (·.normalize) := by
    apply Table.ext_get?
    intro n
    rw [Table.get?_map, Table.get?_map, h.byName, h'.byName, map_groupValue, map_groupValue]
    exact groupValue_perm TestSummary.normalize_ofCases_eq_of_perm (casesFor_perm perm n)
  rw [attach_eq, attach_eq, hnames, h.suite, h'.suite,
    TestSummary.normalize_ofCases_eq_of_perm (perm.map _)]

/-- **The order of test records does not matter** for the warnings. -/
theorem warnings_eq_of_perm : (ofRecords c rs).warnings = (ofRecords c rs').warnings := by
  have hunmatched : (ofRecords c rs).unmatched.Perm (ofRecords c rs').unmatched := by
    rw [(credited_ofRecords c rs).unmatched, (credited_ofRecords c rs').unmatched]
    exact perm.filterMap _
  unfold warnings
  rw [sortDistinct_eq_of_perm hunmatched]

end TestSheet
end CodeAtlas
