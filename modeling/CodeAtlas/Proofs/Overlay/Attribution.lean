/-
  CodeAtlas.Proofs.Overlay.Attribution — no test is lost, and none is counted twice.

  One record of a test log goes to the suite and to every declaration that its subject credits, or
  its subject is reported.  What a subject credits is said here without the walks that compute it:
  a line of a file credits the declarations that span it, a unit and a member credit the declaration
  they mean and all that lies around it.  The computed names are these, each of them once, provided
  that parents run in no circle; parents may be unknown.

  Main results:
    * `mem_credited_iff` — the computed credit is the credit meant.
    * `casesFor_eq` — a name has one case for each record that credits it.
    * `attributed_merge` — the tests of a merged log, all of them accounted for.
-/
import CodeAtlas.Proofs.Ancestry
import CodeAtlas.Proofs.Overlay.Containment

namespace CodeAtlas

/-! ## §1. What a subject credits -/

namespace Crediting

/-- A declared member of a unit has a name, up to the case of the letters `A` to `Z`. -/
structure Named (m : Model) (unit : Declaration) (name : String) (e : Declaration) : Prop where
  declared : m.get? e.qualifiedName = some e
  inside : e.parent = some unit.qualifiedName
  same : Text.sameAscii e.name name = true

/-- What a unit and the name of a member mean. -/
inductive Means (m : Model) (unit : Declaration) : Option String → Declaration → Prop
  /-- Without a name the unit itself is meant. -/
  | whole : Means m unit none unit
  /-- A name that no member has means the unit as well. -/
  | absent {name : String} (nobody : ∀ e, ¬ Named m unit name e) : Means m unit (some name) unit
  /-- Of several members with a name the first one is meant. -/
  | first {name : String} {e : Declaration} (named : Named m unit name e)
      (least : ∀ f, Named m unit name f → f = e ∨ e.qualifiedName < f.qualifiedName) :
      Means m unit (some name) e

/-- A subject credits a name. -/
inductive Credits (c : Crediting) : TestSubject → String → Prop
  /-- A line of a file credits the declarations of that file that span it. -/
  | location {path : String} {line : Nat} {d : Declaration}
      (located : c.locator.locate path = some d.filePath)
      (declared : c.model.get? d.qualifiedName = some d)
      (spans : d.lineStart ≤ line ∧ line ≤ d.lineEnd) :
      Credits c (.location path line) d.qualifiedName
  /-- A unit and a member credit the declaration they mean and those around it. -/
  | unit {name found : String} {member : Option String} {u d e : Declaration}
      (lookup : c.table.lookup name = .found found) (declared : c.model.get? found = some u)
      (means : Means c.model u member d) (around : c.model.Around e d) :
      Credits c (.unit name member) e.qualifiedName

/-! ## §2. Members -/

section Members

variable {m : Model}

/-- The members with a name are those that the search for it looks through. -/
theorem named_iff_mem_membersOf (keyed : m.Keyed) {unit e : Declaration} {name : String} :
    Named m unit name e ↔
      e ∈ m.membersOf unit.qualifiedName ∧ Text.sameAscii e.name name = true := by
  unfold Model.membersOf
  rw [List.mem_filter, Model.mem_values_iff keyed, beq_iff_eq]
  constructor
  · intro h
    exact ⟨⟨h.declared, h.inside⟩, h.same⟩
  · intro h
    exact ⟨h.1.1, h.1.2, h.2⟩

/-- The search finds the first member with a name. -/
theorem means_getD (keyed : m.Keyed) (unit : Declaration) (member : Option String) :
    Means m unit member ((member.bind (member? m unit)).getD unit) := by
  cases member with
  | none => exact .whole
  | some name =>
    show Means m unit (some name) ((member? m unit name).getD unit)
    cases hfind : member? m unit name with
    | none =>
      apply Means.absent
      intro e he
      obtain ⟨hmem, hsame⟩ := (named_iff_mem_membersOf keyed).mp he
      exact List.find?_eq_none.mp hfind e hmem hsame
    | some e =>
      obtain ⟨hsame, before, after, hsplit, hbefore⟩ := List.find?_eq_some_iff_append.mp hfind
      have hmem : e ∈ m.membersOf unit.qualifiedName := by
        rw [hsplit]
        simp
      refine .first ((named_iff_mem_membersOf keyed).mpr ⟨hmem, hsame⟩) ?_
      intro f hf
      obtain ⟨hfmem, hfsame⟩ := (named_iff_mem_membersOf keyed).mp hf
      -- members are listed in name order, and none in front of `e` has the name
      have hordered : (m.membersOf unit.qualifiedName).Pairwise
          fun a b => a.qualifiedName < b.qualifiedName :=
        (Model.increasing_values keyed).filter _
      rw [hsplit] at hfmem hordered
      rcases List.mem_append.mp hfmem with hfront | hback
      · have hno := hbefore f hfront
        rw [hfsame] at hno
        exact absurd hno (by decide)
      · rcases List.mem_cons.mp hback with heq | hafter
        · exact .inl heq
        · have htail := (List.pairwise_append.mp hordered).2.1
          exact .inr ((List.pairwise_cons.mp htail).1 f hafter)

/-- A unit and a member mean one declaration. -/
theorem Means.unique {unit d e : Declaration} {member : Option String} (h : Means m unit member d)
    (h' : Means m unit member e) : d = e := by
  cases h with
  | whole =>
    cases h' with
    | whole => rfl
  | absent nobody =>
    cases h' with
    | absent => rfl
    | first named => exact absurd named (nobody _)
  | first named least =>
    cases h' with
    | absent nobody => exact absurd named (nobody _)
    | first named' least' =>
      rcases least e named' with heq | hlt
      · exact heq.symm
      · rcases least' d named with heq | hlt'
        · exact heq
        · exact absurd (String.lt_trans hlt hlt') (String.lt_irrefl _)

theorem Means.declared {unit d : Declaration} {member : Option String} (h : Means m unit member d)
    (hunit : m.get? unit.qualifiedName = some unit) : m.get? d.qualifiedName = some d := by
  cases h with
  | whole => exact hunit
  | absent => exact hunit
  | first named => exact named.declared

end Members

/-! ## §3. The computed credit -/

section Computed

variable {c : Crediting} (keyed : c.model.Keyed)
include keyed

theorem mem_ofLocation_iff {path : String} {line : Nat} {d : Declaration} :
    d ∈ c.ofLocation path line ↔ c.locator.locate path = some d.filePath ∧
      c.model.get? d.qualifiedName = some d ∧ d.lineStart ≤ line ∧ line ≤ d.lineEnd := by
  unfold ofLocation
  cases c.locator.locate path with
  | none => simp
  | some file =>
    show d ∈ c.model.declarations.values.filter _ ↔ _
    rw [List.mem_filter, Model.mem_values_iff keyed, Bool.and_eq_true, beq_iff_eq,
      Option.some.injEq, eq_comm (a := file)]
    simp only [Declaration.spans, Bool.and_eq_true, decide_eq_true_eq]
    exact and_left_comm

/-- What a unit and a member credit: nothing, if the unit is not found, or a walk upwards. -/
theorem ofUnit_outcome (name : String) (member : Option String) :
    (c.ofUnit name member = [] ∧
      ∀ found u, c.table.lookup name = .found found → c.model.get? found ≠ some u) ∨
    ∃ found u d, c.table.lookup name = .found found ∧ c.model.get? found = some u ∧
      Means c.model u member d ∧ c.model.get? d.qualifiedName = some d ∧
        c.ofUnit name member = withEnclosing c.model d := by
  unfold ofUnit
  split
  next found hfound =>
    split
    next u hu =>
      have hmeans := means_getD keyed u member
      have hstored : c.model.get? u.qualifiedName = some u := by
        rw [keyed hu]
        exact hu
      exact .inr ⟨found, u, _, hfound, hu, hmeans, hmeans.declared hstored, rfl⟩
    next hnone =>
      refine .inl ⟨rfl, ?_⟩
      intro n u hn hu
      rw [hfound] at hn
      rw [← Lookup.found.inj hn, hnone] at hu
      exact absurd hu (by simp)
  next hmissing =>
    refine .inl ⟨rfl, ?_⟩
    intro n u hn
    exact absurd hn (hmissing n)

variable (acyclic : c.model.Acyclic)
include acyclic

/-- **The computed credit is the credit meant.** -/
theorem mem_credited_iff (subject : TestSubject) (n : String) :
    n ∈ c.credited subject ↔ c.Credits subject n := by
  cases subject with
  | location path line =>
    show n ∈ (c.ofLocation path line).map (·.qualifiedName) ↔ _
    rw [List.mem_map]
    constructor
    · rintro ⟨d, hd, rfl⟩
      obtain ⟨hfile, hstored, hspans⟩ := (mem_ofLocation_iff keyed).mp hd
      exact .location hfile hstored hspans
    · intro h
      cases h with
      | @location _ _ d hfile hstored hspans =>
        exact ⟨d, (mem_ofLocation_iff keyed).mpr ⟨hfile, hstored, hspans⟩, rfl⟩
  | unit name member =>
    show n ∈ (c.ofUnit name member).map (·.qualifiedName) ↔ _
    rw [List.mem_map]
    rcases ofUnit_outcome keyed name member with
      ⟨hnil, hmissing⟩ | ⟨found, u, d, hfound, hu, hmeans, hd, hwalk⟩
    · rw [hnil]
      refine iff_of_false (by simp) ?_
      intro h
      cases h with
      | unit hlookup hdeclared => exact hmissing _ _ hlookup hdeclared
    · rw [hwalk]
      constructor
      · rintro ⟨e, he, rfl⟩
        have haround := (Model.mem_withEnclosing_iff keyed acyclic hd).mp he
        exact .unit hfound hu hmeans haround
      · intro h
        cases h with
        | @unit _ found' _ u' d' e hlookup hdeclared hmeans' haround =>
          -- the look-up and the member have one answer each
          rw [hfound] at hlookup
          rw [← Lookup.found.inj hlookup, hu] at hdeclared
          rw [← Option.some.inj hdeclared] at hmeans'
          rw [hmeans'.unique hmeans] at haround
          exact ⟨e, (Model.mem_withEnclosing_iff keyed acyclic hd).mpr haround, rfl⟩

/-- No record credits a name twice. -/
theorem nodup_credited_of_acyclic (subject : TestSubject) : (c.credited subject).Nodup := by
  cases subject with
  | location path line => exact nodup_ofLocation keyed path line
  | unit name member =>
    show ((c.ofUnit name member).map (·.qualifiedName)).Nodup
    rcases ofUnit_outcome keyed name member with ⟨hnil, _⟩ | ⟨_, _, d, _, _, _, hd, hwalk⟩
    · rw [hnil]
      exact List.nodup_nil
    · rw [hwalk]
      exact Model.nodup_withEnclosing keyed hd acyclic

end Computed
end Crediting

/-! ## §4. One case for each record -/

/-- A summary lists some cases: sorted, each as often as it is there, and counted by outcome. -/
structure TestSummary.Lists (s : TestSummary) (cs : List TestCase) : Prop where
  cases : s.cases.Perm cs
  sorted : s.cases.Pairwise fun a b => (TestCase.order a b).isLE
  passed : s.passed = s.cases.countP (·.outcome = .passed)
  failed : s.failed = s.cases.countP (·.outcome = .failed)
  skipped : s.skipped = s.cases.countP (·.outcome = .skipped)

theorem TestSummary.lists_normalize (cs : List TestCase) : (ofCases cs).normalize.Lists cs := by
  have hperm : (ofCases cs).normalize.cases.Perm cs := sortBy_perm TestCase.order cs
  constructor
  case cases => exact hperm
  case sorted => exact pairwise_sortBy cs
  -- the counts were taken before sorting
  case passed => exact (hperm.countP_eq _).symm
  case failed => exact (hperm.countP_eq _).symm
  case skipped => exact (hperm.countP_eq _).symm

namespace TestSheet

variable {c : Crediting} (keyed : c.model.Keyed) (acyclic : c.model.Acyclic)

theorem mem_creditedBy_iff {r : TestRecord} {n : String} :
    n ∈ creditedBy c r ↔ ∃ subject, r.subject = some subject ∧ n ∈ c.credited subject := by
  unfold creditedBy
  cases r.subject <;> simp

/-- A subject is lost if some record has it and it credits nothing. -/
theorem mem_filterMap_lost?_iff {rs : List TestRecord} {subject : TestSubject} :
    subject ∈ rs.filterMap (lost? c) ↔
      (∃ r ∈ rs, r.subject = some subject) ∧ ∀ n, n ∉ c.credited subject := by
  rw [List.mem_filterMap, ← List.eq_nil_iff_forall_not_mem]
  unfold lost?
  constructor
  · rintro ⟨r, hr, hlost⟩
    obtain ⟨hsubject, hnil⟩ := Option.filter_eq_some_iff.mp hlost
    exact ⟨⟨r, hr, hsubject⟩, of_decide_eq_true hnil⟩
  · rintro ⟨⟨r, hr, hsubject⟩, hnil⟩
    exact ⟨r, hr, Option.filter_eq_some_iff.mpr ⟨hsubject, decide_eq_true hnil⟩⟩

include keyed acyclic

theorem nodup_creditedBy (r : TestRecord) : (creditedBy c r).Nodup := by
  unfold creditedBy
  cases r.subject with
  | none => exact List.nodup_nil
  | some subject => exact Crediting.nodup_credited_of_acyclic keyed acyclic subject

/-- **A name has one case for each record that credits it.** -/
theorem casesFor_eq (rs : List TestRecord) (n : String) :
    casesFor c rs n = (rs.filter fun r => n ∈ creditedBy c r).map (·.testCase) := by
  unfold casesFor
  induction rs with
  | nil => rfl
  | cons r rs ih =>
    rw [List.flatMap_cons, ih]
    by_cases hn : n ∈ creditedBy c r
    · have hone := List.count_eq_one_of_mem (nodup_creditedBy keyed acyclic r) hn
      rw [hone, List.filter_cons_of_pos (by simpa using hn)]
      rfl
    · have hnone := List.count_eq_zero_of_not_mem hn
      rw [hnone, List.filter_cons_of_neg (by simpa using hn)]
      rfl

end TestSheet

/-! ## §5. Merged logs -/

/-- The warning about a subject that credits nothing. -/
def TestSubject.unattributed (subject : TestSubject) : Warning :=
  .ofMetadata subject.path?
    ("tests for `" ++ subject.text ++ "` match no declaration; not attributed")

namespace Overlay

/-- The tests of a log, as an overlay and some warnings tell them. -/
structure Attributed (c : Crediting) (rs : List TestRecord) (o : Overlay) (ws : List Warning) :
    Prop where
  /-- The names that are credited are those that are meant. -/
  credit : ∀ subject n, n ∈ c.credited subject ↔ c.Credits subject n
  /-- The suite lists every record. -/
  suite : ∃ s, o.suite = some s ∧ s.Lists (rs.map (·.testCase))
  /-- A name has tests if some record credits it. -/
  present : ∀ n, (∃ s, o.tests? n = some s) ↔
    ∃ r ∈ rs, ∃ subject, r.subject = some subject ∧ c.Credits subject n
  /-- Its summary lists the records that do. -/
  tests : ∀ n s, o.tests? n = some s →
    s.Lists ((rs.filter fun r => n ∈ TestSheet.creditedBy c r).map (·.testCase))
  /-- Every subject that credits nothing is reported, once. -/
  warnings : ∃ lost : List TestSubject,
    (lost.Pairwise fun a b => TestSubject.order a b = .lt) ∧
    (∀ subject, subject ∈ lost ↔
      (∃ r ∈ rs, r.subject = some subject) ∧ ∀ n, ¬ c.Credits subject n) ∧
    ws = lost.map TestSubject.unattributed

variable {m : Model} {l : Locator}

/-- The tests are merged into what the coverage log leaves behind. -/
theorem merge_tests_eq {coverage : Option (List CoverageRecord)} {before : Overlay}
    {covered : List Warning} (h : merge m l coverage none = .ok (before, covered))
    (rs : List TestRecord) : merge m l coverage (some rs) =
      .ok ((addTests m l before rs).1, covered ++ (addTests m l before rs).2) := by
  unfold merge at h ⊢
  cases coverage with
  | none =>
    obtain ⟨rfl, rfl⟩ := Prod.mk.inj (Except.ok.inj h)
    rfl
  | some cs =>
    obtain ⟨⟨o, ws⟩, hcoverage, h⟩ := exists_of_bind_eq_ok h
    obtain ⟨rfl, hws⟩ := Prod.mk.inj (Except.ok.inj h)
    rw [List.append_nil] at hws
    simp only [hcoverage, hws]
    rfl

/-- **No test is lost or counted twice.**  Whatever a coverage log leaves behind, a test log is
merged into it.  The suite lists every record, every declaration lists the records that credit it,
and the subjects that credit nothing are reported. -/
theorem attributed_merge (keyed : m.Keyed) (acyclic : m.Acyclic) (otherRoots : List String)
    (rs : List TestRecord) {coverage : Option (List CoverageRecord)} {before : Overlay}
    {covered : List Warning}
    (h : merge m (Locator.ofModel m otherRoots) coverage none = .ok (before, covered)) :
    ∃ o tested, merge m (Locator.ofModel m otherRoots) coverage (some rs) =
        .ok (o, covered ++ tested) ∧
      o.Attributed ⟨m, SymbolTable.ofModel m, Locator.ofModel m otherRoots⟩ rs tested := by
  generalize Locator.ofModel m otherRoots = l at h ⊢
  have hmerge := merge_tests_eq h rs
  refine ⟨_, _, hmerge, ?_⟩
  obtain ⟨sheet, _, hmetrics⟩ := metrics_merge keyed hmerge
  -- the sheet of the tests, in closed form
  have hsheet := TestSheet.credited_ofRecords ⟨m, SymbolTable.ofModel m, l⟩ rs
  have hcredit := Crediting.mem_credited_iff (c := ⟨m, SymbolTable.ofModel m, l⟩) keyed acyclic
  have htests : ∀ n, (addTests m l before rs).1.tests? n =
      groupValue (fun cs => (TestSummary.ofCases cs).normalize)
        ((rs.filter fun r => n ∈ TestSheet.creditedBy ⟨m, SymbolTable.ofModel m, l⟩ r).map
          (·.testCase)) := by
    intro n
    rw [tests?_eq (hmetrics n), Option.getD_some, hsheet.byName, map_groupValue,
      TestSheet.casesFor_eq keyed acyclic]
  constructor
  case credit => exact hcredit
  case suite =>
    refine ⟨_, rfl, ?_⟩
    rw [hsheet.suite]
    exact TestSummary.lists_normalize _
  case present =>
    intro n
    rw [htests]
    simp only [← hcredit, ← TestSheet.mem_creditedBy_iff, groupValue_eq_some_iff]
    rw [exists_and_left, and_iff_left ⟨_, rfl⟩, ne_eq, List.map_eq_nil_iff,
      List.filter_eq_nil_iff]
    simp
  case tests =>
    intro n s hs
    rw [htests, groupValue_eq_some_iff] at hs
    rw [← hs.2]
    exact TestSummary.lists_normalize _
  case warnings =>
    refine ⟨_, increasing_sortDistinct _, ?_, rfl⟩
    intro subject
    rw [mem_sortDistinct, hsheet.unmatched, TestSheet.mem_filterMap_lost?_iff]
    simp only [hcredit]

/-- A class whose parent nobody declared, and two methods whose names differ in case only. -/
def workerModel : Model :=
  let worker : Declaration :=
    { name := "Worker", qualifiedName := "Worker", kind := .type, construct := .classType
      parent := some "Gone", documentation := "", signature := "class Worker"
      visibility := .publicAccess, modifiers := [], filePath := "a.php", lineStart := 1
      lineEnd := 9 }
  let method (name qualified : String) (start stop : Nat) : Declaration :=
    { worker with
      name := name, qualifiedName := qualified, kind := .callable, construct := .method
      parent := some "Worker", lineStart := start, lineEnd := stop }
  { sourceRoot := "src"
    files := Table.ofList [("a.php", ⟨9, 3⟩)]
    declarations := Table.ofList
      [("Worker", worker), ("Worker.run", method "run" "Worker.run" 3 5),
        ("Worker.RUN", method "RUN" "Worker.RUN" 6 8)] }

/-- A test placed by a line, one by a name, two of a unit that is not there, and one of nothing. -/
def workerTests : List TestRecord :=
  [⟨"testLine", .passed, some (.location "src/a.php" 4)⟩,
    ⟨"testRun", .failed, some (.unit "Worker" (some "run"))⟩,
    ⟨"testAway", .skipped, some (.unit "Nobody" none)⟩,
    ⟨"testAway", .passed, some (.unit "Nobody" none)⟩, ⟨"testFree", .passed, none⟩]

/-- The class has both tests that are placed, each method one of them, and the suite has all. -/
theorem attributed_merge_worker : workerModel.Keyed ∧ workerModel.Acyclic ∧
    ∃ o tested, merge workerModel (Locator.ofModel workerModel []) none (some workerTests) =
        .ok (o, tested) ∧
      o.Attributed ⟨workerModel, SymbolTable.ofModel workerModel, Locator.ofModel workerModel []⟩
        workerTests tested ∧
      (["Worker", "Worker.run", "Worker.RUN", "Gone"].map fun n =>
        (o.tests? n).map fun s => (s.passed, s.failed, s.skipped)) =
        [some (1, 1, 0), some (1, 0, 0), some (0, 1, 0), none] ∧
      o.suite.map (fun s => (s.passed, s.failed, s.skipped)) = some (3, 1, 1) := by
  have hvalues : ∀ e ∈ workerModel.declarations.toList, e.2.qualifiedName = e.1 ∧
      ∀ p ∈ e.2.parent, p.length < e.2.qualifiedName.length := by
    decide +kernel
  have keyed : workerModel.Keyed := by
    intro n d hd
    exact (hvalues (n, d) (Table.mem_toList_iff.mpr hd)).1
  have acyclic : workerModel.Acyclic := by
    refine Model.acyclic_of_measure String.length ?_ keyed
    intro d hd p hp
    obtain ⟨n, hn⟩ := Table.mem_values_iff.mp hd
    exact (hvalues (n, d) (Table.mem_toList_iff.mpr hn)).2 p hp
  have hcounts : (merge workerModel (Locator.ofModel workerModel []) none
      (some workerTests)).toOption.map (fun merged =>
        ((["Worker", "Worker.run", "Worker.RUN", "Gone"].map fun n =>
          (merged.1.tests? n).map fun s => (s.passed, s.failed, s.skipped)),
          merged.1.suite.map fun s => (s.passed, s.failed, s.skipped))) =
      some ([some (1, 1, 0), some (1, 0, 0), some (0, 1, 0), none], some (3, 1, 1)) := by
    decide +kernel
  have hnone : merge workerModel (Locator.ofModel workerModel []) none none = .ok ({}, []) := rfl
  obtain ⟨o, tested, hmerge, hattributed⟩ := attributed_merge keyed acyclic [] workerTests hnone
  rw [hmerge] at hcounts
  obtain ⟨hnames, hsuite⟩ := Prod.mk.inj (Option.some.inj hcounts)
  exact ⟨keyed, acyclic, o, tested, hmerge, hattributed, hnames, hsuite⟩

end Overlay
end CodeAtlas
