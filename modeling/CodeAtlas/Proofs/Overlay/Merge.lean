/-
  CodeAtlas.Proofs.Overlay.Merge — what merging logs into a model guarantees.

  Metrics are attached by name.  Every name comes from the model: from a declaration whose lines
  were sampled, or from one that a test is credited to.  The order of the records leaves no trace.

  Main results:
    * `merge_eq_of_perm` — records may come in any order.
    * `within_merge` — only declared names have metrics.
-/
import CodeAtlas.Overlay.Merge
import CodeAtlas.Proofs.Lineage
import CodeAtlas.Proofs.Overlay.Coverage
import CodeAtlas.Proofs.Overlay.Tests

namespace CodeAtlas

/-! ## §1. The order of records -/

namespace Overlay

section Order

variable (m : Model) (l : Locator)

theorem addCoverage_eq_of_perm (o : Overlay) {rs rs' : List CoverageRecord} (perm : rs.Perm rs') :
    addCoverage m l o rs = addCoverage m l o rs' := by
  unfold addCoverage
  rw [CoverageSheet.ofRecords_eq_of_perm m l perm]

theorem addTests_eq_of_perm (o : Overlay) {rs rs' : List TestRecord} (perm : rs.Perm rs') :
    addTests m l o rs = addTests m l o rs' := by
  unfold addTests
  simp only [TestSheet.attach_eq_of_perm perm, TestSheet.warnings_eq_of_perm perm]

theorem merge_eq_of_perm {coverage coverage' : Option (List CoverageRecord)}
    {tests tests' : Option (List TestRecord)} (hcoverage : Option.Rel List.Perm coverage coverage')
    (htests : Option.Rel List.Perm tests tests') :
    merge m l coverage tests = merge m l coverage' tests' := by
  unfold merge
  cases hcoverage with
  | none =>
    cases htests with
    | none => rfl
    | some perm => simp only [addTests_eq_of_perm m l _ perm]
  | some perm =>
    simp only [addCoverage_eq_of_perm m l _ perm]
    cases htests with
    | none => rfl
    | some perm => simp only [addTests_eq_of_perm m l _ perm]

end Order

/-! ## §2. Names of metrics -/

/-- Only declared names have metrics. -/
def Within (m : Model) (o : Overlay) : Prop :=
  ∀ n ms, o.declarations.get? n = some ms → ∃ d, m.get? n = some d

theorem Within.attach {m : Model} {o : Overlay} (h : o.Within m) {n : String}
    (declared : ∃ d, m.get? n = some d) (metric : Metric) : (o.attach n metric).Within m := by
  intro k ms hk
  unfold Overlay.attach at hk
  rw [Table.get?_upsert] at hk
  split at hk
  next hkey => rw [hkey]; exact declared
  next => exact h k ms hk

end Overlay

/-- Coverage is attached to declarations of the model. -/
theorem CoverageSheet.within_attach {m : Model} (keyed : m.Keyed) {s : CoverageSheet}
    {o o' : Overlay} (h : s.attach m o = .ok o') (start : o.Within m) : o'.Within m := by
  refine foldlM_keeps h start ?_
  intro file _ o o' hfile ho
  refine foldlM_keeps hfile ho ?_
  intro d hd o o' hd' ho
  have hstored := (Model.mem_values_iff keyed).mp (List.mem_filter.mp hd).1
  unfold attachTo at hd'
  split at hd'
  · exact absurd hd' (by simp)
  · rw [← Except.ok.inj hd']
    split
    · exact ho
    · exact ho.attach ⟨d, hstored⟩ _

namespace Crediting

theorem stored_enclosing {m : Model} {depth : Nat} {d e : Declaration}
    (h : e ∈ enclosing m depth d) : ∃ n, m.get? n = some e := by
  induction depth generalizing d with
  | zero => exact absurd h (by simp [enclosing])
  | succ depth ih =>
    unfold enclosing at h
    split at h
    next p hp =>
      rcases List.mem_cons.mp h with rfl | h
      · obtain ⟨n, _, hn⟩ := Option.bind_eq_some_iff.mp hp
        exact ⟨n, hn⟩
      · exact ih h
    next => exact absurd h (by simp)

theorem stored_ofUnit {c : Crediting} {name : String} {member : Option String} {e : Declaration}
    (h : e ∈ c.ofUnit name member) : ∃ n, c.model.get? n = some e := by
  unfold ofUnit at h
  split at h
  next unit _ =>
    split at h
    next d hd =>
      rcases List.mem_cons.mp h with rfl | h
      · cases hm : member.bind (member? c.model d) with
        | none => exact ⟨unit, hd⟩
        | some e =>
          obtain ⟨k, _, hk⟩ := Option.bind_eq_some_iff.mp hm
          have hmember := List.mem_of_find?_eq_some hk
          exact Table.mem_values_iff.mp (List.mem_filter.mp hmember).1
      · exact stored_enclosing h
    next => exact absurd h (by simp)
  next => exact absurd h (by simp)

/-- **A test is credited to declared names only.** -/
theorem declared_of_mem_credited {c : Crediting} (keyed : c.model.Keyed) {subject : TestSubject}
    {n : String} (h : n ∈ c.credited subject) : ∃ d, c.model.get? n = some d := by
  have stored : ∀ {e}, (∃ k, c.model.get? k = some e) →
      ∃ d, c.model.get? e.qualifiedName = some d := by
    rintro e ⟨k, hk⟩
    exact ⟨e, by rw [keyed hk]; exact hk⟩
  cases subject with
  | unit name member =>
    obtain ⟨e, he, rfl⟩ := List.mem_map.mp h
    exact stored (stored_ofUnit he)
  | location path line =>
    obtain ⟨e, he, rfl⟩ := List.mem_map.mp h
    unfold ofLocation at he
    split at he
    · exact stored (Table.mem_values_iff.mp (List.mem_filter.mp he).1)
    · exact absurd he (by simp)

end Crediting

namespace TestSheet

/-- A sheet holds declared names only. -/
theorem declared_of_mem_byName {c : Crediting} (keyed : c.model.Keyed) {rs : List TestRecord}
    {e : String × TestSummary} (he : e ∈ (ofRecords c rs).byName.toList) :
    ∃ d, c.model.get? e.1 = some d := by
  have hget := Table.mem_toList_iff.mp he
  rw [(credited_ofRecords c rs).byName] at hget
  have hcases : casesFor c rs e.1 ≠ [] := by
    intro hnil
    rw [hnil] at hget
    exact absurd hget (by simp)
  -- some record credits the name
  obtain ⟨t, ht⟩ := List.exists_mem_of_ne_nil _ hcases
  obtain ⟨r, _, hr⟩ := List.mem_flatMap.mp ht
  have hcredited : e.1 ∈ creditedBy c r := by
    rw [← List.count_pos_iff]
    exact Nat.pos_of_ne_zero (List.mem_replicate.mp hr).1
  unfold creditedBy at hcredited
  cases hs : r.subject with
  | none => rw [hs] at hcredited; exact absurd hcredited (by simp)
  | some subject =>
    rw [hs] at hcredited
    exact Crediting.declared_of_mem_credited keyed hcredited

/-- Test outcomes are attached to declarations of the model. -/
theorem within_attach {c : Crediting} (keyed : c.model.Keyed) (rs : List TestRecord)
    {o : Overlay} (start : o.Within c.model) : ((ofRecords c rs).attach o).Within c.model := by
  have run : ((ofRecords c rs).byName.toList.foldl
      (fun o e => o.attach e.1 (.testOutcomes e.2.normalize)) o).Within c.model := by
    apply foldl_invariant (P := fun _ (o : Overlay) => o.Within c.model) start
    intro done e rest o hsplit ho
    exact ho.attach (declared_of_mem_byName keyed (by rw [hsplit]; simp)) _
  exact run

end TestSheet

namespace Overlay

variable {m : Model} (keyed : m.Keyed) {l : Locator}
include keyed

theorem within_addCoverage {rs : List CoverageRecord} {o o' : Overlay} {ws : List Warning}
    (h : addCoverage m l o rs = .ok (o', ws)) (start : o.Within m) : o'.Within m := by
  obtain ⟨sheet, _, h⟩ := exists_of_bind_eq_ok h
  obtain ⟨covered, hattach, h⟩ := exists_of_bind_eq_ok h
  have hcovered : covered = o' := (Prod.mk.inj (Except.ok.inj h)).1
  rw [← hcovered]
  exact CoverageSheet.within_attach keyed hattach start

theorem within_addTests {o : Overlay} (rs : List TestRecord) (start : o.Within m) :
    (addTests m l o rs).1.Within m :=
  TestSheet.within_attach (c := ⟨m, SymbolTable.ofModel m, l⟩) keyed rs start

/-- **Only declared names have metrics.** -/
theorem within_merge {coverage : Option (List CoverageRecord)} {tests : Option (List TestRecord)}
    {o : Overlay} {ws : List Warning} (h : merge m l coverage tests = .ok (o, ws)) :
    o.Within m := by
  have blank : ({} : Overlay).Within m := fun n ms hn => absurd hn (by simp)
  unfold merge at h
  cases coverage with
  | none =>
    have ho := (Prod.mk.inj (Except.ok.inj h)).1
    rw [← ho]
    cases tests with
    | none => exact blank
    | some rs => exact within_addTests keyed rs blank
  | some rs =>
    obtain ⟨covered, hcoverage, h⟩ := exists_of_bind_eq_ok h
    have hcovered := within_addCoverage keyed hcoverage blank
    -- the tests are merged last and cannot fail
    have ho := (Prod.mk.inj (Except.ok.inj h)).1
    rw [← ho]
    cases tests with
    | none => exact hcovered
    | some rs => exact within_addTests keyed rs hcovered

end Overlay
end CodeAtlas
