/-
  CodeAtlas.Proofs.Index — what parsing units one by one keeps.

  A parsed unit has the path of the unit it was read from.  Distinct paths therefore stay distinct,
  and sorting by path leaves nothing to the order in which the units came.
-/
import CodeAtlas.Index
import CodeAtlas.Proofs.Extraction.Steps
import CodeAtlas.Proofs.Order

namespace CodeAtlas

/-- A parsed unit keeps the path of the unit and holds what was extracted from its tree. -/
theorem SourceUnit.eq_of_parse {grammar : Grammar} {includePrivate : Bool} {u : SourceUnit}
    {p : ParsedUnit} (h : u.parse grammar includePrivate = .ok p) :
    p.filePath = u.path ∧ p.declarations = (Extraction.ofTree
      ⟨u.path, u.text.toList, includePrivate⟩ (grammar u.text)).declarations := by
  unfold parse at h
  cases hl : Language.ofExtension? u.extension with
  | none =>
    rw [hl] at h
    exact absurd h (by simp)
  | some language =>
    rw [hl] at h
    have hp := Except.ok.inj h
    rw [← hp]
    exact ⟨rfl, rfl⟩

namespace Index

variable (grammar : Grammar) (includePrivate : Bool)

theorem parsed?_eq_some {u : SourceUnit} {p : ParsedUnit} :
    parsed? (outcomeOf grammar includePrivate u) = some p ↔
      u.parse grammar includePrivate = .ok p := by
  unfold outcomeOf
  cases u.parse grammar includePrivate with
  | error f => exact ⟨fun h => (nomatch h), fun h => (nomatch h)⟩
  | ok q => exact ⟨fun h => congrArg Except.ok (Option.some.inj h),
      fun h => congrArg some (Except.ok.inj h)⟩

/-- Units that cannot be parsed are left out; the others keep their paths. -/
theorem paths_sublist (us : List SourceUnit) :
    (((us.map (outcomeOf grammar includePrivate)).filterMap parsed?).map (·.filePath)).Sublist
      (us.map (·.path)) := by
  induction us with
  | nil => exact List.Sublist.slnil
  | cons u us ih =>
    rw [List.map_cons, List.map_cons]
    cases hu : parsed? (outcomeOf grammar includePrivate u) with
    | none =>
      rw [List.filterMap_cons_none hu]
      exact ih.cons u.path
    | some p =>
      rw [List.filterMap_cons_some hu, List.map_cons,
        (SourceUnit.eq_of_parse ((parsed?_eq_some grammar includePrivate).mp hu)).1]
      exact ih.cons_cons u.path

theorem nodup_paths {us : List SourceUnit} (distinct : (us.map (·.path)).Nodup) :
    ((ofUnits grammar includePrivate us).units.map (·.filePath)).Nodup := by
  have hparsed := distinct.sublist (paths_sublist grammar includePrivate us)
  unfold ofUnits ofOutcomes
  rw [((sortBy_perm _ _).map _).nodup_iff, List.map_map]
  exact hparsed

/-- **Parsed units of distinct paths have one order.** -/
theorem units_eq_of_perm {us vs : List SourceUnit} (distinct : (us.map (·.path)).Nodup)
    (perm : us.Perm vs) :
    (ofUnits grammar includePrivate us).units = (ofUnits grammar includePrivate vs).units := by
  have hparsed := distinct.sublist (paths_sublist grammar includePrivate us)
  unfold ofUnits ofOutcomes
  apply sortBy_compareOn_eq_of_perm (((perm.map _).filterMap _).map _)
  rw [List.map_map]
  exact hparsed

theorem warnings_perm {us vs : List SourceUnit} (perm : us.Perm vs) :
    (ofUnits grammar includePrivate us).warnings.Perm
      (ofUnits grammar includePrivate vs).warnings :=
  (perm.map _).flatMap_right _

/-- Everything declared by a parsed unit lies in its file. -/
theorem filePath_of_mem {us : List SourceUnit} {p : ParsedUnit}
    (hp : p ∈ (ofUnits grammar includePrivate us).units) {d : Declaration}
    (hd : d ∈ p.declarations) : d.filePath = p.filePath := by
  obtain ⟨q, hq, rfl⟩ := List.mem_map.mp (mem_sortBy.mp hp)
  obtain ⟨outcome, houtcome, hparsed⟩ := List.mem_filterMap.mp hq
  obtain ⟨u, _, rfl⟩ := List.mem_map.mp houtcome
  obtain ⟨hpath, hdeclarations⟩ :=
    SourceUnit.eq_of_parse ((parsed?_eq_some grammar includePrivate).mp hparsed)
  replace hd : d ∈ q.declarations := hd
  rw [hdeclarations] at hd
  show d.filePath = q.filePath
  rw [hpath]
  exact Extraction.filePath_of_mem_ofTree hd

end Index

/-- Reads every text as one class on its first line, named by the bytes 12 to 15. -/
def classGrammar : Grammar := fun _ =>
  .mk ⟨"program", true, false, "", 0, 18, 0, 0⟩ [
    .mk ⟨"class_declaration", true, false, "", 6, 18, 0, 0⟩ [
      .mk ⟨"name", true, false, "name", 12, 15, 0, 0⟩ []]]

end CodeAtlas
