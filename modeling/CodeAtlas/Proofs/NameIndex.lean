/-
  CodeAtlas.Proofs.NameIndex — indexes of names know the names that went in, and no others.

  A symbol table files every name under its last segment, a search index files every declaration
  under one or two keys.  Whatever a look-up returns was put in, and what a mention is resolved to
  is therefore declared.

  Main results:
    * `withUnqualified_ofNames` — the names under a segment, in closed form.
    * `mem_of_lookup_eq_found`, `target_mem` — what is found is there.
    * `occurs_ofModel` — the search index holds the declared names, all of them and no others.
-/
import CodeAtlas.Proofs.Loop
import CodeAtlas.Proofs.Lineage
import CodeAtlas.Proofs.Order
import CodeAtlas.Proofs.Search
import CodeAtlas.Resolution

namespace CodeAtlas

/-! ## §1. Symbol tables -/

namespace SymbolTable

/-- The table of some names while it is filled: the names as they came in. -/
structure Filled (names : List String) (t : SymbolTable) : Prop where
  all : ∀ n, t.contains n = true ↔ n ∈ names
  byLocal : ∀ segment, t.byLocal.get? segment =
    groupValue id (names.filter fun n => Name.unqualified n = segment)

theorem Filled.add {names : List String} {t : SymbolTable} (h : Filled names t) (name : String) :
    Filled (names ++ [name]) (t.add name) where
  all n := by
    show ((t.names.insert name ()).get? n).isSome = true ↔ _
    rw [Table.get?_insert, List.mem_append, List.mem_singleton, ← h.all n]
    by_cases hn : n = name
    · simp [hn]
    · rw [if_neg hn, or_iff_left hn]
      rfl
  byLocal segment := by
    show (t.byLocal.upsert (Name.unqualified name) fun l => l.getD [] ++ [name]).get? segment = _
    rw [Table.get?_upsert, h.byLocal (Name.unqualified name), getD_groupValue (id_eq []),
      List.filter_append, List.filter_singleton]
    by_cases hs : segment = Name.unqualified name
    · subst hs
      simp
    · rw [if_neg hs, h.byLocal segment]
      simp [Ne.symm hs]

theorem filled_foldl_add (names : List String) : Filled names (names.foldl add {}) := by
  apply foldl_invariant
  · exact ⟨by simp [contains, Table.contains], fun _ => rfl⟩
  · intro done name rest t _ h
    exact h.add name

theorem contains_ofNames {names : List String} {n : String} :
    (ofNames names).contains n = true ↔ n ∈ names := (filled_foldl_add names).all n

/-- The names with a last segment, sorted. -/
theorem withUnqualified_ofNames (names : List String) (segment : String) :
    (ofNames names).withUnqualified segment =
      sortBy compare (names.filter fun n => Name.unqualified n = segment) := by
  unfold withUnqualified ofNames
  rw [Table.get?_map, (filled_foldl_add names).byLocal, map_groupValue]
  have hnone : sortBy compare (id ([] : List String)) = [] := by simp [sortBy]
  exact getD_groupValue hnone _

theorem mem_of_ofCandidates {cs : List String} {n : String}
    (h : Lookup.ofCandidates cs = .found n) : n ∈ cs := by
  unfold Lookup.ofCandidates at h
  split at h
  · exact absurd h (by simp)
  · rw [← Lookup.found.inj h]
    exact List.mem_singleton_self _
  · exact absurd h (by simp)

/-- **What is found is in the table**, however it was found. -/
theorem mem_of_lookup_eq_found {names : List String} {written n : String}
    (h : (ofNames names).lookup written = .found n) : n ∈ names := by
  have hsegment : ∀ {segment n}, n ∈ (ofNames names).withUnqualified segment → n ∈ names := by
    intro segment n hn
    rw [withUnqualified_ofNames, mem_sortBy] at hn
    exact (List.mem_filter.mp hn).1
  unfold lookup at h
  dsimp only at h
  split at h
  next hcontains =>
    rw [← Lookup.found.inj h]
    exact contains_ofNames.mp hcontains
  next =>
    split at h
    · split at h
      · exact absurd h (by simp)
      · exact hsegment (mem_of_ofCandidates h)
    · exact hsegment (List.mem_filter.mp (mem_of_ofCandidates h)).1

end SymbolTable

/-! ## §2. Resolution -/

namespace Resolver

variable {m : Model} {r : Resolver}

theorem table_of_ofModel {external : List String} (h : ofModel m external = .ok r) :
    r.table = SymbolTable.ofModel m := by
  unfold ofModel at h
  cases hp : patterns external with
  | error e => rw [hp] at h; exact absurd h (by simp [Except.map])
  | ok ps =>
    rw [hp] at h
    rw [← Except.ok.inj h]

/-- **A mention is resolved to something declared.** -/
theorem target_mem (htable : r.table = SymbolTable.ofModel m) {mention : Mention} {target : String}
    (h : r.resolve mention = .resolved target) : target ∈ m.declarations.keys := by
  unfold resolve at h
  dsimp only at h
  split at h
  next hhint =>
    rw [← Resolution.resolved.inj h]
    have hcontains := (Option.filter_eq_some_iff.mp hhint).2
    rw [htable] at hcontains
    exact SymbolTable.contains_ofNames.mp hcontains
  next =>
    split at h
    next found hfound =>
      rw [← Resolution.resolved.inj h]
      unfold find at hfound
      rw [htable] at hfound
      split at hfound
      · split at hfound
        next hcontains =>
          rw [← Lookup.found.inj hfound]
          exact SymbolTable.contains_ofNames.mp hcontains
        next => exact absurd hfound (by simp)
      · exact SymbolTable.mem_of_lookup_eq_found hfound
    next => exact absurd h (by simp)
    next => split at h <;> exact absurd h (by simp)

end Resolver

/-! ## §3. Search -/

namespace Search

/-- A declaration is filed under some key. -/
def Occurs (index : Index) (n : String) : Prop :=
  ∃ key hits, index.get? key = some hits ∧ ∃ hit ∈ hits, hit.qualifiedName = n

/-- **The search index holds the declared names.** -/
theorem occurs_ofModel {m : Model} (keyed : m.Keyed) {n : String} :
    Occurs (ofModel m) n ↔ n ∈ m.declarations.keys := by
  rw [Table.mem_keys_iff]
  constructor
  · rintro ⟨key, hits, hget, h, hh, rfl⟩
    obtain ⟨-, rfl⟩ := (get?_ofModel_eq_some_iff keyed).mp hget
    obtain ⟨d, hstored, -, hhit⟩ := (mem_bucket_iff keyed).mp hh
    rw [hhit]
    exact ⟨d, hstored⟩
  · rintro ⟨d, hd⟩
    obtain rfl : d.qualifiedName = n := keyed hd
    have hmem : hitOf true d ∈ bucket m (fullKey d.qualifiedName) :=
      (mem_bucket_iff keyed).mpr ⟨d, hd, .full, rfl⟩
    exact ⟨_, _, get?_ofModel_of_mem_bucket keyed hmem, _, hmem, rfl⟩

end Search
end CodeAtlas
