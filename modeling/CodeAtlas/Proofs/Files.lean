/-
  CodeAtlas.Proofs.Files — what a model says about its files.

  A file summary holds the number of declarations that were kept when its unit was joined.  That
  this is still their number when all units are joined takes two things: declarations are never
  taken out, and no other unit adds declarations of the same file.

  Main results:
    * `countIn_foldl_add` — a unit adds to the count of its own file what it keeps, and nothing to
      that of any other.
    * `filed_ofUnits` — every declaration lies in a known file, and every file counts its own.
-/
import CodeAtlas.Proofs.Assembly
import CodeAtlas.Proofs.Loop

namespace CodeAtlas.Model

/-! ## §1. Counting -/

/-- Number of declarations of a file. -/
def countIn (t : Table String Declaration) (path : String) : Nat :=
  t.values.countP (·.filePath = path)

theorem countIn_insert {t : Table String Declaration} {n : String} {d : Declaration}
    (free : t.get? n = none) (path : String) :
    countIn (t.insert n d) path = countIn t path + if d.filePath = path then 1 else 0 := by
  unfold countIn
  rw [(Table.values_insert_perm d free).countP_eq, List.countP_cons]
  simp only [decide_eq_true_eq]

/-- **One unit** whose declarations all lie in one file. -/
theorem countIn_foldl_add {path : String} {ds : List Declaration}
    (here : ∀ d ∈ ds, d.filePath = path) (a : Assembly) (fresh : a.kept = 0) (p : String) :
    countIn (ds.foldl Assembly.add a).declarations p =
      countIn a.declarations p + if path = p then (ds.foldl Assembly.add a).kept else 0 := by
  apply foldl_invariant (P := fun _ (b : Assembly) => countIn b.declarations p =
    countIn a.declarations p + if path = p then b.kept else 0)
  · rw [fresh, ite_self, Nat.add_zero]
  · intro done d rest b hsplit hb
    have hd : d.filePath = path := here d (by rw [hsplit]; simp)
    have hadded := Assembly.added_add b d
    generalize b.add d = b' at hadded
    cases hadded with
    | orphaned => exact hb
    | duplicate => exact hb
    | misfit => exact hb
    | kept _ free _ =>
      show countIn (b.declarations.insert d.qualifiedName d) p =
        countIn a.declarations p + if path = p then b.kept + 1 else 0
      rw [countIn_insert free, hb, hd]
      by_cases hp : path = p
      · rw [if_pos hp, if_pos hp, if_pos hp, Nat.add_assoc]
      · rw [if_neg hp, if_neg hp, if_neg hp]

/-! ## §2. Summaries -/

/-- The summaries are those of the units that were joined, and count right. -/
structure Filed (done : List ParsedUnit) (m : Model) : Prop where
  count : ∀ p s, m.files.get? p = some s → s.declarations = countIn m.declarations p
  known : ∀ u ∈ done, ∃ s, m.files.get? u.filePath = some s
  elsewhere : ∀ p, p ∉ done.map (·.filePath) → countIn m.declarations p = 0

theorem Filed.addUnit {done : List ParsedUnit} {m : Model} {ws : List Warning} {u : ParsedUnit}
    (h : Filed done m) (here : ∀ d ∈ u.declarations, d.filePath = u.filePath)
    (new : u.filePath ∉ done.map (·.filePath)) :
    Filed (done ++ [u]) (addUnit (m, ws) u).1 := by
  have hcount := countIn_foldl_add here { declarations := m.declarations, warnings := ws } rfl
  refine ⟨?_, ?_, ?_⟩
  · intro p s hs
    show s.declarations = countIn (u.declarations.foldl Assembly.add _).declarations p
    replace hs : (m.files.insert u.filePath _).get? p = some s := hs
    rw [Table.get?_insert] at hs
    rw [hcount]
    by_cases hp : p = u.filePath
    · -- before this unit nothing was declared in its file
      rw [if_pos hp] at hs
      rw [if_pos hp.symm, hp, h.elsewhere _ new, Nat.zero_add, ← Option.some.inj hs]
    · rw [if_neg hp] at hs
      rw [if_neg (Ne.symm hp), Nat.add_zero]
      exact h.count p s hs
  · intro v hv
    show ∃ s, (m.files.insert u.filePath _).get? v.filePath = some s
    rw [Table.get?_insert]
    by_cases hp : v.filePath = u.filePath
    · exact ⟨_, if_pos hp⟩
    · rw [if_neg hp]
      rcases List.mem_append.mp hv with hold | hnew
      · exact h.known v hold
      · rw [List.mem_singleton.mp hnew] at hp
        exact absurd rfl hp
  · intro p hp
    rw [List.map_append, List.mem_append, not_or] at hp
    show countIn (u.declarations.foldl Assembly.add _).declarations p = 0
    have hne : u.filePath ≠ p := fun heq => hp.2 (by simp [heq])
    rw [hcount, if_neg hne, h.elsewhere p hp.1]

/-- **All units.** -/
theorem filed_foldl_addUnit (root : String) {units : List ParsedUnit}
    (paths : (units.map (·.filePath)).Nodup)
    (here : ∀ u ∈ units, ∀ d ∈ u.declarations, d.filePath = u.filePath) :
    Filed units (units.foldl addUnit ({ sourceRoot := root }, [])).1 := by
  apply foldl_invariant (P := fun done (state : Model × List Warning) => Filed done state.1)
  · exact ⟨by simp, by simp, fun _ _ => rfl⟩
  · intro done u rest state hsplit h
    apply h.addUnit (here u (by rw [hsplit]; simp))
    rw [hsplit, List.map_append, List.map_cons] at paths
    intro hmem
    exact (List.nodup_append.mp paths).2.2 _ hmem _ List.mem_cons_self rfl

theorem filed_ofUnits (root : String) {units : List ParsedUnit}
    (paths : (units.map (·.filePath)).Nodup)
    (here : ∀ u ∈ units, ∀ d ∈ u.declarations, d.filePath = u.filePath) :
    Filed (sortBy (compareOn ParsedUnit.filePath) units) (ofUnits root units).1 := by
  have hperm := sortBy_perm (compareOn ParsedUnit.filePath) units
  have h := filed_foldl_addUnit root ((hperm.map _).nodup_iff.mpr paths)
    fun u hu => here u (hperm.mem_iff.mp hu)
  exact ⟨h.count, h.known, h.elsewhere⟩

/-- A file in which something is declared is known. -/
theorem Filed.known_of_get? {done : List ParsedUnit} {m : Model} (h : Filed done m) {n : String}
    {d : Declaration} (hd : m.get? n = some d) : ∃ s, m.files.get? d.filePath = some s := by
  have hpos : 0 < countIn m.declarations d.filePath :=
    List.countP_pos_iff.mpr ⟨d, Table.mem_values_iff.mpr ⟨n, hd⟩, by simp⟩
  by_cases hpath : d.filePath ∈ done.map (·.filePath)
  · obtain ⟨u, hu, hup⟩ := List.mem_map.mp hpath
    rw [← hup]
    exact h.known u hu
  · rw [h.elsewhere _ hpath] at hpos
    omega

end CodeAtlas.Model
