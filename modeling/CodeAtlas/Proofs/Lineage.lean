/-
  CodeAtlas.Proofs.Lineage — following parents upwards.

  The lineage of a declaration lists the declarations met on the way from it to one without a
  parent.  Not every declaration of an arbitrary model has one: a parent may be unknown, and parents
  may run in a circle.  Where there is a lineage it is unique, repeats no name, and is therefore no
  longer than the model.

  Main results:
    * `Lineage.unique`, `Lineage.nodup`, `Lineage.length_le`.
    * `withEnclosing_eq` — the bounded walk that credits tests finds the WHOLE lineage.
    * `wellFounded_parentOf` — if every declaration has a lineage, parents run in no circle.
-/
import Mathlib.Data.List.Nodup
import CodeAtlas.Overlay.Tests
import CodeAtlas.Proofs.Table

namespace CodeAtlas.Model

variable {m : Model}

/-! ## §1. Lineages -/

/-- Every declaration is stored under its own qualified name. -/
def Keyed (m : Model) : Prop :=
  ∀ ⦃n : String⦄ ⦃d : Declaration⦄, m.get? n = some d → d.qualifiedName = n

/-- The declaration stored under `c` has the parent `p`. -/
def ParentOf (m : Model) (p c : String) : Prop := ∃ d, m.get? c = some d ∧ d.parent = some p

/-- The declarations on the way from a declaration up to one without a parent. -/
inductive Lineage (m : Model) : Declaration → List Declaration → Prop
  | root {d : Declaration} (top : d.parent = none) : Lineage m d [d]
  | step {d e : Declaration} {p : String} {l : List Declaration} (up : d.parent = some p)
      (found : m.get? p = some e) (rest : Lineage m e l) : Lineage m d (d :: l)

theorem mem_values_iff (keyed : m.Keyed) {d : Declaration} :
    d ∈ m.declarations.values ↔ m.get? d.qualifiedName = some d := by
  rw [Table.mem_values_iff]
  constructor
  · rintro ⟨n, hn⟩
    rw [keyed hn]
    exact hn
  · intro h
    exact ⟨_, h⟩

/-- The declarations of a model have the names that they are stored under. -/
theorem map_qualifiedName_values (keyed : m.Keyed) :
    m.declarations.values.map (·.qualifiedName) = m.declarations.keys := by
  unfold Table.values Table.keys
  rw [List.map_map]
  apply List.map_congr_left
  rintro ⟨n, d⟩ he
  exact keyed (Table.mem_toList_iff.mp he)

/-- The declarations of a model are listed in name order. -/
theorem increasing_values (keyed : m.Keyed) :
    m.declarations.values.Pairwise fun d e => d.qualifiedName < e.qualifiedName := by
  have hkeys := m.declarations.increasing_keys
  rw [← map_qualifiedName_values keyed] at hkeys
  exact List.pairwise_map.mp hkeys

namespace Lineage

theorem eq_cons {d : Declaration} {l : List Declaration} (h : m.Lineage d l) :
    ∃ above, l = d :: above := by
  cases h with
  | root => exact ⟨[], rfl⟩
  | step => exact ⟨_, rfl⟩

/-- A lineage starts at its declaration, so no two declarations share one. -/
theorem start_eq {d e : Declaration} {l : List Declaration} (h : m.Lineage d l)
    (h' : m.Lineage e l) : d = e := by
  obtain ⟨_, hl⟩ := h.eq_cons
  obtain ⟨_, hl'⟩ := h'.eq_cons
  rw [hl] at hl'
  exact (List.cons.inj hl').1

/-- A lineage stays one when more is declared. -/
theorem mono {m' : Model} (more : ∀ n d, m.get? n = some d → m'.get? n = some d) {d : Declaration}
    {l : List Declaration} (h : m.Lineage d l) : m'.Lineage d l := by
  induction h with
  | root top => exact .root top
  | step up found _ ih => exact .step up (more _ _ found) ih

/-- A declaration has one lineage at most. -/
theorem unique {d : Declaration} {l l' : List Declaration} (h : m.Lineage d l)
    (h' : m.Lineage d l') : l = l' := by
  induction h generalizing l' with
  | root top =>
    cases h' with
    | root => rfl
    | step up => rw [top] at up; exact absurd up (by simp)
  | step up found _ ih =>
    cases h' with
    | root top => rw [up] at top; exact absurd top (by simp)
    | step up' found' rest' =>
      rw [up] at up'
      injection up' with hp
      subst hp
      rw [found] at found'
      injection found' with he
      subst he
      rw [ih rest']

/-- From any declaration on, a lineage is the lineage of that declaration. -/
theorem drop {d e : Declaration} {below above : List Declaration}
    (h : m.Lineage d (below ++ e :: above)) : m.Lineage e (e :: above) := by
  induction below generalizing d with
  | nil =>
    obtain ⟨_, hl⟩ := h.eq_cons
    have hde : e = d := (List.cons.inj hl).1
    rw [hde] at h ⊢
    exact h
  | cons b below ih =>
    generalize hl : (b :: below) ++ e :: above = l at h
    cases h with
    | root => exact absurd (congrArg List.length hl) (by simp)
    | step _ _ rest =>
      have htail : below ++ e :: above = _ := (List.cons.inj hl).2
      exact ih (htail ▸ rest)

/-- Two neighbours in a lineage are a declaration and its parent. -/
theorem parent_eq (keyed : m.Keyed) {d e f : Declaration} {below above : List Declaration}
    (h : m.Lineage f (below ++ d :: e :: above)) : d.parent = some e.qualifiedName := by
  have hd := h.drop
  generalize hl : d :: e :: above = l at hd
  cases hd with
  | root => exact absurd (congrArg List.length hl) (by simp)
  | step up found rest =>
    obtain ⟨_, hrest⟩ := rest.eq_cons
    have hcons := (List.cons.inj hl).2
    rw [hrest] at hcons
    rw [(List.cons.inj hcons).1, keyed found]
    exact up

/-- A lineage ends at a declaration without a parent. -/
theorem exists_root {d : Declaration} {l : List Declaration} (h : m.Lineage d l) :
    ∃ below e, l = below ++ [e] ∧ e.parent = none := by
  induction h with
  | @root d top => exact ⟨[], d, rfl, top⟩
  | @step d e p l _ _ _ ih =>
    obtain ⟨below, f, hl, htop⟩ := ih
    exact ⟨d :: below, f, by rw [hl]; rfl, htop⟩

/-- All declarations of a lineage are declarations of the model. -/
theorem stored (keyed : m.Keyed) {d : Declaration} {l : List Declaration} (h : m.Lineage d l)
    (hd : m.get? d.qualifiedName = some d) : ∀ e ∈ l, m.get? e.qualifiedName = some e := by
  induction h with
  | root top =>
    intro e he
    rw [List.mem_singleton.mp he]
    exact hd
  | step up found _ ih =>
    intro e he
    rcases List.mem_cons.mp he with rfl | he'
    · exact hd
    · exact ih (by rw [keyed found]; exact found) e he'

/-- **A lineage repeats no name.**  A declaration that came back on its own lineage would have two
lineages, of different lengths. -/
theorem nodup (keyed : m.Keyed) {d : Declaration} {l : List Declaration} (h : m.Lineage d l)
    (hd : m.get? d.qualifiedName = some d) : (l.map (·.qualifiedName)).Nodup := by
  induction h with
  | root top => exact List.nodup_singleton _
  | @step d e p l up found rest ih =>
    have he : m.get? e.qualifiedName = some e := by rw [keyed found]; exact found
    rw [List.map_cons, List.nodup_cons]
    refine ⟨?_, ih he⟩
    intro hmem
    obtain ⟨x, hx, hname⟩ := List.mem_map.mp hmem
    have hxd : x = d := by
      have hget := rest.stored keyed he x hx
      rw [hname, hd] at hget
      injection hget with heq
      exact heq.symm
    subst hxd
    obtain ⟨below, above, hsplit⟩ := List.append_of_mem hx
    have hagain : m.Lineage x (x :: above) := (hsplit ▸ rest).drop
    have hlen := congrArg List.length ((Lineage.step up found rest).unique hagain)
    rw [hsplit] at hlen
    simp at hlen
    omega

/-- **A lineage is no longer than the model.** -/
theorem length_le (keyed : m.Keyed) {d : Declaration} {l : List Declaration} (h : m.Lineage d l)
    (hd : m.get? d.qualifiedName = some d) : l.length ≤ m.declarations.size := by
  have hsub : l.map (·.qualifiedName) ⊆ m.declarations.keys := by
    intro n hn
    obtain ⟨e, he, rfl⟩ := List.mem_map.mp hn
    exact Table.mem_keys_iff.mpr ⟨e, h.stored keyed hd e he⟩
  have hle := (h.nodup keyed hd).length_le_of_subset hsub
  rw [List.length_map, Table.length_keys] at hle
  exact hle

end Lineage

/-! ## §2. Walks along parents -/

/-- Enough steps upwards meet the whole lineage. -/
theorem enclosing_eq {d : Declaration} {l : List Declaration} (h : m.Lineage d l) :
    ∀ depth, l.length ≤ depth + 1 → d :: Crediting.enclosing m depth d = l := by
  induction h with
  | root top =>
    intro depth _
    cases depth with
    | zero => rfl
    | succ depth =>
      unfold Crediting.enclosing
      rw [top]
      rfl
  | @step d e p l up found rest ih =>
    intro depth hdepth
    obtain ⟨above, hl⟩ := rest.eq_cons
    cases depth with
    | zero =>
      rw [hl] at hdepth
      simp at hdepth
    | succ depth =>
      have hrest := ih depth (by simpa using hdepth)
      have hup : d.parent.bind m.get? = some e := by rw [up]; exact found
      unfold Crediting.enclosing
      rw [hup]
      show d :: e :: Crediting.enclosing m depth e = d :: l
      rw [hrest]

/-- **The walk that credits tests meets the whole lineage**: its bound never cuts it short. -/
theorem withEnclosing_eq (keyed : m.Keyed) {d : Declaration} {l : List Declaration}
    (h : m.Lineage d l) (hd : m.get? d.qualifiedName = some d) :
    Crediting.withEnclosing m d = l :=
  enclosing_eq h _ (Nat.le_succ_of_le (h.length_le keyed hd))

/-- Where every declaration has a lineage, no infinite way leads upwards. -/
theorem wellFounded_parentOf
    (all : ∀ ⦃n : String⦄ ⦃d : Declaration⦄, m.get? n = some d → ∃ l, m.Lineage d l) :
    WellFounded m.ParentOf := by
  have acc : ∀ {d l}, m.Lineage d l → ∀ n, m.get? n = some d → Acc m.ParentOf n := by
    intro d l h
    induction h with
    | root top =>
      intro n hn
      constructor
      rintro p ⟨d', hd', hp⟩
      rw [hn] at hd'
      injection hd' with heq
      rw [← heq, top] at hp
      exact absurd hp (by simp)
    | step up found _ ih =>
      intro n hn
      constructor
      rintro p ⟨d', hd', hp⟩
      rw [hn] at hd'
      injection hd' with heq
      rw [← heq, up] at hp
      injection hp with hp
      subst hp
      exact ih _ found
  constructor
  intro n
  cases hn : m.get? n with
  | some d =>
    obtain ⟨l, hl⟩ := all hn
    exact acc hl n hn
  | none =>
    constructor
    rintro p ⟨d, hd, _⟩
    rw [hn] at hd
    exact absurd hd (by simp)

end CodeAtlas.Model
