/-
  CodeAtlas.Proofs.Ancestry — walking upwards past unknown parents.

  A lineage ends at a declaration without a parent.  In a model that was not assembled the way
  upwards may also end at a parent that nobody declared.  As long as parents run in no circle the
  walk that credits tests still meets every declared ancestor, and each of them once: the names it
  meets are distinct, so there are no more of them than declarations, and the bound on its length is
  never what ends it.

  Main results:
    * `nodup_withEnclosing` — the walk meets no name twice.
    * `mem_withEnclosing_iff` — it meets the declared ancestors, ALL of them.
-/
import Mathlib.Logic.Relation
import CodeAtlas.Proofs.Lineage

namespace CodeAtlas.Model

variable {m : Model}

/-! ## §1. Ancestors -/

/-- Parents run in no circle. -/
def Acyclic (m : Model) : Prop := ∀ n, ¬ Relation.TransGen m.ParentOf n n

/-- A declaration is stored, and parents lead from another one up to it, or it is that one. -/
structure Around (m : Model) (e d : Declaration) : Prop where
  declared : m.get? e.qualifiedName = some e
  reached : Relation.ReflTransGen m.ParentOf e.qualifiedName d.qualifiedName

/-- Parents that are smaller by some measure run in no circle. -/
theorem acyclic_of_measure (size : String → Nat)
    (smaller : ∀ d ∈ m.declarations.values, ∀ p, d.parent = some p → size p < size d.qualifiedName)
    (keyed : m.Keyed) : m.Acyclic := by
  have step : ∀ p c, m.ParentOf p c → size p < size c := by
    rintro p c ⟨d, hd, hp⟩
    rw [← keyed hd]
    exact smaller d (Table.mem_values_iff.mpr ⟨c, hd⟩) p hp
  intro n hcircle
  have hlt : ∀ a b, Relation.TransGen m.ParentOf a b → size a < size b := by
    intro a b h
    induction h with
    | single h => exact step _ _ h
    | tail _ h ih => exact Nat.lt_trans ih (step _ _ h)
  exact Nat.lt_irrefl _ (hlt n n hcircle)

/-! ## §2. The walk upwards -/

section Walk

variable (keyed : m.Keyed) {d : Declaration} (hd : m.get? d.qualifiedName = some d)
include keyed hd

/-- The first step of a walk leads to the parent. -/
theorem parentOf_of_bind {p : Declaration} (hp : d.parent.bind m.get? = some p) :
    m.get? p.qualifiedName = some p ∧ m.ParentOf p.qualifiedName d.qualifiedName := by
  obtain ⟨n, hn, hget⟩ := Option.bind_eq_some_iff.mp hp
  have hname : p.qualifiedName = n := keyed hget
  rw [hname]
  exact ⟨hget, d, hd, hn⟩

/-- What a walk meets is declared, and lies above its start. -/
theorem above_of_mem_enclosing {depth : Nat} {e : Declaration}
    (h : e ∈ Crediting.enclosing m depth d) : m.get? e.qualifiedName = some e ∧
      Relation.TransGen m.ParentOf e.qualifiedName d.qualifiedName := by
  induction depth generalizing d with
  | zero => exact absurd h (by simp [Crediting.enclosing])
  | succ depth ih =>
    unfold Crediting.enclosing at h
    split at h
    next p hp =>
      obtain ⟨hstored, hparent⟩ := parentOf_of_bind keyed hd hp
      rcases List.mem_cons.mp h with rfl | hrest
      · exact ⟨hstored, .single hparent⟩
      · obtain ⟨he, habove⟩ := ih hstored hrest
        exact ⟨he, habove.tail hparent⟩
    next => exact absurd h (by simp)

/-- **A walk meets no name twice**, however long it is allowed to be. -/
theorem nodup_enclosing (acyclic : m.Acyclic) (depth : Nat) :
    ((d :: Crediting.enclosing m depth d).map (·.qualifiedName)).Nodup := by
  induction depth generalizing d with
  | zero => exact List.nodup_singleton _
  | succ depth ih =>
    rw [List.map_cons, List.nodup_cons]
    constructor
    · intro hmem
      obtain ⟨e, he, hname⟩ := List.mem_map.mp hmem
      have habove := (above_of_mem_enclosing keyed hd he).2
      rw [hname] at habove
      exact acyclic _ habove
    · unfold Crediting.enclosing
      split
      next p hp => exact ih (parentOf_of_bind keyed hd hp).1
      next => exact List.nodup_nil

theorem nodup_withEnclosing (acyclic : m.Acyclic) :
    ((Crediting.withEnclosing m d).map (·.qualifiedName)).Nodup :=
  nodup_enclosing keyed hd acyclic _

/-- A walk is shorter than its bound, so something else ends it. -/
theorem length_enclosing_lt (acyclic : m.Acyclic) :
    (Crediting.enclosing m m.declarations.size d).length < m.declarations.size := by
  have hsub : (Crediting.withEnclosing m d).map (·.qualifiedName) ⊆ m.declarations.keys := by
    intro n hn
    obtain ⟨e, he, rfl⟩ := List.mem_map.mp hn
    rcases List.mem_cons.mp he with rfl | he
    · exact Table.mem_keys_iff.mpr ⟨e, hd⟩
    · exact Table.mem_keys_iff.mpr ⟨e, (above_of_mem_enclosing keyed hd he).1⟩
  have hle := (nodup_withEnclosing keyed hd acyclic).length_le_of_subset hsub
  rw [List.length_map, Table.length_keys] at hle
  exact hle

end Walk

/-- A walk that is not cut short goes on as long as there are declared parents. -/
theorem parent_mem_enclosing {depth : Nat} {d e p : Declaration}
    (short : (Crediting.enclosing m depth d).length < depth)
    (he : e ∈ d :: Crediting.enclosing m depth d) (hp : e.parent.bind m.get? = some p) :
    p ∈ Crediting.enclosing m depth d := by
  induction depth generalizing d with
  | zero => exact absurd short (Nat.not_lt_zero _)
  | succ depth ih =>
    cases hup : d.parent.bind m.get? with
    | none =>
      -- the walk ends at its start
      have hnil : Crediting.enclosing m (depth + 1) d = [] := by
        unfold Crediting.enclosing
        rw [hup]
      rw [hnil, List.mem_singleton] at he
      rw [he, hup] at hp
      exact absurd hp (by simp)
    | some q =>
      have hcons : Crediting.enclosing m (depth + 1) d = q :: Crediting.enclosing m depth q := by
        rw [Crediting.enclosing, hup]
      rw [hcons] at short he ⊢
      rcases List.mem_cons.mp he with rfl | he
      · rw [hup] at hp
        rw [Option.some.inj hp]
        exact List.mem_cons_self
      · exact List.mem_cons_of_mem _ (ih (Nat.lt_of_succ_lt_succ short) he)

/-- **The walk that credits tests meets the declared ancestors**, all of them and nothing else. -/
theorem mem_withEnclosing_iff (keyed : m.Keyed) (acyclic : m.Acyclic) {d e : Declaration}
    (hd : m.get? d.qualifiedName = some d) :
    e ∈ Crediting.withEnclosing m d ↔ m.Around e d := by
  constructor
  · intro he
    rcases List.mem_cons.mp he with rfl | he
    · exact ⟨hd, .refl⟩
    · obtain ⟨hstored, habove⟩ := above_of_mem_enclosing keyed hd he
      exact ⟨hstored, habove.to_reflTransGen⟩
  · rintro ⟨hstored, hreached⟩
    -- downwards from `e`: whoever the child is, the walk has met it
    have hmet : ∀ n, Relation.ReflTransGen m.ParentOf n d.qualifiedName →
        ∀ e, m.get? n = some e → e ∈ Crediting.withEnclosing m d := by
      intro n hn
      induction hn using Relation.ReflTransGen.head_induction_on with
      | refl =>
        intro e he
        rw [hd] at he
        rw [← Option.some.inj he]
        exact List.mem_cons_self
      | head hparent _ ih =>
        intro e he
        obtain ⟨child, hchild, hp⟩ := hparent
        have hbind : child.parent.bind m.get? = some e := by
          rw [hp]
          exact he
        exact List.mem_cons_of_mem _
          (parent_mem_enclosing (length_enclosing_lt keyed hd acyclic) (ih child hchild) hbind)
    exact hmet _ hreached e hstored

end CodeAtlas.Model
