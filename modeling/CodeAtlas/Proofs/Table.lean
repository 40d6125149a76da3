/-
  CodeAtlas.Proofs.Table — the laws of finite maps.

  A table is known by its look-ups: `Table.ext_get?` makes two tables equal that answer every
  look-up alike, so that filling a table in another order is a matter of look-ups only.  Every view
  (entries, keys, values) is described by look-ups, and every operation says what it does to them.
-/
import Mathlib.Data.List.Nodup
import CodeAtlas.Table

namespace CodeAtlas

variable {κ α β : Type} [LT κ] [DecidableLT κ] [DecidableEq κ]

/-! ## §1. Entry lists -/

namespace Entries

@[simp] theorem get?_insert (k k' : κ) (v : α) (l : List (κ × α)) :
    get? k' (insert k v l) = if k' = k then some v else get? k' l := by
  induction l with
  | nil => simp [insert, get?]
  | cons e rest ih =>
    rw [insert]
    split
    next => simp [get?]
    next hlt =>
      split
      next heq =>
        subst heq
        simp only [get?]
        split <;> rfl
      next hne =>
        -- the entry stays where it is; only the rest may change
        simp only [get?, ih]
        by_cases he : k' = e.1
        · have : k' ≠ k := fun hk => hne (hk ▸ he)
          rw [if_pos he, if_neg this, if_pos he]
        · rw [if_neg he, if_neg he]

omit [LT κ] [DecidableLT κ] in
theorem mem_of_get? {k : κ} {v : α} {l : List (κ × α)} (h : get? k l = some v) : (k, v) ∈ l := by
  induction l with
  | nil => exact absurd h (by simp [get?])
  | cons e rest ih =>
    rw [get?] at h
    split at h
    next heq =>
      injection h with hv
      subst heq hv
      exact List.mem_cons_self
    next => exact List.mem_cons_of_mem _ (ih h)

omit [DecidableLT κ] in
theorem get?_of_mem [Key κ] {k : κ} {v : α} {l : List (κ × α)} (ordered : Ordered l)
    (h : (k, v) ∈ l) : get? k l = some v := by
  induction l with
  | nil => exact absurd h (by simp)
  | cons e rest ih =>
    obtain ⟨first, tail⟩ := List.pairwise_cons.mp ordered
    rw [get?]
    rcases List.mem_cons.mp h with rfl | hmem
    · exact if_pos rfl
    · have hlt : e.1 < k := first (k, v) hmem
      have hne : k ≠ e.1 := fun heq => Key.irrefl k (heq ▸ hlt)
      rw [if_neg hne]
      exact ih tail hmem

/-- An entry under a new key is one entry more. -/
theorem insert_perm {k : κ} {v : α} {l : List (κ × α)} (fresh : get? k l = none) :
    (insert k v l).Perm ((k, v) :: l) := by
  induction l with
  | nil => exact List.Perm.refl _
  | cons e rest ih =>
    rw [get?] at fresh
    split at fresh
    next => exact absurd fresh (by simp)
    next hne =>
      rw [insert]
      split
      next => exact List.Perm.refl _
      next => exact ((ih fresh).cons e).trans (List.Perm.swap _ _ _)

end Entries

/-! ## §2. Look-ups -/

namespace Table

omit [DecidableLT κ] in
@[simp] theorem get?_empty (k : κ) : (∅ : Table κ α).get? k = none := rfl

@[simp] theorem get?_insert [Key κ] (t : Table κ α) (k k' : κ) (v : α) :
    (t.insert k v).get? k' = if k' = k then some v else t.get? k' :=
  Entries.get?_insert k k' v t.entries

/-- Under a new key nothing that was there is lost. -/
theorem get?_insert_of_some [Key κ] {t : Table κ α} {k k' : κ} {v v' : α} (free : t.get? k = none)
    (h : t.get? k' = some v') : (t.insert k v).get? k' = some v' := by
  have hne : k' ≠ k := by
    intro heq
    rw [heq, free] at h
    exact absurd h (by simp)
  rw [get?_insert, if_neg hne]
  exact h

@[simp] theorem get?_upsert [Key κ] (t : Table κ α) (k k' : κ) (f : Option α → α) :
    (t.upsert k f).get? k' = if k' = k then some (f (t.get? k)) else t.get? k' :=
  get?_insert t k k' _

omit [DecidableLT κ] in
@[simp] theorem get?_map (t : Table κ α) (f : α → β) (k : κ) :
    (t.map f).get? k = (t.get? k).map f := by
  unfold Table.get? Table.map
  show Entries.get? k (t.entries.map fun e => (e.1, f e.2)) = _
  induction t.entries with
  | nil => rfl
  | cons e rest ih =>
    rw [List.map_cons, Entries.get?, Entries.get?]
    split
    · rfl
    · exact ih

omit [DecidableLT κ] in
theorem contains_iff {t : Table κ α} {k : κ} : t.contains k = true ↔ ∃ v, t.get? k = some v :=
  Option.isSome_iff_exists

/-! ## §3. Views -/

omit [DecidableLT κ] in
theorem mem_toList_iff [Key κ] {t : Table κ α} {k : κ} {v : α} :
    (k, v) ∈ t.toList ↔ t.get? k = some v :=
  ⟨Entries.get?_of_mem t.ordered, Entries.mem_of_get?⟩

omit [DecidableLT κ] in
theorem mem_keys_iff [Key κ] {t : Table κ α} {k : κ} : k ∈ t.keys ↔ ∃ v, t.get? k = some v := by
  unfold Table.keys
  rw [List.mem_map]
  constructor
  · rintro ⟨⟨k', v⟩, hmem, rfl⟩
    exact ⟨v, mem_toList_iff.mp hmem⟩
  · rintro ⟨v, hv⟩
    exact ⟨(k, v), mem_toList_iff.mpr hv, rfl⟩

omit [DecidableLT κ] in
theorem mem_values_iff [Key κ] {t : Table κ α} {v : α} :
    v ∈ t.values ↔ ∃ k, t.get? k = some v := by
  unfold Table.values
  rw [List.mem_map]
  constructor
  · rintro ⟨⟨k, v'⟩, hmem, rfl⟩
    exact ⟨k, mem_toList_iff.mp hmem⟩
  · rintro ⟨k, hk⟩
    exact ⟨(k, v), mem_toList_iff.mpr hk, rfl⟩

omit [DecidableLT κ] [DecidableEq κ] in
theorem increasing_keys (t : Table κ α) : t.keys.Pairwise (· < ·) :=
  List.pairwise_map.mpr t.ordered

omit [DecidableLT κ] [DecidableEq κ] in
theorem nodup_keys [Key κ] (t : Table κ α) : t.keys.Nodup := by
  refine t.increasing_keys.imp ?_
  intro a b hlt heq
  exact Key.irrefl b (heq ▸ hlt)

omit [DecidableLT κ] [DecidableEq κ] in
theorem length_keys (t : Table κ α) : t.keys.length = t.size := List.length_map ..

/-- A value under a new key is one value more. -/
theorem values_insert_perm [Key κ] {t : Table κ α} {k : κ} (v : α) (fresh : t.get? k = none) :
    (t.insert k v).values.Perm (v :: t.values) :=
  (Entries.insert_perm fresh).map Prod.snd

omit [DecidableLT κ] in
/-- **A table is known by its look-ups.** -/
theorem ext_get? [Key κ] {s t : Table κ α} (h : ∀ k, s.get? k = t.get? k) : s = t := by
  apply Table.ext
  have nodup : ∀ u : Table κ α, u.entries.Nodup := fun u => List.Nodup.of_map _ u.nodup_keys
  have same : ∀ e, e ∈ s.entries ↔ e ∈ t.entries := by
    rintro ⟨k, v⟩
    show (k, v) ∈ s.toList ↔ (k, v) ∈ t.toList
    rw [mem_toList_iff, mem_toList_iff, h k]
  refine List.Perm.eq_of_pairwise ?_ s.ordered t.ordered
    ((List.perm_ext_iff_of_nodup (nodup s) (nodup t)).mpr same)
  intro a b _ _ hab hba
  exact absurd (Key.trans hab hba) (Key.irrefl a.1)

omit [DecidableLT κ] in
/-- What is collected from the entries of one key only. -/
theorem flatMap_toList_of_key [Key κ] (t : Table κ α) (k : κ) {f : κ × α → List β}
    (other : ∀ e ∈ t.toList, e.1 ≠ k → f e = []) :
    t.toList.flatMap f = ((t.get? k).map fun v => f (k, v)).getD [] := by
  cases hk : t.get? k with
  | none =>
    rw [Option.map_none, Option.getD_none, List.flatMap_eq_nil_iff]
    rintro ⟨k', v⟩ he
    apply other _ he
    rintro rfl
    rw [mem_toList_iff, hk] at he
    exact absurd he (by simp)
  | some v =>
    rw [Option.map_some, Option.getD_some]
    obtain ⟨before, after, hsplit⟩ := List.append_of_mem (mem_toList_iff.mpr hk)
    -- no other entry has the key
    have hnone : ∀ e ∈ before ++ after, f e = [] := by
      intro e he
      have hkeys : (t.toList.map (·.1)).Nodup := t.nodup_keys
      rw [hsplit, List.map_append, List.map_cons] at hkeys
      have hfresh := (List.nodup_middle.mp hkeys).notMem
      apply other e
      · rw [hsplit]
        rcases List.mem_append.mp he with h | h
        · exact List.mem_append_left _ h
        · exact List.mem_append_right _ (List.mem_cons_of_mem _ h)
      · rintro rfl
        rw [← List.map_append] at hfresh
        exact hfresh (List.mem_map.mpr ⟨e, he, rfl⟩)
    rw [hsplit, List.flatMap_append, List.flatMap_cons,
      List.flatMap_eq_nil_iff.mpr fun e he => hnone e (List.mem_append_left _ he),
      List.flatMap_eq_nil_iff.mpr fun e he => hnone e (List.mem_append_right _ he),
      List.nil_append, List.append_nil]

/-! ## §4. Tables filled group by group -/

end Table

/-- What is computed from a group of elements.  A group without elements has no value. -/
def groupValue (f : List α → β) (l : List α) : Option β := if l = [] then none else some (f l)

@[simp] theorem groupValue_nil (f : List α → β) : groupValue f [] = none := rfl

@[simp] theorem groupValue_concat (f : List α → β) (l : List α) (a : α) :
    groupValue f (l ++ [a]) = some (f (l ++ [a])) := if_neg (by simp)

/-- A group without elements counts as `b`, if that is what `f` makes of it. -/
theorem getD_groupValue {f : List α → β} {b : β} (hb : f [] = b) (l : List α) :
    (groupValue f l).getD b = f l := by
  unfold groupValue
  split
  next hnil => rw [hnil, hb]; rfl
  next => rfl

theorem groupValue_eq_some_iff {f : List α → β} {l : List α} {b : β} :
    groupValue f l = some b ↔ l ≠ [] ∧ f l = b := by
  unfold groupValue
  by_cases h : l = [] <;> simp [h]

theorem map_groupValue {γ : Type} (g : β → γ) (f : List α → β) (l : List α) :
    (groupValue f l).map g = groupValue (fun l => g (f l)) l := by
  unfold groupValue
  split <;> rfl

theorem groupValue_perm {f : List α → β} (blind : ∀ {l l' : List α}, l.Perm l' → f l = f l')
    {l l' : List α} (h : l.Perm l') : groupValue f l = groupValue f l' := by
  have hnil : l = [] ↔ l' = [] := by
    rw [← List.length_eq_zero_iff, ← List.length_eq_zero_iff, h.length_eq]
  unfold groupValue
  simp only [hnil, blind h]

/-! ## §5. Groups and all of their elements -/

/-- What satisfies one of two conditions that exclude each other. -/
theorem filter_or_perm {p q : α → Bool} (disjoint : ∀ a, p a = true → q a = false)
    (l : List α) : (l.filter p ++ l.filter q).Perm (l.filter fun a => p a || q a) := by
  have hparts := List.filter_append_perm p (l.filter fun a => p a || q a)
  rw [List.filter_filter, List.filter_filter] at hparts
  have hfirst : ∀ a ∈ l, (p a && (p a || q a)) = p a := by
    intro a _
    cases p a <;> simp
  have hsecond : ∀ a ∈ l, (!p a && (p a || q a)) = q a := by
    intro a _
    cases hp : p a with
    | false => simp
    | true => simp [disjoint a hp]
  rw [List.filter_congr hfirst, List.filter_congr hsecond] at hparts
  exact hparts

/-- **Groups that do not overlap make up what is in any of them.** -/
theorem flatMap_filter_perm {ks : List β} (distinct : ks.Nodup) {select : β → α → Bool}
    (single : ∀ a j k, select j a = true → select k a = true → j = k) (l : List α) :
    (ks.flatMap fun k => l.filter (select k)).Perm
      (l.filter fun a => ks.any fun k => select k a) := by
  induction ks with
  | nil => simp
  | cons k ks ih =>
    obtain ⟨hk, hks⟩ := List.nodup_cons.mp distinct
    rw [List.flatMap_cons]
    refine ((ih hks).append_left (l.filter (select k))).trans ?_
    refine filter_or_perm ?_ l
    -- `k` is not among the others, so what belongs to it belongs to none of them
    intro a ha
    rw [List.any_eq_false]
    intro j hj hja
    exact hk (single a k j ha hja ▸ hj)

end CodeAtlas
