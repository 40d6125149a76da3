/-
  CodeAtlas.Proofs.Order — what sorting forgets.

  A sorted list depends on the elements that went in and not on their order, provided that elements
  which compare equal are equal.  A sorted list without repeats depends on even less: on which
  elements went in.

  Main results:
    * `sortBy_eq_of_perm` — sorting two arrangements of the same elements gives one list.
    * `sortDistinct_eq_of_mem_iff` — sorting without repeats is a function of the SET of elements.
    * `increasing_sortDistinct` — its result is strictly increasing.

  The orders of mentions, warnings, test cases and test subjects are shown to tell any two
  different elements apart, so that all of this applies to them.
-/
import Mathlib.Data.List.Nodup
import CodeAtlas.Metric
import CodeAtlas.Reference
import CodeAtlas.TestSubject
import CodeAtlas.Warning

namespace CodeAtlas

variable {α β : Type} {cmp : α → α → Ordering}

/-! ## §1. Sorting -/

theorem sortBy_perm (cmp : α → α → Ordering) (l : List α) : (sortBy cmp l).Perm l :=
  List.mergeSort_perm l _

@[simp] theorem mem_sortBy {a : α} {l : List α} : a ∈ sortBy cmp l ↔ a ∈ l :=
  (sortBy_perm cmp l).mem_iff

theorem pairwise_sortBy [Std.TransCmp cmp] (l : List α) :
    (sortBy cmp l).Pairwise fun a b => (cmp a b).isLE := by
  unfold sortBy
  apply List.pairwise_mergeSort
  · intro a b c hab hbc
    exact Std.TransCmp.isLE_trans hab hbc
  · intro a b
    rw [Bool.or_eq_true]
    have hswap : cmp b a = (cmp a b).swap := Std.OrientedCmp.eq_swap
    rw [hswap]
    cases cmp a b <;> simp

/-- **Sorting forgets the order of its input**, if only equal elements compare equal. -/
theorem sortBy_eq_of_perm [Std.TransCmp cmp] {l l' : List α} (h : l.Perm l')
    (inj : ∀ a ∈ l, ∀ b ∈ l, cmp a b = .eq → a = b) : sortBy cmp l = sortBy cmp l' := by
  have hperm : (sortBy cmp l).Perm (sortBy cmp l') :=
    (sortBy_perm cmp l).trans (h.trans (sortBy_perm cmp l').symm)
  apply List.Perm.eq_of_pairwise _ (pairwise_sortBy l) (pairwise_sortBy l') hperm
  intro a b ha hb hab hba
  have hb' : b ∈ l := h.mem_iff.mpr (mem_sortBy.mp hb)
  exact inj a (mem_sortBy.mp ha) b hb' (Std.OrientedCmp.isLE_antisymm hab hba)

/-- Strictly increasing elements are what sorting makes of any arrangement of them. -/
theorem sortBy_eq_of_increasing [Std.TransCmp cmp] {l l' : List α} (h : l.Perm l')
    (increasing : l'.Pairwise fun a b => cmp a b = .lt) : sortBy cmp l = l' := by
  have hself : sortBy cmp l' = l' := by
    apply List.mergeSort_of_pairwise
    refine increasing.imp ?_
    intro a b hab
    rw [hab]
    rfl
  -- of two different elements one is smaller, so they do not compare equal
  have hinj : ∀ a ∈ l', ∀ b ∈ l', cmp a b = .eq → a = b := by
    apply List.Pairwise.forall_of_forall_of_flip
    · intro a _ _
      rfl
    · refine increasing.imp ?_
      intro a b hab heq
      rw [hab] at heq
      exact absurd heq (by decide)
    · refine increasing.imp ?_
      intro a b hab heq
      have hgt : cmp b a = .gt := Std.OrientedCmp.gt_of_lt hab
      rw [hgt] at heq
      exact absurd heq (by decide)
  exact (sortBy_eq_of_perm h.symm hinj).symm.trans hself

/-- Elements with different keys have one sorted arrangement. -/
theorem sortBy_compareOn_eq_of_perm [Ord β] [Std.TransOrd β] [Std.LawfulEqOrd β] {key : α → β}
    {l l' : List α} (h : l.Perm l') (distinct : (l.map key).Nodup) :
    sortBy (compareOn key) l = sortBy (compareOn key) l' := by
  apply sortBy_eq_of_perm h
  intro a ha b hb hab
  have hkey : key a = key b := Std.LawfulEqCmp.eq_of_compare hab
  exact List.inj_on_of_nodup_map distinct ha hb hkey

/-- Texts that compare as smaller or equal, and differ, are smaller. -/
theorem lt_of_isLE_compare {s t : String} (hle : (compare s t).isLE) (hne : s ≠ t) : s < t := by
  have hcompare : compare s t = compareOfLessAndEq s t := rfl
  rw [hcompare] at hle
  unfold compareOfLessAndEq at hle
  split at hle
  next hlt => exact hlt
  next => exact absurd hle (by decide)

theorem compare_eq_lt_iff {s t : String} : compare s t = .lt ↔ s < t := by
  show compareOfLessAndEq s t = .lt ↔ s < t
  unfold compareOfLessAndEq
  by_cases h : s < t
  · simp [h]
  · by_cases heq : s = t <;> simp [h, heq]

/-! ## §2. Sorting without repeats -/

variable [DecidableEq α]

@[simp] theorem mem_dropRepeats {a : α} {l : List α} : a ∈ dropRepeats l ↔ a ∈ l := by
  fun_induction dropRepeats l with
  | case1 => rfl
  | case2 => rfl
  | case3 x rest ih =>
    rw [ih]
    simp
  | case4 x y rest hne ih =>
    rw [List.mem_cons, ih, List.mem_cons (b := x)]

/-- Dropping repeats turns a sorted list into a strictly increasing one. -/
theorem increasing_dropRepeats [Std.TransCmp cmp] [Std.LawfulEqCmp cmp] {l : List α}
    (sorted : l.Pairwise fun a b => (cmp a b).isLE) :
    (dropRepeats l).Pairwise fun a b => cmp a b = .lt := by
  fun_induction dropRepeats l with
  | case1 => exact List.Pairwise.nil
  | case2 x => exact List.pairwise_singleton _ x
  | case3 x rest ih => exact ih sorted.tail
  | case4 x y rest hne ih =>
    obtain ⟨hx, htail⟩ := List.pairwise_cons.mp sorted
    refine List.pairwise_cons.mpr ⟨?_, ih htail⟩
    intro b hb
    -- `x` lies strictly below its neighbour, and its neighbour below all that follows
    have hxy : cmp x y = .lt := by
      have hle := hx y List.mem_cons_self
      cases hc : cmp x y with
      | lt => rfl
      | eq => exact absurd (Std.LawfulEqCmp.eq_of_compare hc) hne
      | gt => rw [hc] at hle; exact absurd hle (by decide)
    rcases List.mem_cons.mp (mem_dropRepeats.mp hb) with rfl | hb'
    · exact hxy
    · exact Std.TransCmp.lt_of_lt_of_isLE hxy ((List.pairwise_cons.mp htail).1 b hb')

@[simp] theorem mem_sortDistinct {a : α} {l : List α} : a ∈ sortDistinct cmp l ↔ a ∈ l := by
  unfold sortDistinct
  rw [mem_dropRepeats, mem_sortBy]

theorem increasing_sortDistinct [Std.TransCmp cmp] [Std.LawfulEqCmp cmp] (l : List α) :
    (sortDistinct cmp l).Pairwise fun a b => cmp a b = .lt :=
  increasing_dropRepeats (pairwise_sortBy l)

omit [DecidableEq α] in
theorem nodup_of_increasing [Std.OrientedCmp cmp] {l : List α}
    (h : l.Pairwise fun a b => cmp a b = .lt) : l.Nodup := by
  refine h.imp ?_
  intro a b hab heq
  subst heq
  exact Std.OrientedCmp.not_lt_of_lt hab hab

omit [DecidableEq α] in
/-- A strictly increasing list is determined by its elements. -/
theorem eq_of_increasing [Std.OrientedCmp cmp] {l l' : List α}
    (h : l.Pairwise fun a b => cmp a b = .lt) (h' : l'.Pairwise fun a b => cmp a b = .lt)
    (same : ∀ a, a ∈ l ↔ a ∈ l') : l = l' := by
  have hperm : l.Perm l' :=
    (List.perm_ext_iff_of_nodup (nodup_of_increasing h) (nodup_of_increasing h')).mpr same
  refine List.Perm.eq_of_pairwise ?_ h h' hperm
  intro a b _ _ hab hba
  exact absurd hba (Std.OrientedCmp.not_lt_of_lt hab)

/-- **Sorting without repeats is a function of the set of elements.** -/
theorem sortDistinct_eq_of_mem_iff [Std.TransCmp cmp] [Std.LawfulEqCmp cmp] {l l' : List α}
    (same : ∀ a, a ∈ l ↔ a ∈ l') : sortDistinct cmp l = sortDistinct cmp l' := by
  apply eq_of_increasing (increasing_sortDistinct l) (increasing_sortDistinct l')
  intro a
  rw [mem_sortDistinct, mem_sortDistinct]
  exact same a

theorem sortDistinct_eq_of_perm [Std.TransCmp cmp] [Std.LawfulEqCmp cmp] {l l' : List α}
    (h : l.Perm l') : sortDistinct cmp l = sortDistinct cmp l' :=
  sortDistinct_eq_of_mem_iff fun _ => h.mem_iff

/-- Where nothing is there twice, nothing is lost. -/
theorem sortDistinct_perm [Std.TransCmp cmp] [Std.LawfulEqCmp cmp] {l : List α} (h : l.Nodup) :
    (sortDistinct cmp l).Perm l := by
  have hsorted : (sortDistinct cmp l).Nodup := nodup_of_increasing (increasing_sortDistinct l)
  rw [List.perm_ext_iff_of_nodup hsorted h]
  intro a
  exact mem_sortDistinct

/-! ## §3. The orders of the library tell different elements apart -/

omit [DecidableEq α] in
theorem compareOn_eq_iff [Ord β] [Std.LawfulEqOrd β] {f : α → β} {a b : α} :
    compareOn f a b = .eq ↔ f a = f b := by
  unfold compareOn
  exact Std.LawfulEqCmp.compare_eq_iff_eq

theorem ReferenceKind.rank_inj {k k' : ReferenceKind} (h : k.rank = k'.rank) : k = k' := by
  cases k <;> cases k' <;> simp_all [ReferenceKind.rank]

theorem WarningKind.rank_inj {k k' : WarningKind} (h : k.rank = k'.rank) : k = k' := by
  cases k <;> cases k' <;> simp_all [WarningKind.rank]

theorem Outcome.rank_inj {o o' : Outcome} (h : o.rank = o'.rank) : o = o' := by
  cases o <;> cases o' <;> simp_all [Outcome.rank]

instance : Std.TransCmp Mention.order := by
  unfold Mention.order
  infer_instance

instance : Std.LawfulEqCmp Mention.order where
  eq_of_compare {a b} h := by
    simp only [Mention.order, compareLex_eq_eq, compareOn_eq_iff] at h
    obtain ⟨hsource, hname, hhint, hrank, hline⟩ := h
    have hkind := ReferenceKind.rank_inj hrank
    cases a
    cases b
    simp_all

instance : Std.TransCmp Warning.order := by
  unfold Warning.order
  infer_instance

instance : Std.LawfulEqCmp Warning.order where
  eq_of_compare {a b} h := by
    simp only [Warning.order, compareLex_eq_eq, compareOn_eq_iff] at h
    obtain ⟨hrank, hpath, hline, hmessage⟩ := h
    have hkind := WarningKind.rank_inj hrank
    cases a
    cases b
    simp_all

instance : Std.TransCmp TestCase.order := by
  unfold TestCase.order
  infer_instance

instance : Std.LawfulEqCmp TestCase.order where
  eq_of_compare {a b} h := by
    simp only [TestCase.order, compareLex_eq_eq, compareOn_eq_iff] at h
    obtain ⟨hlabel, hrank⟩ := h
    have houtcome := Outcome.rank_inj hrank
    cases a
    cases b
    simp_all

/-- The fields of a subject, locations marked by a lower number than units. -/
def TestSubject.fields : TestSubject → Nat × String × Nat × Option String
  | location path line => (0, path, line, none)
  | unit name member => (1, name, 0, member)

theorem TestSubject.fields_inj {s t : TestSubject} (h : s.fields = t.fields) : s = t := by
  cases s <;> cases t <;> simp_all [TestSubject.fields]

/-- The order of subjects compares their fields one after the other. -/
theorem TestSubject.order_eq : TestSubject.order =
    compareLex (compareOn (·.fields.1)) (compareLex (compareOn (·.fields.2.1))
      (compareLex (compareOn (·.fields.2.2.1)) (compareOn (·.fields.2.2.2)))) := by
  funext s t
  cases s <;> cases t <;>
    simp [TestSubject.order, TestSubject.fields, compareLex, compareOn] <;> rfl

instance : Std.TransCmp TestSubject.order := by
  rw [TestSubject.order_eq]
  infer_instance

instance : Std.LawfulEqCmp TestSubject.order where
  eq_of_compare {s t} h := by
    simp only [TestSubject.order_eq, compareLex_eq_eq, compareOn_eq_iff] at h
    obtain ⟨hmark, hfirst, hline, hmember⟩ := h
    apply TestSubject.fields_inj
    ext1
    · exact hmark
    · exact Prod.ext hfirst (Prod.ext hline hmember)

end CodeAtlas
