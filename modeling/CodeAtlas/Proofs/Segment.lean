/-
  CodeAtlas.Proofs.Segment — openings, endings and last segments.

  A cut of a text is known by the way its parts go together again: an opening or an ending is taken
  off exactly when it can be put back on.  The last segment of a name is what stands behind its last
  separator, so it does not see anything that is put in front of a separator.

  Main results:
    * `dropPrefix?_eq_some_iff`, `dropSuffix?_eq_some_iff` — cuts as equations.
    * `unqualified_member`, `unqualified_qualify` — a name that is put into a container or a
      namespace is the last segment of the result.
    * `unqualified_eq_of_endsAtSegment` — a name has the last segment of its ending.
-/
import CodeAtlas.Extraction.Scope
import CodeAtlas.SymbolTable

namespace CodeAtlas

/-! ## §1. Openings and endings -/

namespace Chars

theorem dropPrefix?_eq_some_iff {opening s rest : List Char} :
    dropPrefix? opening s = some rest ↔ s = opening ++ rest := by
  induction opening generalizing s with
  | nil =>
    unfold dropPrefix?
    rw [Option.some.injEq, List.nil_append]
  | cons o os ih =>
    cases s with
    | nil => simp [dropPrefix?]
    | cons c cs =>
      unfold dropPrefix?
      by_cases hoc : o = c
      · rw [if_pos hoc, ih, hoc, List.cons_append, List.cons.injEq]
        simp
      · rw [if_neg hoc, List.cons_append, List.cons.injEq]
        simp [Ne.symm hoc]

theorem dropSuffix?_eq_some_iff {ending s head : List Char} :
    dropSuffix? ending s = some head ↔ s = head ++ ending := by
  unfold dropSuffix?
  rw [Option.map_eq_some_iff]
  constructor
  · rintro ⟨rest, hrest, rfl⟩
    have hs := dropPrefix?_eq_some_iff.mp hrest
    rw [← List.reverse_reverse s, hs, List.reverse_append, List.reverse_reverse]
  · intro hs
    refine ⟨head.reverse, ?_, List.reverse_reverse head⟩
    rw [dropPrefix?_eq_some_iff, hs, List.reverse_append]

end Chars

namespace Text

theorem dropPrefix?_eq_some_iff {opening s rest : String} :
    dropPrefix? opening s = some rest ↔ s = opening ++ rest := by
  unfold dropPrefix?
  rw [Option.map_eq_some_iff, ← String.toList_inj, String.toList_append]
  constructor
  · intro h
    obtain ⟨cs, hcs, hrest⟩ := h
    rw [← hrest, String.toList_ofList]
    exact Chars.dropPrefix?_eq_some_iff.mp hcs
  · intro hs
    exact ⟨rest.toList, Chars.dropPrefix?_eq_some_iff.mpr hs, String.ofList_toList⟩

theorem dropSuffix?_eq_some_iff {ending s head : String} :
    dropSuffix? ending s = some head ↔ s = head ++ ending := by
  unfold dropSuffix?
  rw [Option.map_eq_some_iff, ← String.toList_inj, String.toList_append]
  constructor
  · intro h
    obtain ⟨cs, hcs, hhead⟩ := h
    rw [← hhead, String.toList_ofList]
    exact Chars.dropSuffix?_eq_some_iff.mp hcs
  · intro hs
    exact ⟨head.toList, Chars.dropSuffix?_eq_some_iff.mpr hs, String.ofList_toList⟩

theorem startsWith_iff {opening s : String} :
    startsWith opening s = true ↔ ∃ rest, s = opening ++ rest := by
  unfold startsWith
  rw [Option.isSome_iff_exists]
  simp only [dropPrefix?_eq_some_iff]

theorem endsWith_iff {ending s : String} :
    endsWith ending s = true ↔ ∃ head, s = head ++ ending := by
  unfold endsWith
  rw [Option.isSome_iff_exists]
  simp only [dropSuffix?_eq_some_iff]

end Text

/-! ## §2. Behind the last separator -/

namespace Chars

variable {p : Char → Bool}

theorem afterLast_of_forall {s : List Char} (h : ∀ c ∈ s, p c = false) : afterLast p s = s := by
  cases s with
  | nil => rfl
  | cons c rest =>
    have hrest : rest.any p = false := by
      rw [List.any_eq_false]
      intro d hd
      simp [h d (List.mem_cons_of_mem c hd)]
    unfold afterLast
    simp [hrest, h c List.mem_cons_self]

/-- What stands in front of a separator does not matter. -/
theorem afterLast_append_cons {sep : Char} (hsep : p sep = true) (front back : List Char) :
    afterLast p (front ++ sep :: back) = afterLast p back := by
  induction front with
  | nil =>
    rw [List.nil_append, afterLast]
    by_cases hback : back.any p = true
    · rw [if_pos hback]
    · -- no other separator follows, so both sides are all of `back`
      rw [if_neg hback, if_pos hsep, afterLast_of_forall]
      intro c hc
      rw [Bool.not_eq_true, List.any_eq_false] at hback
      simpa using hback c hc
  | cons c front ih =>
    have hany : (front ++ sep :: back).any p = true := by simp [hsep]
    rw [List.cons_append, afterLast, if_pos hany, ih]

end Chars

/-! ## §3. Names -/

namespace Name

theorem toList_unqualified (n : String) :
    (unqualified n).toList = Chars.afterLast isSeparator n.toList := String.toList_ofList

theorem unqualified_of_plain {name : String} (plain : ∀ c ∈ name.toList, isSeparator c = false) :
    unqualified name = name := by
  apply String.toList_inj.mp
  rw [toList_unqualified, Chars.afterLast_of_forall plain]

/-- A name has the last segment of what follows one of its separators. -/
theorem unqualified_eq_of_split {n ending : String} {front : List Char} {sep : Char}
    (hsep : isSeparator sep = true) (hsplit : n.toList = front ++ sep :: ending.toList) :
    unqualified n = unqualified ending := by
  apply String.toList_inj.mp
  rw [toList_unqualified, toList_unqualified, hsplit, Chars.afterLast_append_cons hsep]

theorem unqualified_member (container : String) {name : String}
    (plain : ∀ c ∈ name.toList, isSeparator c = false) :
    unqualified (member container name) = name := by
  have hsplit : (member container name).toList = container.toList ++ '.' :: name.toList := by
    simp [member]
  rw [unqualified_eq_of_split (by decide) hsplit, unqualified_of_plain plain]

theorem unqualified_qualify (scope : Scope) {name : String}
    (plain : ∀ c ∈ name.toList, isSeparator c = false) :
    unqualified (scope.qualify name) = name := by
  unfold Scope.qualify
  split
  next => exact unqualified_of_plain plain
  next =>
    have hsplit : (scope.current ++ "\\" ++ name).toList =
        scope.current.toList ++ '\\' :: name.toList := by simp
    rw [unqualified_eq_of_split (by decide) hsplit, unqualified_of_plain plain]

end Name

/-! ## §4. Endings of names -/

namespace SymbolTable

/-- A name ends in another at a segment boundary iff it is that name or has it behind a
separator. -/
theorem endsAtSegment_iff {ending name : String} : endsAtSegment ending name = true ↔
    name = ending ∨ ∃ front sep, Name.isSeparator sep = true ∧
      name.toList = front ++ sep :: ending.toList := by
  unfold endsAtSegment
  rw [Bool.or_eq_true, beq_iff_eq]
  refine or_congr_right ?_
  constructor
  · intro h
    split at h
    next head hhead =>
      have hname := Chars.dropSuffix?_eq_some_iff.mp hhead
      obtain ⟨sep, hlast, hsep⟩ := (Option.any_eq_true _ _).mp h
      obtain ⟨front, hfront⟩ := List.getLast?_eq_some_iff.mp hlast
      refine ⟨front, sep, hsep, ?_⟩
      rw [hname, hfront, List.append_assoc]
      rfl
    next => exact absurd h (by simp)
  · rintro ⟨front, sep, hsep, hname⟩
    have hdrop : Chars.dropSuffix? ending.toList name.toList = some (front ++ [sep]) := by
      rw [Chars.dropSuffix?_eq_some_iff, hname, List.append_assoc]
      rfl
    rw [hdrop]
    simp [hsep]

/-- **A name has the last segment of its ending**, so the index by last segments misses no name that
ends in a given one. -/
theorem unqualified_eq_of_endsAtSegment {ending name : String}
    (h : endsAtSegment ending name = true) : Name.unqualified name = Name.unqualified ending := by
  rcases endsAtSegment_iff.mp h with rfl | ⟨front, sep, hsep, hname⟩
  · rfl
  · exact Name.unqualified_eq_of_split hsep hname

end SymbolTable
end CodeAtlas
