/-
  CodeAtlas.Proofs.TextOrder — the order of texts.

  Texts are compared character by character, by code points.  Their encodings compare the same way,
  byte by byte: the first bytes of longer encodings are larger, and within one length the bytes are
  the digits of the code point, most significant first.  So "increasing" means one thing for a text
  and for its bytes.

  In this order the texts with a given opening stand side by side.  A walk through sorted texts that
  starts at the opening and stops at the first text without it therefore misses none of them.

  Main results:
    * `Text.lt_iff_bytes_lt` — comparing texts is comparing their bytes.
    * `Text.startsWith_of_between` — texts with an opening form an interval that starts at it.
    * `range_eq_filter` — a walk through an interval is a filter.
-/
import CodeAtlas.Proofs.Segment
import CodeAtlas.Text.Utf8

namespace CodeAtlas

/-! ## §1. Bytes -/

namespace Utf8

/-- **A smaller code point has smaller bytes**, whatever follows. -/
theorem encodeCode_append_lt {n k : Nat} (h : n < k) (u v : List Nat) :
    encodeCode n ++ u < encodeCode k ++ v := by
  unfold encodeCode
  simp only [Nat.shiftRight_eq_div_pow]
  -- encodings of different lengths differ in the first byte, the others in some digit
  repeat' split
  all_goals
    simp only [List.cons_append, List.nil_append, List.cons_lt_cons_iff]
    omega

theorem encode_cons (c : Char) (s : List Char) : encode (c :: s) = encodeCode c.toNat ++ encode s :=
  List.flatMap_cons

/-- Every code point has a byte. -/
theorem encodeCode_ne_nil (n : Nat) : encodeCode n ≠ [] := by
  unfold encodeCode
  dsimp only
  repeat' split
  all_goals simp

theorem encode_lt_of_lt {s t : List Char} (h : s < t) : encode s < encode t := by
  induction s generalizing t with
  | nil =>
    cases t with
    | nil => exact absurd h (List.not_lt_nil [])
    | cons d t =>
      obtain ⟨b, bs, hbytes⟩ := List.exists_cons_of_ne_nil (encodeCode_ne_nil d.toNat)
      rw [encode_cons, hbytes]
      exact List.nil_lt_cons b _
  | cons c s ih =>
    cases t with
    | nil => exact absurd h (List.not_lt_nil _)
    | cons d t =>
      rw [encode_cons, encode_cons]
      rcases List.cons_lt_cons_iff.mp h with hlt | ⟨heq, hrest⟩
      · exact encodeCode_append_lt hlt _ _
      · rw [heq]
        exact List.append_left_lt (ih hrest)

end Utf8

namespace Text

/-- The bytes of a text. -/
def bytes (s : String) : List Nat := Utf8.encode s.toList

/-- **Comparing texts is comparing their bytes.** -/
theorem lt_iff_bytes_lt {s t : String} : s < t ↔ bytes s < bytes t := by
  constructor
  · exact Utf8.encode_lt_of_lt
  · intro h
    refine Decidable.byContradiction fun hnot => ?_
    -- otherwise `t` is `s` or smaller, and so are its bytes
    by_cases heq : s = t
    · rw [heq] at h
      exact List.lt_irrefl _ h
    · have hlt : t < s := Key.connex hnot heq
      exact List.lt_irrefl _ (List.lt_trans h (Utf8.encode_lt_of_lt hlt))

end Text

/-! ## §2. Openings -/

namespace Chars

/-- Nothing with an opening is smaller than the opening. -/
theorem not_append_lt (opening rest : List Char) : ¬ opening ++ rest < opening := by
  induction opening with
  | nil => exact List.not_lt_nil _
  | cons o os ih =>
    rw [List.cons_append, List.cons_lt_cons_iff]
    intro h
    rcases h with hlt | ⟨_, hrest⟩
    · exact Char.lt_irrefl o hlt
    · exact ih hrest

/-- What stands between an opening and a text with that opening has it as well. -/
theorem prefix_of_between {opening s rest : List Char} (lower : ¬ s < opening)
    (upper : s < opening ++ rest) : ∃ more, s = opening ++ more := by
  induction opening generalizing s with
  | nil => exact ⟨s, rfl⟩
  | cons o os ih =>
    cases s with
    | nil => exact absurd (List.nil_lt_cons o os) lower
    | cons c cs =>
      rw [List.cons_append, List.cons_lt_cons_iff] at upper
      rw [List.cons_lt_cons_iff, not_or] at lower
      rcases upper with hlt | ⟨heq, hrest⟩
      · exact absurd hlt lower.1
      · obtain ⟨more, hmore⟩ := ih (fun h => lower.2 ⟨heq, h⟩) hrest
        exact ⟨more, by rw [heq, hmore, List.cons_append]⟩

end Chars

namespace Text

theorem not_lt_of_startsWith {opening s : String} (h : startsWith opening s = true) :
    ¬ s < opening := by
  obtain ⟨rest, rfl⟩ := startsWith_iff.mp h
  show ¬ (opening ++ rest).toList < opening.toList
  rw [String.toList_append]
  exact Chars.not_append_lt _ _

/-- **Texts with an opening form an interval.** -/
theorem startsWith_of_between {opening s t : String} (ht : startsWith opening t = true)
    (lower : ¬ s < opening) (upper : s < t) : startsWith opening s = true := by
  obtain ⟨rest, rfl⟩ := startsWith_iff.mp ht
  have hupper : s.toList < opening.toList ++ rest.toList := by
    rw [← String.toList_append]
    exact upper
  obtain ⟨more, hmore⟩ := Chars.prefix_of_between lower hupper
  refine startsWith_iff.mpr ⟨String.ofList more, ?_⟩
  apply String.toList_inj.mp
  rw [hmore, String.toList_append, String.toList_ofList]

end Text

/-! ## §3. Walks through an interval -/

section Walk

variable {α : Type} {below within : α → Bool} {l : List α}

/-- If everything in front of an element that passes passes too, the first failure is the end. -/
theorem takeWhile_eq_filter (closed : l.Pairwise fun a b => within b = true → within a = true) :
    l.takeWhile within = l.filter within := by
  induction l with
  | nil => rfl
  | cons a l ih =>
    obtain ⟨hfirst, hrest⟩ := List.pairwise_cons.mp closed
    by_cases ha : within a = true
    · rw [List.takeWhile_cons_of_pos ha, List.filter_cons_of_pos ha, ih hrest]
    · have hnone : l.filter within = [] := by
        rw [List.filter_eq_nil_iff]
        intro b hb hpass
        exact ha (hfirst b hb hpass)
      rw [List.takeWhile_cons_of_neg ha, List.filter_cons_of_neg ha, hnone]

/-- What is skipped in front would not have passed. -/
theorem filter_dropWhile (apart : ∀ a, below a = true → within a = false) (l : List α) :
    (l.dropWhile below).filter within = l.filter within := by
  induction l with
  | nil => rfl
  | cons a l ih =>
    by_cases ha : below a = true
    · rw [List.dropWhile_cons_of_pos ha, ih, List.filter_cons_of_neg (by simp [apart a ha])]
    · rw [List.dropWhile_cons_of_neg ha]

/-- Behind what is skipped nothing is below. -/
theorem not_below_of_mem_dropWhile
    (initial : l.Pairwise fun a b => below b = true → below a = true) :
    ∀ a ∈ l.dropWhile below, below a = false := by
  induction l with
  | nil => simp
  | cons a l ih =>
    obtain ⟨hfirst, hrest⟩ := List.pairwise_cons.mp initial
    by_cases ha : below a = true
    · rw [List.dropWhile_cons_of_pos ha]
      exact ih hrest
    · rw [List.dropWhile_cons_of_neg ha]
      intro b hb
      rcases List.mem_cons.mp hb with heq | hmem
      · rw [heq]
        simpa using ha
      · cases hbelow : below b with
        | false => rfl
        | true => exact absurd (hfirst b hmem hbelow) ha

/-- **A walk through an interval is a filter.**  Elements that are below come first, and behind them
everything in front of an element of the interval is one, too. -/
theorem range_eq_filter (apart : ∀ a, below a = true → within a = false)
    (initial : l.Pairwise fun a b => below b = true → below a = true)
    (closed : l.Pairwise fun a b => below a = false → within b = true → within a = true) :
    (l.dropWhile below).takeWhile within = l.filter within := by
  rw [← filter_dropWhile apart l]
  apply takeWhile_eq_filter
  refine List.Pairwise.imp_of_mem ?_ (closed.sublist (List.dropWhile_sublist below))
  intro a b ha _ hclosed
  exact hclosed (not_below_of_mem_dropWhile initial a ha)

end Walk
end CodeAtlas
