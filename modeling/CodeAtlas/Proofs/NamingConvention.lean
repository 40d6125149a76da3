/-
  CodeAtlas.Proofs.NamingConvention — tests that are named after what they exercise.

  The class of a test is the unit with `Test` behind it, below any namespace.  Its method is `test`,
  any number of underscores and the member, whose first letter may be capital, and a data set may
  follow behind a blank.  Names that are made in this way are read back to the unit and the member
  they were made of, and a class without such a unit tells nothing at all.

  Main results:
    * `unitOf?_eq_some_iff` — the unit of a class, by the way the class name is put together.
    * `memberOf?_method` — the member of a method name.
    * `reads_convention` — both together, and which classes are no test of a unit.
-/
import CodeAtlas.Proofs.Blank
import CodeAtlas.Proofs.Segment
import CodeAtlas.TestSubject

namespace CodeAtlas.TestSubject

/-! ## §1. Segments of class names -/

/-- What can stand in front of the last segment of a class name: nothing, or a text that ends in a
separator. -/
def Qualifies (front : String) : Prop :=
  front = "" ∨ ∃ sep, front.toList.getLast? = some sep ∧ Name.isSeparator sep = true

/-- `segment` is the last segment of a class name. -/
structure EndsIn (className segment : String) : Prop where
  split : ∃ front, Qualifies front ∧ className = front ++ segment
  plain : ∀ c ∈ segment.toList, Name.isSeparator c = false

/-- The last segment is what stands behind the last separator. -/
theorem EndsIn.afterLast_eq {className segment : String} (h : EndsIn className segment) :
    Chars.afterLast Name.isSeparator className.toList = segment.toList := by
  obtain ⟨front, hfront, rfl⟩ := h.split
  rw [String.toList_append]
  rcases hfront with rfl | ⟨sep, hlast, hsep⟩
  · exact Chars.afterLast_of_forall h.plain
  · obtain ⟨head, hhead⟩ := List.getLast?_eq_some_iff.mp hlast
    rw [hhead, List.append_assoc, List.singleton_append, Chars.afterLast_append_cons hsep,
      Chars.afterLast_of_forall h.plain]

theorem exists_split_afterLast (p : Char → Bool) (s : List Char) :
    ∃ front, s = front ++ Chars.afterLast p s ∧
      (front = [] ∨ ∃ sep, front.getLast? = some sep ∧ p sep = true) ∧
      ∀ c ∈ Chars.afterLast p s, p c = false := by
  induction s with
  | nil => exact ⟨[], rfl, .inl rfl, by simp [Chars.afterLast]⟩
  | cons c s ih =>
    rw [Chars.afterLast]
    by_cases hany : s.any p = true
    · -- the last separator stands further behind
      obtain ⟨front, hsplit, hfront, hplain⟩ := ih
      rw [if_pos hany]
      refine ⟨c :: front, by rw [List.cons_append, ← hsplit], .inr ?_, hplain⟩
      rcases hfront with rfl | ⟨sep, hlast, hsep⟩
      · rw [List.nil_append] at hsplit
        rw [← hsplit] at hplain
        obtain ⟨d, hd, hpd⟩ := List.any_eq_true.mp hany
        exact absurd hpd (by simp [hplain d hd])
      · exact ⟨sep, by rw [List.getLast?_cons, hlast]; rfl, hsep⟩
    · have hrest : ∀ d ∈ s, p d = false := by simpa using hany
      rw [if_neg hany]
      by_cases hc : p c = true
      · rw [if_pos hc]
        exact ⟨[c], rfl, .inr ⟨c, rfl, hc⟩, hrest⟩
      · rw [if_neg hc]
        refine ⟨[], rfl, .inl rfl, fun d hd => ?_⟩
        rcases List.mem_cons.mp hd with rfl | hd
        · simpa using hc
        · exact hrest d hd

/-- Every class name has a last segment. -/
theorem exists_endsIn (className : String) : ∃ segment, EndsIn className segment := by
  obtain ⟨front, hsplit, hfront, hplain⟩ :=
    exists_split_afterLast Name.isSeparator className.toList
  refine ⟨String.ofList (Chars.afterLast Name.isSeparator className.toList),
    ⟨String.ofList front, ?_, ?_⟩, by simpa using hplain⟩
  · rcases hfront with rfl | hsep
    · exact .inl rfl
    · exact .inr (by simpa using hsep)
  · apply String.toList_inj.mp
    simpa using hsplit

/-! ## §2. Units -/

theorem unitOf?_eq (className : List Char) : unitOf? className =
    (Chars.dropSuffix? "Test".toList (Chars.afterLast Name.isSeparator className)).filter
      fun u => !u.isEmpty := by
  have hsame : (fun c => c == '\\' || c == '.') = Name.isSeparator := by
    funext c
    exact Bool.or_comm _ _
  unfold unitOf?
  rw [hsame]

/-- **A class is named after a unit iff its last segment is the unit with `Test` behind it.** -/
theorem unitOf?_eq_some_iff {className segment : String} (h : EndsIn className segment)
    {u : List Char} :
    unitOf? className.toList = some u ↔ segment.toList = u ++ "Test".toList ∧ u ≠ [] := by
  rw [unitOf?_eq, h.afterLast_eq, Option.filter_eq_some_iff, Chars.dropSuffix?_eq_some_iff]
  simp

/-! ## §3. Members -/

/-- Writes the first letter as a capital. -/
def capitalize : List Char → List Char
  | [] => []
  | c :: rest => c.toUpper :: rest

/-- The first letter of `member` is small, and `written` is the member with that letter in either
case. -/
def Spells (written member : List Char) : Prop :=
  (member.head?.any Char.isLower) = true ∧ (written = member ∨ written = capitalize member)

instance (written member : List Char) : Decidable (Spells written member) :=
  inferInstanceAs (Decidable (_ ∧ _))

/-- What holds of the letters from `a` to `z` holds of every small letter. -/
theorem forall_isLower {P : Char → Prop} (h : ∀ n : Fin 26, P (Char.ofNat (97 + n))) {c : Char}
    (hc : c.isLower = true) : P c := by
  have hbounds : (decide (c.val ≥ 'a'.val) && decide (c.val ≤ 'z'.val)) = true := hc
  have hrange : 97 ≤ c.toNat ∧ c.toNat ≤ 122 := by
    simpa [UInt32.le_iff_toNat_le] using hbounds
  have hletter := h ⟨c.toNat - 97, by omega⟩
  have hcode : 97 + (c.toNat - 97) = c.toNat := by omega
  rwa [hcode, Char.ofNat_toNat] at hletter

/-- Either form of a small letter is a letter, and the small one is read from it. -/
theorem lowerChar_form {c w : Char} (hc : c.isLower = true) (hw : w = c ∨ w = c.toUpper) :
    lowerChar w = [c] ∧ w ≠ '_' ∧ isBlank w = false := by
  rcases hw with rfl | rfl
  · exact forall_isLower (P := fun c => lowerChar c = [c] ∧ c ≠ '_' ∧ isBlank c = false)
      (by decide) hc
  · exact forall_isLower
      (P := fun c => lowerChar c.toUpper = [c] ∧ c.toUpper ≠ '_' ∧ isBlank c.toUpper = false)
      (by decide) hc

/-- A spelling is a letter and the rest of the member. -/
theorem Spells.eq_cons {written member : List Char} (h : Spells written member) :
    ∃ w c rest, written = w :: rest ∧ member = c :: rest ∧ lowerChar w = [c] ∧ w ≠ '_' ∧
      isBlank w = false := by
  obtain ⟨hsmall, hwritten⟩ := h
  cases member with
  | nil => simp at hsmall
  | cons c rest =>
    have hc : c.isLower = true := by simpa using hsmall
    rcases hwritten with rfl | rfl
    · exact ⟨c, c, rest, rfl, rfl, lowerChar_form hc (.inl rfl)⟩
    · exact ⟨c.toUpper, c, rest, rfl, rfl, lowerChar_form hc (.inr rfl)⟩

theorem dropWhile_underscores {w : Char} (hw : w ≠ '_') (k : Nat) (rest : List Char) :
    (List.replicate k '_' ++ w :: rest).dropWhile (· == '_') = w :: rest := by
  rw [List.dropWhile_append_of_pos (by simp), List.dropWhile_cons_of_neg (by simpa using hw)]

/-- **The member is read from a method name**, whatever number of underscores stands in front of it
and whatever data set behind. -/
theorem memberOf?_method {written member dataSet : List Char} (spells : Spells written member)
    (solid : ∀ c ∈ member, isBlank c = false)
    (behind : ∀ c, dataSet.head? = some c → isBlank c = true) (k : Nat) :
    memberOf? ("test".toList ++ List.replicate k '_' ++ written ++ dataSet) = some member := by
  obtain ⟨w, c, rest, rfl, rfl, hlower, hw, hblank⟩ := spells.eq_cons
  -- the method name is one word, up to the data set
  have hword : ∀ d ∈ "test".toList ++ (List.replicate k '_' ++ w :: rest), isBlank d = false := by
    intro d hd
    simp only [List.mem_append, List.mem_cons] at hd
    rcases hd with hd | hd | rfl | hd
    · exact Chars.forall_of_any_eq_false (s := "test".toList) (by decide) d hd
    · rw [(List.mem_replicate.mp hd).2]
      decide
    · exact hblank
    · exact solid d (List.mem_cons_of_mem c hd)
  obtain ⟨more, hmore⟩ := Chars.exists_words_eq (by simp) hword behind
  rw [← List.append_assoc] at hmore
  have hprefix : Chars.dropPrefix? "test".toList
      ("test".toList ++ List.replicate k '_' ++ w :: rest) =
        some (List.replicate k '_' ++ w :: rest) := by
    rw [Chars.dropPrefix?_eq_some_iff, List.append_assoc]
  unfold memberOf?
  rw [hmore]
  simp only [List.head?_cons, Option.getD_some, hprefix, Option.map_some,
    dropWhile_underscores hw, Option.filter_some, List.isEmpty_cons, Bool.not_false, if_true,
    uncapitalize, hlower, List.singleton_append]

/-! ## §4. Tests -/

/-- A unit, a member and what else makes up the names of a test of them. -/
structure Follows (front unit written member dataSet : String) : Prop where
  front : Qualifies front
  named : unit ≠ ""
  plain : ∀ c ∈ unit.toList, Name.isSeparator c = false
  spells : Spells written.toList member.toList
  solid : ∀ c ∈ member.toList, isBlank c = false
  behind : ∀ c, dataSet.toList.head? = some c → isBlank c = true

theorem Follows.endsIn {front unit written member dataSet : String}
    (h : Follows front unit written member dataSet) :
    EndsIn (front ++ unit ++ "Test") (unit ++ "Test") where
  split := ⟨front, h.front, String.append_assoc⟩
  plain c hc := by
    rw [String.toList_append, List.mem_append] at hc
    rcases hc with hc | hc
    · exact h.plain c hc
    · exact Chars.forall_of_any_eq_false (s := "Test".toList) (by decide) c hc

/-- A class is no test of a unit: its last segment does not end in `Test`, or is nothing else. -/
def Untold (className : String) : Prop :=
  ∃ segment, EndsIn className segment ∧ (segment = "Test" ∨ ∀ u, segment ≠ u ++ "Test")

theorem unitOf?_eq_none_iff (className : String) :
    unitOf? className.toList = none ↔ Untold className := by
  constructor
  · intro hnone
    obtain ⟨segment, hends⟩ := exists_endsIn className
    refine ⟨segment, hends, ?_⟩
    by_cases hsegment : ∃ u, segment = u ++ "Test"
    · obtain ⟨u, hu⟩ := hsegment
      by_cases hempty : u = ""
      · exact .inl (by rw [hu, hempty]; rfl)
      · have hsome : unitOf? className.toList = some u.toList :=
          (unitOf?_eq_some_iff hends).mpr ⟨by rw [hu, String.toList_append], by simpa using hempty⟩
        rw [hnone] at hsome
        exact absurd hsome (by simp)
    · exact .inr fun u hu => hsegment ⟨u, hu⟩
  · rintro ⟨segment, hends, hcase⟩
    apply Option.eq_none_iff_forall_ne_some.mpr
    intro u hu
    obtain ⟨hsplit, hne⟩ := (unitOf?_eq_some_iff hends).mp hu
    rcases hcase with rfl | hno
    · exact hne (List.append_left_eq_self.mp hsplit.symm)
    · apply hno (String.ofList u)
      apply String.toList_inj.mp
      rw [String.toList_append, String.toList_ofList, hsplit]

/-- **The names of a test tell what it exercises.**  Whatever the namespace, the underscores, the
case of the first letter and the data set are, unit and member are read back; and a class tells
nothing exactly when its last segment does not end in `Test` or is `Test`. -/
theorem reads_convention :
    (∀ front unit written member dataSet, Follows front unit written member dataSet →
      ∀ underscores, ofConvention? (front ++ unit ++ "Test")
          ("test" ++ String.ofList (List.replicate underscores '_') ++ written ++ dataSet) =
        some (.unit unit (some member))) ∧
    ∀ className method, ofConvention? className method = none ↔ Untold className := by
  constructor
  · intro front unit written member dataSet h underscores
    have hunit : unitOf? (front ++ unit ++ "Test").toList = some unit.toList :=
      (unitOf?_eq_some_iff h.endsIn).mpr ⟨String.toList_append, by simpa using h.named⟩
    have hmember := memberOf?_method h.spells h.solid h.behind underscores
    unfold ofConvention?
    rw [hunit]
    simp only [Option.map_some, String.toList_append, String.toList_ofList, hmember]
    simp
  · intro className method
    unfold ofConvention?
    rw [Option.map_eq_none_iff, unitOf?_eq_none_iff]

/-- A unit that ends in `Test`, a member that starts like a test, and a data set. -/
theorem reads_convention_dataSet :
    Follows "App.Tests\\" "FooTest" "TestBar" "testBar" " with data set #1" ∧
      ofConvention? "App.Tests\\FooTestTest" "test__TestBar with data set #1" =
        some (.unit "FooTest" (some "testBar")) := by
  have hfollows : Follows "App.Tests\\" "FooTest" "TestBar" "testBar" " with data set #1" := by
    refine ⟨.inr ⟨'\\', by decide, by decide⟩, by decide,
      Chars.forall_of_any_eq_false (by decide), by decide,
      Chars.forall_of_any_eq_false (by decide), ?_⟩
    intro c hc
    rw [← Option.some.inj (show some ' ' = some c from hc)]
    decide
  exact ⟨hfollows, reads_convention.1 _ _ _ _ _ hfollows 2⟩

end CodeAtlas.TestSubject
