/-
  CodeAtlas.Proofs.FileFilter — which files are documented when nothing is set.

  The default exclude pattern is `(?i)(^|/)test[^/]*/`.  It is searched for anywhere in a path, yet
  it says something about segments: a match starts where a segment does, takes `test` in any case
  and the rest of the segment, and ends with the slash behind it.  So a path matches exactly when
  one of its directories begins with `test`; the name of the file, which no slash follows, may do
  so.

  Main results:
    * `Chars.mem_dropLast_split_iff` — the segments in front of the last one, by their slashes.
    * `Pattern.fits_lettersThen`, `Pattern.fits_run_iff` — words in any case and runs of a set.
    * `FileFilter.accepts_by_default` — the documented files, by extension and segments.
-/
import CodeAtlas.Documentation
import CodeAtlas.Proofs.Path
import CodeAtlas.Proofs.Pattern.Matching

namespace CodeAtlas

/-! ## §1. Case folding -/

/-- The codes of a text, folded: equal for texts that differ in case only. -/
def foldCodes (s : List Char) : List Nat := s.map fun c => imageIn foldRuns c.toNat

/-- A text begins with a word, in any case; a long `ſ` is an `s`. -/
def BeginsWith (word text : String) : Prop := foldCodes word.toList <+: foldCodes text.toList

instance (word text : String) : Decidable (BeginsWith word text) :=
  inferInstanceAs (Decidable (foldCodes word.toList <+: foldCodes text.toList))

theorem Run.inverse_image? {r : Run} {n m : Nat} (h : r.image? n = some m) :
    r.inverse.image? m = some n := by
  unfold image? at h ⊢
  unfold inverse
  split at h
  next hn =>
    simp only [Bool.and_eq_true, decide_eq_true_eq, beq_iff_eq] at hn
    obtain ⟨⟨hfirst, hlast⟩, hstep⟩ := hn
    have hm : r.target + (n - r.first) = m := Option.some.inj h
    have hback : m - r.target = n - r.first := by omega
    have hin : (decide (r.target ≤ m) && decide (m ≤ r.target + (r.last - r.first)) &&
        (m - r.target) % r.step == 0) = true := by
      simp only [Bool.and_eq_true, decide_eq_true_eq, beq_iff_eq, hback]
      exact ⟨⟨by omega, by omega⟩, hstep⟩
    show (if _ then some (r.first + (m - r.target)) else none) = some n
    rw [if_pos hin, hback, Nat.add_sub_cancel' hfirst]
  next => exact absurd h (by simp)

/-- What a code is an image of: itself, or what a run sends to it. -/
theorem mem_sources {runs : List Run} {n m : Nat} (h : imageIn runs n = m) :
    n ∈ m :: runs.filterMap fun r => r.inverse.image? m := by
  induction runs with
  | nil =>
    have hself : n = m := h
    rw [hself]
    exact List.mem_cons_self
  | cons r runs ih =>
    rw [imageIn] at h
    cases hr : r.image? n with
    | some k =>
      rw [hr] at h
      have hk : k = m := h
      have hback : r.inverse.image? m = some n := Run.inverse_image? (by rw [hr, hk])
      exact List.mem_cons_of_mem _ (List.mem_filterMap.mpr ⟨r, List.mem_cons_self, hback⟩)
    | none =>
      rw [hr] at h
      rcases List.mem_cons.mp (ih h) with hself | hmem
      · rw [hself]
        exact List.mem_cons_self
      · obtain ⟨r', hr', hback⟩ := List.mem_filterMap.mp hmem
        exact List.mem_cons_of_mem _
          (List.mem_filterMap.mpr ⟨r', List.mem_cons_of_mem r hr', hback⟩)

theorem inRanges_points {codes : List Nat} (increasing : codes.Pairwise (· < ·)) {n : Nat} :
    inRanges n (codes.map fun k => (k, k)) = true ↔ n ∈ codes := by
  induction codes with
  | nil => simp [inRanges]
  | cons k codes ih =>
    obtain ⟨hk, hrest⟩ := List.pairwise_cons.mp increasing
    rw [List.map_cons, inRanges, List.mem_cons]
    by_cases hlt : n < k
    · -- below the first code there is none
      rw [if_pos hlt]
      constructor
      · intro h
        exact absurd h (by simp)
      · rintro (rfl | hn)
        · omega
        · have := hk n hn
          omega
    · rw [if_neg hlt, Bool.or_eq_true, decide_eq_true_eq, ih hrest]
      constructor
      · rintro (hle | hn)
        · exact .inl (by omega)
        · exact .inr hn
      · rintro (rfl | hn)
        · exact .inl (Nat.le_refl _)
        · exact .inr hn

/-- A letter whose case class is listed: the set that ignores its case holds what folds alike. -/
theorem mem_ignoringCase_iff {c : Char} (codes : List Nat) (increasing : codes.Pairwise (· < ·))
    (ranges : (CharSet.single c).ignoringCase.ranges = codes.map fun k => (k, k))
    (sources : ∀ n ∈ imageIn foldRuns c.toNat ::
      foldRuns.filterMap fun r => r.inverse.image? (imageIn foldRuns c.toNat), n ∈ codes)
    (images : ∀ n ∈ codes, imageIn foldRuns n = imageIn foldRuns c.toNat) (d : Char) :
    (CharSet.single c).ignoringCase.mem d = true ↔
      imageIn foldRuns d.toNat = imageIn foldRuns c.toNat := by
  unfold CharSet.mem
  rw [ranges, inRanges_points increasing]
  constructor
  · exact images d.toNat
  · intro h
    exact sources d.toNat (mem_sources h)

theorem mem_letter_of_test {c : Char} (hc : c ∈ "test".toList) (d : Char) :
    (CharSet.single c).ignoringCase.mem d = true ↔
      imageIn foldRuns d.toNat = imageIn foldRuns c.toNat := by
  have hletters : ("test".toList.all fun c => c == 't' || c == 'e' || c == 's') = true := by decide
  have hletter := List.all_eq_true.mp hletters c hc
  simp only [Bool.or_eq_true, beq_iff_eq] at hletter
  rcases hletter with (rfl | rfl) | rfl
  · exact mem_ignoringCase_iff [0x54, 0x74] (by decide) (by decide +kernel) (by decide +kernel)
      (by decide +kernel) d
  · exact mem_ignoringCase_iff [0x45, 0x65] (by decide) (by decide +kernel) (by decide +kernel)
      (by decide +kernel) d
  · -- the long `ſ` folds to `s` as well
    exact mem_ignoringCase_iff [0x53, 0x73, 0x17F] (by decide) (by decide +kernel)
      (by decide +kernel) (by decide +kernel) d

/-! ## §2. Segments in front of the last one -/

namespace Chars

/-- **A part that is not the last stands behind a separator or at the start, and in front of a
separator.** -/
theorem mem_dropLast_split_iff {sep : Char} {s w : List Char} :
    w ∈ (split sep s).dropLast ↔ sep ∉ w ∧ ∃ front back,
      s = front ++ w ++ sep :: back ∧ (front = [] ∨ ∃ head, front = head ++ [sep]) := by
  constructor
  · intro h
    have hplain : sep ∉ w := notMem_of_mem_split (List.dropLast_subset _ h)
    obtain ⟨before, after, hparts⟩ := List.append_of_mem h
    generalize hlast : (split sep s).getLast (split_ne_nil sep s) = last
    have hsplit : split sep s = before ++ (w :: (after ++ [last])) := by
      rw [← List.dropLast_concat_getLast (split_ne_nil sep s), hparts, hlast]
      simp
    -- the text from `w` on
    have htail : [sep].intercalate (w :: (after ++ [last])) =
        w ++ sep :: [sep].intercalate (after ++ [last]) := by
      rw [List.intercalate_cons_of_ne_nil (by simp), List.append_assoc, List.singleton_append]
    have hs := intercalate_split sep s
    rw [hsplit] at hs
    refine ⟨hplain, ?_⟩
    by_cases hbefore : before = []
    · refine ⟨[], [sep].intercalate (after ++ [last]), ?_, .inl rfl⟩
      rw [← hs, hbefore, List.nil_append, htail, List.nil_append]
    · refine ⟨[sep].intercalate before ++ [sep], [sep].intercalate (after ++ [last]), ?_,
        .inr ⟨_, rfl⟩⟩
      rw [← hs, intercalate_append sep hbefore (by simp), htail]
      simp
  · rintro ⟨hplain, front, back, rfl, hfront⟩
    have htail : split sep (w ++ sep :: back) = [w] ++ split sep back := by
      rw [split_append_cons, split_eq_splitOn sep w, List.splitOn_eq_singleton hplain]
    rw [List.append_assoc]
    rcases hfront with rfl | ⟨head, rfl⟩
    · rw [List.nil_append, htail, List.dropLast_append_of_ne_nil (split_ne_nil sep back)]
      simp
    · rw [List.append_assoc, List.singleton_append, split_append_cons, htail, ← List.append_assoc,
        List.dropLast_append_of_ne_nil (split_ne_nil sep back)]
      simp

end Chars

/-! ## §3. Words in any case and runs -/

namespace Pattern

/-- A letter in any case. -/
def letter (c : Char) : Pattern := .one (CharSet.single c).ignoringCase

/-- The letters of a word in any case, and then another pattern. -/
def lettersThen (word : List Char) (p : Pattern) : Pattern :=
  word.foldr (fun c q => .seq (letter c) q) p

/-- **A word in any case is matched by what folds alike.** -/
theorem fits_lettersThen {word : List Char} (p : Pattern)
    (classes : ∀ c ∈ word, ∀ d, (CharSet.single c).ignoringCase.mem d = true ↔
      imageIn foldRuns d.toNat = imageIn foldRuns c.toNat) {front part back : List Char} :
    (lettersThen word p).Fits front part back ↔ ∃ head tail, part = head ++ tail ∧
      foldCodes head = foldCodes word ∧ p.Fits (front ++ head) tail back := by
  induction word generalizing front part with
  | nil =>
    show p.Fits front part back ↔ _
    constructor
    · intro h
      exact ⟨[], part, rfl, rfl, by rwa [List.append_nil]⟩
    · rintro ⟨head, tail, rfl, hfold, h⟩
      have hhead : head = [] := by simpa [foldCodes] using hfold
      rw [hhead, List.append_nil] at h
      rwa [hhead, List.nil_append]
  | cons c word ih =>
    have hrest : ∀ {front part}, (lettersThen word p).Fits front part back ↔ ∃ head tail,
        part = head ++ tail ∧ foldCodes head = foldCodes word ∧ p.Fits (front ++ head) tail back :=
      ih fun d hd => classes d (List.mem_cons_of_mem c hd)
    show (letter c).Fits.followedBy (lettersThen word p).Fits front part back ↔ _
    constructor
    · rintro ⟨first, second, rfl, ⟨d, rfl, hd⟩, hsecond⟩
      obtain ⟨head, tail, rfl, hfold, hp⟩ := hrest.mp hsecond
      refine ⟨d :: head, tail, rfl, ?_, by simpa using hp⟩
      have hcode := (classes c List.mem_cons_self d).mp hd
      unfold foldCodes at hfold ⊢
      rw [List.map_cons, List.map_cons, hcode, hfold]
    · rintro ⟨head, tail, rfl, hfold, hp⟩
      cases head with
      | nil => exact absurd hfold (by simp [foldCodes])
      | cons d head =>
        obtain ⟨hcode, hcodes⟩ := List.cons.inj hfold
        refine ⟨[d], head ++ tail, rfl,
          ⟨d, rfl, (classes c List.mem_cons_self d).mpr hcode⟩, hrest.mpr ?_⟩
        exact ⟨head, tail, rfl, hcodes, by simpa using hp⟩

theorem repeated_one_iff {set : CharSet} {n : Nat} {front part back : List Char} :
    (Pattern.one set).Fits.repeated n front part back ↔
      part.length = n ∧ ∀ c ∈ part, set.mem c = true := by
  induction n generalizing front part with
  | zero =>
    show part = [] ↔ _
    constructor
    · rintro rfl
      simp
    · rintro ⟨hlen, _⟩
      exact List.length_eq_zero_iff.mp hlen
  | succ n ih =>
    constructor
    · rintro ⟨first, second, rfl, ⟨c, rfl, hc⟩, hsecond⟩
      obtain ⟨hlen, hall⟩ := ih.mp hsecond
      refine ⟨by simp [hlen], ?_⟩
      intro d hd
      rcases List.mem_cons.mp hd with rfl | hd
      · exact hc
      · exact hall d hd
    · rintro ⟨hlen, hall⟩
      cases part with
      | nil => exact absurd hlen (by simp)
      | cons c part =>
        refine ⟨[c], part, rfl, ⟨c, rfl, hall c List.mem_cons_self⟩, ih.mpr ⟨?_, ?_⟩⟩
        · simpa using hlen
        · intro d hd
          exact hall d (List.mem_cons_of_mem c hd)

/-- A run of characters of a set. -/
theorem fits_run_iff {set : CharSet} {isLazy : Bool} {front part back : List Char} :
    (Pattern.loop (.one set) 0 none isLazy).Fits front part back ↔
      ∀ c ∈ part, set.mem c = true := by
  constructor
  · rintro ⟨n, _, _, hfits⟩
    exact (repeated_one_iff.mp hfits).2
  · intro hall
    exact ⟨part.length, Nat.zero_le _, by rintro m ⟨⟩, repeated_one_iff.mpr ⟨rfl, hall⟩⟩

/-! ## §4. The default pattern -/

/-- A start of a segment, `test` in any case, and the rest of the segment with its slash. -/
def testDirectory : Pattern :=
  .seq (.group 1 (.alt (.look .textStart) (.literal ['/'])))
    (lettersThen "test".toList
      (.seq (.loop (.one (CharSet.single '/').compl) 0 none false) (.literal ['/'])))

theorem parse?_testDirectory : parse? "(?i)(^|/)test[^/]*/" = some testDirectory := by
  decide +kernel

theorem mem_compl_slash {c : Char} : (CharSet.single '/').compl.mem c = true ↔ c ≠ '/' := by
  have hset : (CharSet.single '/').compl = ⟨[(0, 0x2E), (0x30, 0x10FFFF)]⟩ := by decide
  have hlast : c.toNat ≤ 0x10FFFF := by
    rcases c.valid with h | ⟨_, h⟩ <;> unfold Char.toNat <;> omega
  have hslash : c = '/' ↔ c.toNat = 0x2F := Char.toNat_inj.symm
  rw [hset, ne_eq, hslash]
  simp only [CharSet.mem, inRanges, Nat.not_lt_zero, if_false, Bool.or_eq_true, decide_eq_true_eq,
    Bool.or_false]
  by_cases hlow : c.toNat < 0x30
  · rw [if_pos hlow]
    simp only [Bool.false_eq_true, or_false]
    omega
  · rw [if_neg hlow, decide_eq_true_eq]
    omega

/-- What the default pattern matches: a start of a segment, a head that reads `test`, a run without
slashes, and a slash. -/
theorem fits_testDirectory_iff {front part back : List Char} :
    testDirectory.Fits front part back ↔ ∃ sep head run, part = sep ++ (head ++ (run ++ ['/'])) ∧
      (sep = [] ∧ front = [] ∨ sep = ['/']) ∧ foldCodes head = foldCodes "test".toList ∧
      '/' ∉ run := by
  have hrun : ∀ {front run back}, (Pattern.loop (.one (CharSet.single '/').compl) 0 none
      false).Fits front run back ↔ '/' ∉ run := by
    intro front run back
    rw [fits_run_iff]
    simp only [mem_compl_slash]
    constructor
    · intro h hmem
      exact h '/' hmem rfl
    · rintro h c hc rfl
      exact h hc
  constructor
  · rintro ⟨sep, rest, rfl, hsep, hrest⟩
    obtain ⟨head, tail, rfl, hfold, run, slash, rfl, hfits, rfl⟩ :=
      (fits_lettersThen _ fun c hc => mem_letter_of_test hc).mp hrest
    refine ⟨sep, head, run, rfl, ?_, hfold, hrun.mp hfits⟩
    rcases hsep with ⟨hempty, hstart⟩ | hslash
    · have hfront : front.getLast? = none := by simpa [Assertion.holds] using hstart
      exact .inl ⟨hempty, List.getLast?_eq_none_iff.mp hfront⟩
    · exact .inr hslash
  · rintro ⟨sep, head, run, rfl, hsep, hfold, hplain⟩
    refine ⟨sep, head ++ (run ++ ['/']), rfl, ?_,
      (fits_lettersThen _ fun c hc => mem_letter_of_test hc).mpr
        ⟨head, run ++ ['/'], rfl, hfold, run, ['/'], rfl, hrun.mpr hplain, rfl⟩⟩
    rcases hsep with ⟨rfl, rfl⟩ | rfl
    · exact .inl ⟨rfl, rfl⟩
    · exact .inr rfl

theorem foldCodes_prefix_iff {word s : List Char} : foldCodes word <+: foldCodes s ↔
    ∃ head run, s = head ++ run ∧ foldCodes head = foldCodes word := by
  constructor
  · rintro ⟨codes, hcodes⟩
    obtain ⟨head, run, rfl, hhead, _⟩ := List.map_eq_append_iff.mp hcodes.symm
    exact ⟨head, run, rfl, hhead⟩
  · rintro ⟨head, run, rfl, hhead⟩
    exact ⟨foldCodes run, by rw [← hhead]; simp [foldCodes]⟩

/-- No form of `test` holds a slash. -/
theorem notMem_of_foldCodes {head : List Char} (h : foldCodes head = foldCodes "test".toList) :
    '/' ∉ head := by
  intro hslash
  have hcode : imageIn foldRuns '/'.toNat ∈ foldCodes head :=
    List.mem_map_of_mem hslash
  rw [h] at hcode
  exact absurd hcode (by decide +kernel)

/-- **The default pattern matches the paths of files below a directory that begins with `test`.** -/
theorem isMatch_testDirectory_iff {path : String} : testDirectory.isMatch path = true ↔
    ∃ segment ∈ (Path.segments path).dropLast, BeginsWith "test" segment := by
  have hsegments : (∃ segment ∈ (Path.segments path).dropLast, BeginsWith "test" segment) ↔
      ∃ w ∈ (Chars.split '/' path.toList).dropLast, foldCodes "test".toList <+: foldCodes w := by
    unfold Path.segments Text.split BeginsWith
    rw [← List.map_dropLast]
    have htext (w : List Char) : (String.ofList w).toList = w := String.toList_ofList
    constructor
    · rintro ⟨segment, hmem, hprefix⟩
      obtain ⟨w, hw, rfl⟩ := List.mem_map.mp hmem
      exact ⟨w, hw, htext w ▸ hprefix⟩
    · rintro ⟨w, hw, hprefix⟩
      exact ⟨String.ofList w, List.mem_map_of_mem hw, by rwa [htext w]⟩
  rw [isMatch_iff, hsegments]
  constructor
  · rintro ⟨front, part, back, htext, hfits⟩
    obtain ⟨sep, head, run, rfl, hsep, hfold, hrun⟩ := fits_testDirectory_iff.mp hfits
    refine ⟨head ++ run, Chars.mem_dropLast_split_iff.mpr ⟨?_, front ++ sep, back, ?_, ?_⟩,
      foldCodes_prefix_iff.mpr ⟨head, run, rfl, hfold⟩⟩
    · rw [List.mem_append]
      exact not_or.mpr ⟨notMem_of_foldCodes hfold, hrun⟩
    · rw [htext]
      simp
    · rcases hsep with ⟨rfl, rfl⟩ | rfl
      · exact .inl rfl
      · exact .inr ⟨front, rfl⟩
  · rintro ⟨w, hw, hprefix⟩
    obtain ⟨hplain, front, back, htext, hfront⟩ := Chars.mem_dropLast_split_iff.mp hw
    obtain ⟨head, run, rfl, hfold⟩ := foldCodes_prefix_iff.mp hprefix
    have hrun : '/' ∉ run := fun h => hplain (List.mem_append_right head h)
    rcases hfront with rfl | ⟨before, rfl⟩
    · refine ⟨[], head ++ (run ++ ['/']), back, ?_, fits_testDirectory_iff.mpr
        ⟨[], head, run, rfl, .inl ⟨rfl, rfl⟩, hfold, hrun⟩⟩
      rw [htext]
      simp
    · refine ⟨before, ['/'] ++ (head ++ (run ++ ['/'])), back, ?_, fits_testDirectory_iff.mpr
        ⟨['/'], head, run, rfl, .inr rfl, hfold, hrun⟩⟩
      rw [htext]
      simp

end Pattern

/-! ## §5. The default filter -/

/-- The filter of the default settings. -/
theorem filterOf_default :
    Documentation.filterOf {} = .ok ⟨"php", some Pattern.testDirectory⟩ := by
  have hextension : Text.lowerAscii (Text.mapChars (List.dropWhile (· == '.')) "php") = "php" := by
    decide +kernel
  have hexclude : (some "(?i)(^|/)test[^/]*/").filter (· ≠ "") = some "(?i)(^|/)test[^/]*/" := by
    decide +kernel
  show FileFilter.ofTexts "php" (some "(?i)(^|/)test[^/]*/") = _
  unfold FileFilter.ofTexts
  rw [hextension, hexclude]
  simp only [Pattern.parse?_testDirectory]

/-- **Without settings a file is documented iff its extension is `php` in any case and none of its
directories begins with `test` in any case.**  The name of the file may begin so. -/
theorem FileFilter.accepts_by_default : ∃ filter, Documentation.filterOf {} = .ok filter ∧
    ∀ path, filter.accepts path = true ↔
      (∃ extension, Path.extension? path = some extension ∧
        Text.lowerAscii extension = "php") ∧
      ∀ segment ∈ (Path.segments path).dropLast, ¬ BeginsWith "test" segment := by
  refine ⟨_, filterOf_default, fun path => ?_⟩
  have hlower : Text.lowerAscii "php" = "php" := by decide +kernel
  unfold FileFilter.accepts
  rw [Bool.and_eq_true]
  refine and_congr ?_ ?_
  · rw [Option.any_eq_true]
    simp only [Text.sameAscii, hlower, beq_iff_eq, eq_comm (a := "php")]
  · rw [Option.any_some, Bool.not_eq_true', Bool.eq_false_iff, ne_eq,
      Pattern.isMatch_testDirectory_iff]
    simp

end CodeAtlas
