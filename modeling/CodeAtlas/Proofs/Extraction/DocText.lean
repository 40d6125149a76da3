/-
  CodeAtlas.Proofs.Extraction.DocText — documentation comments and the lines that they show.

  A documentation comment shows lines of text: below `/**` each line stands on a row of its own,
  behind an indentation, a star and a space, and the last row closes the comment.  Cleaning takes
  all of this off again and nothing else.  What the lines hold is theirs: spaces and stars they
  start with, stars inside, empty lines between two others.

  Main results:
    * `cleanLine_row` — a row gives back its line.
    * `inner_shown` — what stands between the delimiters are the rows.
    * `clean_shown` — cleaning a comment gives the text that it shows.
-/
import CodeAtlas.Extraction.PhpDoc
import CodeAtlas.Proofs.Blank
import CodeAtlas.Proofs.Segment

namespace CodeAtlas

/-- The text of a line end. -/
def LineEnd.text (e : LineEnd) : String := String.ofList e.chars

namespace PhpDoc

/-! ## §1. Comments that show lines -/

/-- Lines that a documentation comment can show: each is one line and ends firmly, and there is no
empty line at either end. -/
structure Showable (lines : List String) : Prop where
  oneRow : ∀ l ∈ lines, '\n' ∉ l.toList
  firm : ∀ l ∈ lines, Firm l.toList
  first : lines.head? ≠ some ""
  last : lines.getLast? ≠ some ""

instance (lines : List String) : Decidable (Showable lines) :=
  decidable_of_iff ((∀ l ∈ lines, '\n' ∉ l.toList) ∧ (∀ l ∈ lines, Firm l.toList) ∧
      lines.head? ≠ some "" ∧ lines.getLast? ≠ some "")
    ⟨fun h => ⟨h.1, h.2.1, h.2.2.1, h.2.2.2⟩, fun h => ⟨h.oneRow, h.firm, h.first, h.last⟩⟩

/-- Blanks that rows can be indented by. -/
def Indents (indent : String) : Prop := ∀ c ∈ indent.toList, isBlank c = true ∧ c ≠ '\n'

instance (indent : String) : Decidable (Indents indent) :=
  decidable_of_iff ((indent.toList.all fun c => isBlank c && c != '\n') = true)
    (by simp [Indents])

/-- The documentation comment that shows some lines. -/
def shown (e : LineEnd) (indent : String) (lines : List String) : String :=
  e.text.intercalate ("/**" :: lines.map (indent ++ " * " ++ ·) ++ [indent ++ " */"])

/-! ## §2. Rows -/

/-- The row of a line. -/
def row (indent line : List Char) : List Char := indent ++ ' ' :: '*' :: ' ' :: line

variable {indent line : List Char}

theorem isBlank_concat_space (blank : ∀ c ∈ indent, isBlank c = true) :
    ∀ c ∈ indent ++ [' '], isBlank c = true := by
  intro c hc
  rcases List.mem_append.mp hc with hc | hc
  · exact blank c hc
  · rw [List.mem_singleton.mp hc]
    decide

/-- **A row gives back its line**, whatever spaces and stars the line starts with. -/
theorem cleanLine_row (blank : ∀ c ∈ indent, isBlank c = true) (firm : Firm line) :
    cleanLine (row indent line) = line := by
  have hfront := isBlank_concat_space blank
  have hrow : row indent line = (indent ++ [' ']) ++ '*' :: ' ' :: line := by simp [row]
  unfold cleanLine
  rw [hrow]
  cases line with
  | nil =>
    -- the space behind the star is trimmed away as well
    have htrim : Chars.trim ((indent ++ [' ']) ++ '*' :: ' ' :: []) = ['*'] := by
      unfold Chars.trim
      rw [Chars.trimStart_append hfront]
      decide
    rw [htrim]
    rfl
  | cons c line =>
    have hend : Firm ('*' :: ' ' :: c :: line) := by simpa [Firm] using firm
    rw [Chars.trim_framed hfront (by decide) hend]
    exact Chars.trimEnd_of_firm firm

/-- The row in front of the closing delimiter holds nothing. -/
theorem cleanLine_closing (blank : ∀ c ∈ indent, isBlank c = true) :
    cleanLine (indent ++ [' ']) = [] := by
  unfold cleanLine
  rw [Chars.trim_of_blank (isBlank_concat_space blank)]

/-- No row ends in a carriage return, so it takes nothing from the line end behind it. -/
theorem getLast?_row (firm : Firm line) : (row indent line).getLast? ≠ some '\r' := by
  unfold row
  cases line with
  | nil => simp
  | cons c line =>
    intro h
    have hlast : (c :: line).getLast? = some '\r' := by simpa using h
    exact absurd (firm _ hlast) (by decide)

/-! ## §3. Whole comments -/

theorem intercalate_cons_append (sep a l : List Char) (ls : List (List Char)) :
    sep.intercalate ((a ++ l) :: ls) = a ++ sep.intercalate (l :: ls) := by
  cases ls <;> simp

theorem intercalate_concat_append (sep l b : List Char) (ls : List (List Char)) :
    sep.intercalate (ls ++ [l ++ b]) = sep.intercalate (ls ++ [l]) ++ b := by
  induction ls with
  | nil => simp
  | cons k ls ih =>
    rw [List.cons_append, List.cons_append, List.intercalate_cons_of_ne_nil (by simp),
      List.intercalate_cons_of_ne_nil (by simp), ih, List.append_assoc _ _ b]

/-- The rows between the delimiters: an empty one behind `/**`, those of the lines, and the
indentation in front of `*/`. -/
def innerRows (indent : String) (lines : List String) : List (List Char) :=
  ([] :: lines.map fun l => row indent.toList l.toList) ++ [indent.toList ++ [' ']]

theorem toList_shown (e : LineEnd) (indent : String) (lines : List String) :
    (shown e indent lines).toList =
      ['/', '*', '*'] ++ e.chars.intercalate (innerRows indent lines) ++ ['*', '/'] := by
  have hrows : (("/**" :: lines.map (indent ++ " * " ++ ·)) ++ [indent ++ " */"]).map
      String.toList = ((['/', '*', '*'] ++ []) :: lines.map fun l => row indent.toList l.toList) ++
        [(indent.toList ++ [' ']) ++ ['*', '/']] := by
    simp [row, Function.comp_def]
  unfold shown innerRows LineEnd.text
  rw [String.toList_intercalate, hrows, intercalate_concat_append, List.cons_append,
    intercalate_cons_append, String.toList_ofList]
  rfl

theorem inner_shown (e : LineEnd) (indent : String) (lines : List String) :
    inner (shown e indent lines).toList = e.chars.intercalate (innerRows indent lines) := by
  rw [toList_shown, List.append_assoc]
  generalize e.chars.intercalate (innerRows indent lines) = rows
  have hopen : Chars.dropPrefix? ['/', '*', '*'] (['/', '*', '*'] ++ (rows ++ ['*', '/'])) =
      some (rows ++ ['*', '/']) := Chars.dropPrefix?_eq_some_iff.mpr rfl
  have hclose : Chars.dropSuffix? ['*', '/'] (rows ++ ['*', '/']) = some rows :=
    Chars.dropSuffix?_eq_some_iff.mpr rfl
  simp only [inner, hopen, Option.getD_some, hclose]

theorem plain_innerRows {indent : String} {lines : List String} (blanks : Indents indent)
    (oneRow : ∀ l ∈ lines, '\n' ∉ l.toList) : ∀ r ∈ innerRows indent lines, '\n' ∉ r := by
  have hindent : '\n' ∉ indent.toList := fun h => (blanks _ h).2 rfl
  intro r hr
  simp only [innerRows, List.mem_append, List.mem_cons, List.mem_map, List.not_mem_nil,
    or_false] at hr
  rcases hr with (rfl | ⟨l, hl, rfl⟩) | rfl
  · simp
  · simp [row, hindent, oneRow l hl]
  · simp [hindent]

theorem map_cleanLine_innerRows {indent : String} {lines : List String}
    (blank : ∀ c ∈ indent.toList, isBlank c = true) (firm : ∀ l ∈ lines, Firm l.toList) :
    (innerRows indent lines).map cleanLine = [] :: lines.map String.toList ++ [[]] := by
  have hrows : (lines.map fun l => row indent.toList l.toList).map cleanLine =
      lines.map String.toList := by
    rw [List.map_map]
    exact List.map_congr_left fun l hl => cleanLine_row blank (firm l hl)
  unfold innerRows
  rw [List.map_append, List.map_cons, hrows, List.map_singleton, cleanLine_closing blank]
  rfl

/-- The empty rows at both ends go, and no line with them. -/
theorem dropEmptyEnds_framed {ls : List (List Char)} (first : ls.head? ≠ some [])
    (last : ls.getLast? ≠ some []) : dropEmptyEnds ([] :: ls ++ [[]]) = ls := by
  have hkeep : ∀ ks : List (List Char), ks.head? ≠ some [] → ks.dropWhile List.isEmpty = ks := by
    intro ks hks
    cases ks with
    | nil => rfl
    | cons k ks =>
      have hk : k ≠ [] := by simpa using hks
      exact List.dropWhile_cons_of_neg (by simpa using hk)
  unfold dropEmptyEnds
  cases ls with
  | nil => rfl
  | cons l ls =>
    have hfront : (([] :: (l :: ls)) ++ [[]] : List (List Char)).dropWhile List.isEmpty =
        (l :: ls) ++ [[]] := by
      rw [List.cons_append, List.dropWhile_cons_of_pos rfl]
      exact hkeep _ (by simpa using first)
    rw [hfront, List.reverse_append, List.reverse_singleton, List.singleton_append,
      List.dropWhile_cons_of_pos rfl, hkeep _ (by rwa [List.head?_reverse]), List.reverse_reverse]

/-- **Cleaning a documentation comment gives the text that it shows**, whatever the lines, the
indentation and the line ends are. -/
theorem clean_shown (e : LineEnd) {indent : String} {lines : List String} (blanks : Indents indent)
    (showable : Showable lines) :
    clean (shown e indent lines) = "\n".intercalate lines := by
  -- the rows are read back one by one
  have hlines : Chars.lines (inner (shown e indent lines).toList) = innerRows indent lines := by
    rw [inner_shown]
    apply Chars.lines_intercalate e (plain_innerRows blanks showable.oneRow)
    · intro r hr
      rcases List.mem_cons.mp hr with rfl | hr
      · simp
      · obtain ⟨l, hl, rfl⟩ := List.mem_map.mp hr
        exact getLast?_row (showable.firm l hl)
    · simp
  have htexts : cleanLines (shown e indent lines).toList = lines.map String.toList := by
    unfold cleanLines
    rw [hlines, map_cleanLine_innerRows (fun c hc => (blanks c hc).1) showable.firm]
    apply dropEmptyEnds_framed
    · simpa [List.head?_map] using showable.first
    · simpa [List.getLast?_map] using showable.last
  unfold clean
  rw [htexts, List.map_map]
  simp [Function.comp_def]

/-- Lines that start with a star or with spaces, hold a closing delimiter or nothing at all. -/
theorem clean_shown_starred :
    Indents "\t" ∧ Showable ["* a */", "", "   @param $x"] ∧
      clean "/**\r\n\t * * a */\r\n\t * \r\n\t *    @param $x\r\n\t */" =
        "* a */\n\n   @param $x" := by
  have hblanks : Indents "\t" := by decide
  have hshowable : Showable ["* a */", "", "   @param $x"] := by decide
  have htext : shown .returnFeed "\t" ["* a */", "", "   @param $x"] =
      "/**\r\n\t * * a */\r\n\t * \r\n\t *    @param $x\r\n\t */" := by decide +kernel
  have hjoined : "\n".intercalate ["* a */", "", "   @param $x"] = "* a */\n\n   @param $x" := by
    decide +kernel
  rw [← htext, clean_shown .returnFeed hblanks hshowable]
  exact ⟨hblanks, hshowable, hjoined⟩

end PhpDoc
end CodeAtlas
