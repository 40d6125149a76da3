/-
  CodeAtlas.Proofs.Blank — trimming, words and lines of a text that is put together.

  Texts that follow a layout are blanks, content and line ends one behind the other.  The laws below
  say what trimming, cutting into words and cutting into lines give for such a text, part by part:
  blanks at an end vanish, a firm end stays, the first word is what stands in front of the first
  blank, and a line end of either sort ends exactly one line.

  Main results:
    * `trim_framed` — blanks around a text that starts and ends firmly are trimmed away.
    * `exists_words_eq` — the first word of a text.
    * `lines_intercalate` — lines with line ends between them are read back as they are.
-/
import CodeAtlas.Text.Lines

namespace CodeAtlas

/-! ## §1. Trimming -/

/-- No blank stands at the end. -/
def Firm (s : List Char) : Prop := ∀ c, s.getLast? = some c → isBlank c = false

instance (s : List Char) : Decidable (Firm s) :=
  decidable_of_iff (s.getLast?.any isBlank = false) (by simp [Firm, Option.any_eq_false])

namespace Chars

variable {s t : List Char}

/-- No character of a class, told by going through the text. -/
theorem forall_of_any_eq_false {p : Char → Bool} (h : s.any p = false) : ∀ c ∈ s, p c = false := by
  simpa using h

theorem trimStart_append (blank : ∀ c ∈ s, isBlank c = true) (t : List Char) :
    trimStart (s ++ t) = trimStart t :=
  List.dropWhile_append_of_pos blank

theorem trimEnd_of_firm (firm : Firm s) : trimEnd s = s := by
  unfold trimEnd dropEndWhile
  cases hrev : s.reverse with
  | nil => rw [List.reverse_eq_nil_iff.mp hrev]; rfl
  | cons c rest =>
    have hlast : s.getLast? = some c := by rw [List.getLast?_eq_head?_reverse, hrev]; rfl
    rw [List.dropWhile_cons_of_neg (by simp [firm c hlast]), ← hrev, List.reverse_reverse]

theorem trimStart_cons {c : Char} (hc : isBlank c = false) (s : List Char) :
    trimStart (c :: s) = c :: s :=
  List.dropWhile_cons_of_neg (by simp [hc])

/-- Behind blanks a text that starts and ends firmly is all that is left. -/
theorem trim_framed {c : Char} (blank : ∀ c ∈ s, isBlank c = true) (hc : isBlank c = false)
    (firm : Firm (c :: t)) : trim (s ++ c :: t) = c :: t := by
  unfold trim
  rw [trimStart_append blank, trimStart_cons hc, trimEnd_of_firm firm]

theorem trim_of_blank (blank : ∀ c ∈ s, isBlank c = true) : trim s = [] := by
  have hstart : trimStart s = [] := by
    rw [← List.append_nil s, trimStart_append blank]
    rfl
  unfold trim
  rw [hstart]
  rfl

/-! ## §2. Words -/

theorem words_singleton {c : Char} (hc : ¬ isBlank c = true) : words [c] = [[c]] := by
  rw [words.eq_def]
  dsimp only
  rw [if_neg hc]

/-- A blank ends a word. -/
theorem words_before_blank {c d : Char} {s : List Char} (hc : ¬ isBlank c = true)
    (hd : isBlank d = true) : words (c :: d :: s) = [c] :: words (d :: s) := by
  rw [words.eq_def (c :: d :: s)]
  dsimp only
  rw [if_neg hc, if_pos hd]

/-- In front of a word a character belongs to it. -/
theorem words_before_word {c d : Char} {s w : List Char} {ws : List (List Char)}
    (hc : ¬ isBlank c = true) (hd : ¬ isBlank d = true) (h : words (d :: s) = w :: ws) :
    words (c :: d :: s) = (c :: w) :: ws := by
  rw [words.eq_def (c :: d :: s)]
  dsimp only
  rw [if_neg hc, if_neg hd, h]

/-- **The first word of a text is what stands in front of its first blank.** -/
theorem exists_words_eq {w rest : List Char} (nonempty : w ≠ [])
    (solid : ∀ c ∈ w, isBlank c = false) (stop : ∀ c, rest.head? = some c → isBlank c = true) :
    ∃ more, words (w ++ rest) = w :: more := by
  induction w with
  | nil => exact absurd rfl nonempty
  | cons c w ih =>
    have hc : ¬ isBlank c = true := by simp [solid c List.mem_cons_self]
    cases w with
    | nil =>
      -- the word ends here: at the end of the text or in front of a blank
      cases rest with
      | nil => exact ⟨[], words_singleton hc⟩
      | cons d rest => exact ⟨words (d :: rest), words_before_blank hc (stop d rfl)⟩
    | cons d w =>
      have hd : ¬ isBlank d = true := by simp [solid d (by simp)]
      obtain ⟨more, hmore⟩ := ih (by simp) fun e he => solid e (List.mem_cons_of_mem c he)
      exact ⟨more, words_before_word hc hd hmore⟩

end Chars

/-! ## §3. Lines -/

/-- The two ways to end a line. -/
inductive LineEnd where
  | feed
  | returnFeed
  deriving DecidableEq, Repr

/-- The characters of a line end. -/
def LineEnd.chars : LineEnd → List Char
  | feed => ['\n']
  | returnFeed => ['\r', '\n']

namespace Chars

variable {l : List Char}

/-- A character that ends no line and begins no line end opens the first line. -/
theorem lines_cons {c : Char} {s l : List Char} {ls : List (List Char)} (feed : c ≠ '\n')
    (noReturn : c = '\r' → s.head? ≠ some '\n') (h : lines s = l :: ls) :
    lines (c :: s) = (c :: l) :: ls := by
  unfold lines
  split
  next heq => exact absurd heq (List.cons_ne_nil _ _)
  next heq => exact absurd (List.cons.inj heq).1 feed
  next rest heq =>
    obtain ⟨hc, hs⟩ := List.cons.inj heq
    exact absurd (by rw [hs]; rfl) (noReturn hc)
  next heq =>
    obtain ⟨rfl, rfl⟩ := List.cons.inj heq
    rw [h]

theorem lines_singleton {c : Char} (feed : c ≠ '\n') : lines [c] = [[c]] := by
  unfold lines
  split
  next heq => exact absurd heq (List.cons_ne_nil _ _)
  next heq => exact absurd (List.cons.inj heq).1 feed
  next heq => exact absurd (List.cons.inj heq).2.symm (List.cons_ne_nil _ _)
  next heq =>
    obtain ⟨rfl, rfl⟩ := List.cons.inj heq
    rfl

/-- A text without a line feed is one line. -/
theorem lines_of_plain (nonempty : l ≠ []) (plain : '\n' ∉ l) : lines l = [l] := by
  induction l with
  | nil => exact absurd rfl nonempty
  | cons c l ih =>
    have hc : c ≠ '\n' := fun h => plain (h ▸ List.mem_cons_self)
    have hl : '\n' ∉ l := fun h => plain (List.mem_cons_of_mem c h)
    have hnext : l.head? ≠ some '\n' := fun h => hl (List.mem_of_mem_head? h)
    cases l with
    | nil => exact lines_singleton hc
    | cons d l => exact lines_cons hc (fun _ => hnext) (ih (by simp) hl)

/-- **A line end of either sort ends exactly the line in front of it.** -/
theorem lines_append_lineEnd (e : LineEnd) (plain : '\n' ∉ l) (noReturn : l.getLast? ≠ some '\r')
    (rest : List Char) : lines (l ++ (e.chars ++ rest)) = l :: lines rest := by
  induction l with
  | nil => cases e <;> rfl
  | cons c l ih =>
    have hc : c ≠ '\n' := fun h => plain (h ▸ List.mem_cons_self)
    have hl : '\n' ∉ l := fun h => plain (List.mem_cons_of_mem c h)
    rw [List.cons_append]
    cases l with
    | nil =>
      -- the last character of the line is no carriage return, so it begins no line end
      have hreturn : c ≠ '\r' := by simpa using noReturn
      exact lines_cons hc (fun h => absurd h hreturn) (ih (by simp) (by simp))
    | cons d l =>
      have hd : d ≠ '\n' := fun h => hl (h ▸ List.mem_cons_self)
      apply lines_cons hc
      · intro _ h
        exact hd (Option.some.inj h)
      · exact ih hl (by simpa using noReturn)

/-- **Lines with line ends of either sort between them are read back**, empty ones included.  The
last line must hold something: an end of the text behind a line end opens no line. -/
theorem lines_intercalate (e : LineEnd) {ls : List (List Char)} {last : List Char}
    (plain : ∀ l ∈ ls ++ [last], '\n' ∉ l) (noReturn : ∀ l ∈ ls, l.getLast? ≠ some '\r')
    (nonempty : last ≠ []) : lines (e.chars.intercalate (ls ++ [last])) = ls ++ [last] := by
  induction ls with
  | nil =>
    rw [List.nil_append, List.intercalate_singleton]
    exact lines_of_plain nonempty (plain last (by simp))
  | cons l ls ih =>
    have hrest := ih (fun k hk => plain k (List.mem_cons_of_mem l hk))
      fun k hk => noReturn k (List.mem_cons_of_mem l hk)
    rw [List.cons_append, List.intercalate_cons_of_ne_nil (by simp), List.append_assoc,
      lines_append_lineEnd e (plain l (by simp)) (noReturn l (by simp)), hrest]

end Chars
end CodeAtlas
