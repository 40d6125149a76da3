/-
  CodeAtlas.Text.Blank — blank characters, trimming and words.

  A character is blank when Unicode gives it the `White_Space` property.  Names, signatures and
  comment lines are trimmed and split by this class, never by the ASCII blanks alone: a signature
  broken by a no-break space has to read like one broken by a tab.

  * `Chars.trim`, `Chars.trimEnd`: blanks dropped at the ends.
  * `Chars.words`: the maximal runs of characters that are not blank.
  * `Text.collapse`: words joined by single spaces.
-/

namespace CodeAtlas

/-! ## §1. The class of blanks -/

/-- Characters with Unicode's `White_Space` property. -/
def isBlank (c : Char) : Bool :=
  let n := c.toNat
  (9 ≤ n && n ≤ 13) || n == 32 || n == 0x85 || n == 0xA0 || n == 0x1680 ||
    (0x2000 ≤ n && n ≤ 0x200A) || n == 0x2028 || n == 0x2029 || n == 0x202F || n == 0x205F ||
    n == 0x3000

/-! ## §2. Trimming and words over character lists -/

namespace Chars

/-- Drops the longest ending whose characters all satisfy `p`. -/
def dropEndWhile (p : Char → Bool) (s : List Char) : List Char :=
  (s.reverse.dropWhile p).reverse

/-- Drops blanks at the start. -/
def trimStart (s : List Char) : List Char := s.dropWhile isBlank

/-- Drops blanks at the end. -/
def trimEnd (s : List Char) : List Char := dropEndWhile isBlank s

/-- Drops blanks at both ends. -/
def trim (s : List Char) : List Char := trimEnd (trimStart s)

/-- The maximal runs of characters that are not blank, in order. -/
def words : List Char → List (List Char)
  | [] => []
  | c :: rest =>
    if isBlank c then words rest
    else
      match rest with
      | [] => [[c]]
      | d :: _ =>
        if isBlank d then [c] :: words rest
        else
          match words rest with
          | [] => [[c]]
          | w :: ws => (c :: w) :: ws

end Chars

/-! ## §3. The same over strings -/

namespace Text

/-- Reads a string as characters, changes them, and writes them back. -/
def mapChars (f : List Char → List Char) (s : String) : String := String.ofList (f s.toList)

/-- The words of a string. -/
def words (s : String) : List String := (Chars.words s.toList).map String.ofList

/-- The words of a string, one space between each two. -/
def collapse (s : String) : String := " ".intercalate (words s)

end Text
end CodeAtlas
