/-
  CodeAtlas.Text.CharSet — sets of characters.

  A set is a list of ranges of code points in increasing order, no two of which touch.  Every
  operation keeps this form, so equal sets are equal lists and the number of ranges is a measure of
  a set.  The code points of surrogates belong to no character: the one behind U+D7FF is U+E000.
-/
import CodeAtlas.Text.CaseFold

namespace CodeAtlas

/-- A set of characters. -/
structure CharSet where
  ranges : List (Nat × Nat)
  deriving DecidableEq, Repr, Inhabited

namespace CharSet

/-! ## §1. Making sets -/

/-- The set without characters. -/
def none : CharSet := ⟨[]⟩

/-- All characters from one to another. -/
def range (lo hi : Char) : CharSet := ⟨[(lo.toNat, hi.toNat)]⟩

/-- A set of one character. -/
def single (c : Char) : CharSet := range c c

/-- The last code point. -/
def lastCode : Nat := 0x10FFFF

/-- All characters. -/
def all : CharSet := ⟨[(0, lastCode)]⟩

/-- Puts a range into increasing ranges, joined with those that it meets or touches. -/
def insertRange (lo hi : Nat) : List (Nat × Nat) → List (Nat × Nat)
  | [] => [(lo, hi)]
  | (l, h) :: rest =>
    if hi + 1 < l then (lo, hi) :: (l, h) :: rest
    else if h + 1 < lo then (l, h) :: insertRange lo hi rest
    else insertRange (min lo l) (max hi h) rest

/-- Adds some ranges. -/
def addRanges (s : CharSet) (rs : List (Nat × Nat)) : CharSet :=
  ⟨rs.foldr (fun r acc => insertRange r.1 r.2 acc) s.ranges⟩

/-- The union of some ranges of characters. -/
def ofRanges (rs : List (Char × Char)) : CharSet :=
  none.addRanges (rs.map fun (lo, hi) => (lo.toNat, hi.toNat))

/-! ## §2. Looking into sets -/

/-- Membership. -/
def mem (s : CharSet) (c : Char) : Bool := inRanges c.toNat s.ranges

/-- Whether all characters are below 128. -/
def isAscii (s : CharSet) : Bool := s.ranges.all fun r => r.2 < 128

/-- The only character of a set. -/
def char? (s : CharSet) : Option Char :=
  match s.ranges with
  | [(lo, hi)] => if lo = hi then some (Char.ofNat lo) else Option.none
  | _ => Option.none

/-! ## §3. Operations -/

/-- The union of two sets. -/
def union (a b : CharSet) : CharSet := b.addRanges a.ranges

/-- The code point of the next character. -/
def codeAfter (n : Nat) : Nat := if n = 0xD7FF then 0xE000 else n + 1

/-- The code point of the character in front. -/
def codeBefore (n : Nat) : Nat := if n = 0xE000 then 0xD7FF else n - 1

/-- The ranges between increasing ranges, from the character behind `last` on.  Between U+D7FF and
U+E000 there is no character; the range from one to the other stands there. -/
def gapsAfter (last : Nat) : List (Nat × Nat) → List (Nat × Nat)
  | [] => if last < lastCode then [(codeAfter last, lastCode)] else []
  | (lo, hi) :: rest =>
    (min (codeAfter last) (codeBefore lo), max (codeAfter last) (codeBefore lo)) ::
      gapsAfter hi rest

/-- The characters that are not in a set. -/
def compl (s : CharSet) : CharSet :=
  match s.ranges with
  | [] => all
  | (lo, hi) :: rest => ⟨(if lo = 0 then [] else [(0, codeBefore lo)]) ++ gapsAfter hi rest⟩

/-- The parts of a range that lie in increasing ranges. -/
def within (lo hi : Nat) (rs : List (Nat × Nat)) : List (Nat × Nat) :=
  rs.filterMap fun (l, h) => if max lo l ≤ min hi h then some (max lo l, min hi h) else Option.none

/-- The parts of a range that lie in none of some increasing ranges. -/
def outside (lo hi : Nat) : List (Nat × Nat) → List (Nat × Nat)
  | [] => [(lo, hi)]
  | (l, h) :: rest =>
    if h < lo then outside lo hi rest
    else if hi < l then [(lo, hi)]
    else
      let left := if lo < l then [(lo, codeBefore l)] else []
      if h < hi then left ++ outside (codeAfter h) hi rest else left

/-- The characters that are in both sets. -/
def inter (a b : CharSet) : CharSet := ⟨a.ranges.flatMap fun r => within r.1 r.2 b.ranges⟩

/-- The characters of one set that are not in another. -/
def diff (a b : CharSet) : CharSet := ⟨a.ranges.flatMap fun r => outside r.1 r.2 b.ranges⟩

/-- The characters that are in one of two sets only. -/
def symmDiff (a b : CharSet) : CharSet := (a.union b).diff (a.inter b)

/-- The images of a set under some runs. -/
def imagesUnder (s : CharSet) (runs : List Run) : List (Nat × Nat) :=
  s.ranges.flatMap fun r => runs.flatMap fun run => run.imagesOf r.1 r.2

/-- Adds every character that differs only in case: the representatives of all case classes in the
set, then all that have them. -/
def ignoringCase (s : CharSet) : CharSet :=
  let tops := s.addRanges (s.imagesUnder foldRuns)
  tops.addRanges (tops.imagesUnder (foldRuns.map Run.inverse))

end CharSet
end CodeAtlas
