/-
  CodeAtlas.Text.CodeRange — sets of characters and character maps given by runs of code points.

  Tables of character properties list code point ranges in increasing order; tables of case pairs
  list runs of evenly spaced code points that are all shifted by one amount.  This file holds the
  look-ups that such tables need.
-/

namespace CodeAtlas

/-! ## §1. Membership in a list of ranges -/

/-- Whether `n` lies in one of the ranges, which stand in increasing order. -/
def inRanges (n : Nat) : List (Nat × Nat) → Bool
  | [] => false
  | (lo, hi) :: rest => if n < lo then false else n ≤ hi || inRanges n rest

/-! ## §2. Shifted runs -/

/-- The code points `first`, `first + step`, … up to `last`, sent to as many code points from
`target` on, with the same spacing. -/
structure Run where
  first : Nat
  last : Nat
  step : Nat
  target : Nat

namespace Run

/-- The image of a code point of the run. -/
def image? (r : Run) (n : Nat) : Option Nat :=
  if r.first ≤ n && n ≤ r.last && (n - r.first) % r.step == 0 then
    some (r.target + (n - r.first))
  else none

/-- The run back. -/
def inverse (r : Run) : Run := ⟨r.target, r.target + (r.last - r.first), r.step, r.first⟩

/-- The images of the code points of a range, as ranges. -/
def imagesOf (r : Run) (lo hi : Nat) : List (Nat × Nat) :=
  let start := r.first + (lo - r.first + (r.step - 1)) / r.step * r.step
  let stop := min hi r.last
  if stop < start then []
  else if r.step = 1 then [(r.target + (start - r.first), r.target + (stop - r.first))]
  else
    (List.range ((stop - start) / r.step + 1)).map fun k =>
      let n := r.target + (start - r.first) + k * r.step
      (n, n)

end Run

/-- The image of a code point under a list of runs, itself if no run holds it. -/
def imageIn (runs : List Run) (n : Nat) : Nat :=
  match runs with
  | [] => n
  | r :: rest =>
    match r.image? n with
    | some m => m
    | none => imageIn rest n

end CodeAtlas
