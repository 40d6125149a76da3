/-
  CodeAtlas.Order — sorting by a comparison.

  Results are listed in an order that depends on their content alone.  `sortBy` is stable, so
  elements that compare equal keep their places relative to each other; `sortDistinct` also drops
  repeats.
-/

namespace CodeAtlas

/-- Sorts by a comparison, keeping the order of elements that compare equal. -/
def sortBy {α : Type} (cmp : α → α → Ordering) (l : List α) : List α :=
  l.mergeSort fun a b => (cmp a b).isLE

/-- Drops each element that equals the one in front of it. -/
def dropRepeats {α : Type} [DecidableEq α] : List α → List α
  | [] => []
  | [a] => [a]
  | a :: b :: rest => if a = b then dropRepeats (b :: rest) else a :: dropRepeats (b :: rest)

/-- Sorts and drops repeats. -/
def sortDistinct {α : Type} [DecidableEq α] (cmp : α → α → Ordering) (l : List α) : List α :=
  dropRepeats (sortBy cmp l)

end CodeAtlas
