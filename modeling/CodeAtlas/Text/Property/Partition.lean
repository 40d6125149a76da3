/-
  CodeAtlas.Text.Property.Partition — tables of character properties in a compact form.

  A table is written as a row of numbers in letters: the digits are `a` to `z`, and the last digit
  of a number is a capital.  A set alternates between the number of code points to pass over and the
  number to take, less one; a partition alternates between the length of a run and the value that
  its code points have.

  * `Compact.numbers`: the numbers of a row.
  * `Partition.withValues`: the characters whose value is one of some.
  * `BinaryProperty.set`: the characters that have a property.
-/
import CodeAtlas.Text.CharSet

namespace CodeAtlas

/-! ## §1. Numbers in letters -/

namespace Compact

/-- The numbers of a row of letters, where `acc` is the value of the digits read so far. -/
def numbersFrom (acc : Nat) : List Char → List Nat
  | [] => []
  | c :: rest =>
    if c.isUpper then (acc * 26 + (c.toNat - 65)) :: numbersFrom 0 rest
    else numbersFrom (acc * 26 + (c.toNat - 97)) rest

/-- The numbers of some lines. -/
def numbers (code : List String) : List Nat := numbersFrom 0 (code.flatMap (·.toList))

/-- The ranges of a set, where the code points below `next` have been dealt with. -/
def rangesFrom (next : Nat) : List Nat → List (Nat × Nat)
  | skip :: take :: rest =>
    (next + skip, next + skip + take) :: rangesFrom (next + skip + take + 1) rest
  | _ => []

/-- The set of some lines. -/
def set (code : List String) : CharSet := ⟨rangesFrom 0 (numbers code)⟩

/-- The runs of a partition as a first and a last code point with a value. -/
def runsFrom (next : Nat) : List Nat → List (Nat × Nat × Nat)
  | length :: value :: rest => (next, next + length - 1, value) :: runsFrom (next + length) rest
  | _ => []

/-- Joins increasing ranges that touch. -/
def joinRanges : List (Nat × Nat) → List (Nat × Nat)
  | [] => []
  | (lo, hi) :: rest =>
    match joinRanges rest with
    | (l, h) :: more => if hi + 1 = l then (lo, h) :: more else (lo, hi) :: (l, h) :: more
    | [] => [(lo, hi)]

/-- The characters whose value in a partition satisfies a condition. -/
def whereValue (p : Nat → Bool) (code : List String) : CharSet :=
  ⟨joinRanges ((runsFrom 0 (numbers code)).filterMap fun (lo, hi, value) =>
    if p value then some (lo, hi) else none)⟩

end Compact

/-! ## §2. Tables -/

/-- A property with several values: the names of each value, and the value of each code point.  A
value without names is that of the code points that have none. -/
structure Partition where
  names : List (List String)
  code : List String

namespace Partition

/-- The number of the value of a name. -/
def value? (t : Partition) (name : String) : Option Nat := t.names.findIdx? (·.contains name)

/-- The characters whose value is one of some. -/
def withValues (t : Partition) (values : List Nat) : CharSet :=
  Compact.whereValue values.contains t.code

/-- The characters that have the value of a name. -/
def set? (t : Partition) (name : String) : Option CharSet :=
  (t.value? name).map fun v => t.withValues [v]

end Partition

/-- A property that a character has or has not: its names and its set. -/
structure BinaryProperty where
  names : List String
  code : List String

/-- The characters that have a property. -/
def BinaryProperty.set (p : BinaryProperty) : CharSet := Compact.set p.code

end CodeAtlas
