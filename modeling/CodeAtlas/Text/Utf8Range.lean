/-
  CodeAtlas.Text.Utf8Range — ranges of code points as ranges of bytes.

  A range of code points is cut until the encodings of each piece are exactly the rows of bytes that
  a sequence of byte ranges describes.  The cuts fall where the length of the encoding changes, at
  the surrogates, and where the low bits of a code point are not all zero or all one.
-/
import CodeAtlas.Text.Utf8

namespace CodeAtlas.Utf8

/-- A range of bytes for each byte of some encodings of one length. -/
abbrev ByteRanges : Type := List (Nat × Nat)

/-- Where to cut a range: the last code point of the first piece and the first one of the second. -/
def cut? (lo hi : Nat) : Option (Nat × Nat) :=
  let aligned (bits : Nat) : Option (Nat × Nat) :=
    let size := 1 <<< bits
    if lo / size = hi / size then none
    else if lo % size ≠ 0 then some ((lo / size + 1) * size - 1, (lo / size + 1) * size)
    else if hi % size ≠ size - 1 then some (hi / size * size - 1, hi / size * size)
    else none
  let lengthAt (limit : Nat) : Option (Nat × Nat) :=
    if lo ≤ limit && limit < hi then some (limit, limit + 1) else none
  if lo < 0xE000 && 0xD7FF < hi then some (0xD7FF, 0xE000)
  else
    (lengthAt 0x7F).or <| (lengthAt 0x7FF).or <| (lengthAt 0xFFFF).or <|
      if hi ≤ 0x7F then none else (aligned 6).or <| (aligned 12).or (aligned 18)

/-- The pieces of a range, in increasing order, with at most as many cuts in a row as the first
argument says. -/
def piecesWithin : Nat → Nat → Nat → List (Nat × Nat)
  | 0, lo, hi => [(lo, hi)]
  | cuts + 1, lo, hi =>
    if hi < lo then []
    else
      match cut? lo hi with
      | none => [(lo, hi)]
      | some (last, first) => piecesWithin cuts lo last ++ piecesWithin cuts first hi

/-- No range is cut more often in a row: once at the surrogates, three times for the lengths, and
twice for each of the three groups of bits. -/
def cutLimit : Nat := 12

/-- The byte ranges of a range of code points, in increasing order. -/
def byteRanges (lo hi : Nat) : List ByteRanges :=
  (piecesWithin cutLimit lo hi).map fun (lo, hi) => (encodeCode lo).zip (encodeCode hi)

end CodeAtlas.Utf8
