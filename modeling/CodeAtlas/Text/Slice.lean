/-
  CodeAtlas.Text.Slice — parts of a text given by byte offsets.

  Syntax trees measure a text in bytes of its UTF-8 encoding.  A slice holds the characters whose
  encodings start inside the byte range.
-/

namespace CodeAtlas.Chars

/-- The characters of `s` that start in the bytes from `start` up to `stop`, the first character
of `s` standing at byte `offset`. -/
def sliceFrom (start stop : Nat) : Nat → List Char → List Char
  | _, [] => []
  | offset, c :: rest =>
    if stop ≤ offset then []
    else if offset < start then sliceFrom start stop (offset + c.utf8Size) rest
    else c :: sliceFrom start stop (offset + c.utf8Size) rest

/-- The characters that start in the bytes from `start` up to `stop`. -/
def slice (start stop : Nat) (s : List Char) : List Char := sliceFrom start stop 0 s

end CodeAtlas.Chars
