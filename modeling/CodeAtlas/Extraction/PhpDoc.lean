/-
  CodeAtlas.Extraction.PhpDoc — documentation comments.

  A documentation comment opens with `/**`.  It belongs to a declaration when only comments stand
  between the two and each of them, itself included, ends on the row where the next item starts or
  on the row above.  Its text is what remains without the delimiters, the star gutter and the empty
  lines at both ends; the markup inside is left alone.
-/
import CodeAtlas.Syntax.Node
import CodeAtlas.Text.Lines
import CodeAtlas.Text.Segment

namespace CodeAtlas.PhpDoc

/-! ## §1. The text of a comment -/

/-- One line of a comment without its gutter. -/
def cleanLine (line : List Char) : List Char :=
  match Chars.trim line with
  | '*' :: ' ' :: rest => Chars.trimEnd rest
  | '*' :: rest => Chars.trimEnd rest
  | plain => plain

/-- Drops empty lines at both ends. -/
def dropEmptyEnds (lines : List (List Char)) : List (List Char) :=
  ((lines.dropWhile List.isEmpty).reverse.dropWhile List.isEmpty).reverse

/-- What stands between the delimiters. -/
def inner (raw : List Char) : List Char :=
  let opened := (Chars.dropPrefix? ['/', '*', '*'] raw).getD raw
  (Chars.dropSuffix? ['*', '/'] opened).getD opened

/-- The lines of a documentation comment. -/
def cleanLines (raw : List Char) : List (List Char) :=
  dropEmptyEnds ((Chars.lines (inner raw)).map cleanLine)

/-- The text of a documentation comment. -/
def clean (raw : String) : String :=
  "\n".intercalate ((cleanLines raw.toList).map String.ofList)

/-! ## §2. The comment of a declaration -/

/-- The documentation of an item that starts at `row`, given its earlier siblings, nearest first,
and the text of each node. -/
def attached (textOf : Node → String) (row : Nat) : List Node → String
  | [] => ""
  | s :: rest =>
    if s.kind != "comment" || s.endRow + 1 < row then ""
    else if Text.startsWith "/**" (textOf s) then clean (textOf s)
    else attached textOf s.startRow rest

end CodeAtlas.PhpDoc
