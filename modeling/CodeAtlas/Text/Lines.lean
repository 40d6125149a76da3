/-
  CodeAtlas.Text.Lines — the lines of a text.

  A line feed ends a line, and a carriage return directly before it belongs to the ending.  A final
  line feed opens no further line, so a text and the same text with one line feed more have equally
  many lines.  No other character ends a line.
-/
import CodeAtlas.Text.Blank

namespace CodeAtlas

namespace Chars

/-- The lines of a text, without their endings. -/
def lines : List Char → List (List Char)
  | [] => []
  | '\n' :: rest => [] :: lines rest
  | '\r' :: '\n' :: rest => [] :: lines rest
  | c :: rest =>
    match lines rest with
    | [] => [[c]]
    | l :: ls => (c :: l) :: ls

end Chars

namespace Text

/-- Number of lines of a text. -/
def lineCount (s : String) : Nat := (Chars.lines s.toList).length

end Text
end CodeAtlas
