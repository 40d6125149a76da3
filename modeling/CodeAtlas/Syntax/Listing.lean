/-
  CodeAtlas.Syntax.Listing — syntax trees as text.

  A listing holds a tree in document order, one node a line.  Tabs stand between its columns: depth,
  kind, whether the node is named, whether it is missing, field, first byte, end byte, first row and
  last row.  A flag is `0` or `1`.

  * `Node.ofListing?`: the tree of a listing.
-/
import CodeAtlas.Metric
import CodeAtlas.Syntax.Node
import CodeAtlas.Text.Lines
import CodeAtlas.Text.Segment

namespace CodeAtlas.Node

/-- Reads a flag. -/
def flag? : String → Option Bool
  | "0" => some false
  | "1" => some true
  | _ => none

/-- Reads a line of a listing: a node and its depth. -/
def rowOfLine? (line : List Char) : Option (Nat × Tag) :=
  match (Chars.split '\t' line).map String.ofList with
  | [depth, kind, named, missing, field, startByte, endByte, startRow, endRow] => do
    return (← readCount? depth, {
      kind := kind
      named := ← flag? named
      missing := ← flag? missing
      field := field
      startByte := ← readCount? startByte
      endByte := ← readCount? endByte
      startRow := ← readCount? startRow
      endRow := ← readCount? endRow })
  | _ => none

/-- The tree of a listing. -/
def ofListing? (text : String) : Option Node :=
  ((Chars.lines text.toList).mapM rowOfLine?).bind ofRows?

end CodeAtlas.Node
