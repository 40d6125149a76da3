/-
  CodeAtlas.Text.Segment — openings, endings and separated parts of texts.

  Qualified names and paths are texts cut by separators.  The cuts are stated over character lists;
  the string forms read and write them.

  * `Chars.afterLast`, `Chars.splitOnce`, `Chars.split`: cuts at separators.
  * `Chars.splitAtMark`: the cut at a mark of several characters.
  * `Text.dropPrefix?`, `Text.dropSuffix?`: a given opening or ending taken off.
-/
import CodeAtlas.Text.Blank

namespace CodeAtlas

namespace Chars

/-- The part behind the last character that satisfies `p`, or the whole list. -/
def afterLast (p : Char → Bool) : List Char → List Char
  | [] => []
  | c :: rest => if rest.any p then afterLast p rest else if p c then rest else c :: rest

/-- The parts in front of and behind the first `sep`. -/
def splitOnce (sep : Char) : List Char → Option (List Char × List Char)
  | [] => none
  | c :: rest =>
    if c = sep then some ([], rest)
    else (splitOnce sep rest).map fun (a, b) => (c :: a, b)

/-- The parts between separators; one more than there are separators. -/
def split (sep : Char) : List Char → List (List Char)
  | [] => [[]]
  | c :: rest =>
    if c = sep then [] :: split sep rest
    else
      match split sep rest with
      | [] => [[c]]
      | w :: ws => (c :: w) :: ws

/-- What follows an opening. -/
def dropPrefix? (opening s : List Char) : Option (List Char) :=
  match opening, s with
  | [], s => some s
  | _ :: _, [] => none
  | o :: os, c :: cs => if o = c then dropPrefix? os cs else none

/-- What precedes an ending. -/
def dropSuffix? (ending s : List Char) : Option (List Char) :=
  (dropPrefix? ending.reverse s.reverse).map List.reverse

/-- The parts in front of and behind the first occurrence of a mark. -/
def splitAtMark (mark : List Char) : List Char → Option (List Char × List Char)
  | [] => none
  | c :: rest =>
    match dropPrefix? mark (c :: rest) with
    | some after => some ([], after)
    | none => (splitAtMark mark rest).map fun (a, b) => (c :: a, b)

/-- Whether a mark occurs. -/
def hasMark (mark s : List Char) : Bool := (splitAtMark mark s).isSome

end Chars

namespace Text

/-- What follows an opening. -/
def dropPrefix? (opening s : String) : Option String :=
  (Chars.dropPrefix? opening.toList s.toList).map String.ofList

/-- What precedes an ending. -/
def dropSuffix? (ending s : String) : Option String :=
  (Chars.dropSuffix? ending.toList s.toList).map String.ofList

/-- Whether a text has an opening. -/
def startsWith (opening s : String) : Bool := (dropPrefix? opening s).isSome

/-- Whether a text has an ending. -/
def endsWith (ending s : String) : Bool := (dropSuffix? ending s).isSome

/-- The parts between separators. -/
def split (sep : Char) (s : String) : List String := (Chars.split sep s.toList).map String.ofList

end Text
end CodeAtlas
