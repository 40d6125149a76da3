/-
  CodeAtlas.Extraction.Basic — what has been found in a file so far.

  An extraction grows at its end only.  A qualified name is declared once: a second declaration of
  it is dropped with a warning, and so is everything that would have followed from it.  A source
  mentions a name in one role once, with the line and hint of the first mention.
-/
import CodeAtlas.Declaration
import CodeAtlas.Reference
import CodeAtlas.Warning
import CodeAtlas.Extraction.Reader

namespace CodeAtlas

/-- Declarations, mentions and problems of one file, in the order in which they were met. -/
structure Extraction where
  declarations : List Declaration := []
  references : List Mention := []
  warnings : List Warning := []
  deriving DecidableEq, Inhabited

namespace Extraction

/-- Whether a qualified name is declared. -/
def declares (x : Extraction) (name : String) : Bool :=
  x.declarations.any (·.qualifiedName == name)

/-- Notes a problem with a declaration. -/
def warn (x : Extraction) (r : Reader) (line : Nat) (message : String) : Extraction :=
  { x with warnings := x.warnings ++ [Warning.ofDeclaration r.path line message] }

/-- Adds a declaration. -/
def push (x : Extraction) (d : Declaration) : Extraction :=
  { x with declarations := x.declarations ++ [d] }

/-- The warning that a qualified name is taken. -/
def duplicateText (name : String) : String := "duplicate declaration `" ++ name ++ "` dropped"

/-- Declares `d` and goes on with `next`, unless its qualified name is taken; `place` is the node
that a warning about it points at. -/
def declare (x : Extraction) (r : Reader) (place : Node) (d : Declaration)
    (next : Extraction → Extraction) : Extraction :=
  if x.declares d.qualifiedName then x.warn r place.line (duplicateText d.qualifiedName)
  else next (x.push d)

/-- Passes over a declaration that has no name. -/
def passUnnamed (x : Extraction) (r : Reader) (place : Node) (construct : Construct) : Extraction :=
  x.warn r place.line (construct.text ++ " declaration without a recoverable name dropped")

/-- Whether a source has mentioned a name in a role. -/
def mentions (x : Extraction) (m : Mention) : Bool :=
  x.references.any fun p => p.source == m.source && p.kind == m.kind && p.name == m.name

/-- Adds a mention unless its source has made it before. -/
def mention (x : Extraction) (m : Mention) : Extraction :=
  if x.mentions m then x else { x with references := x.references ++ [m] }

/-- Adds mentions in order. -/
def mentionAll (x : Extraction) (ms : List Mention) : Extraction := ms.foldl mention x

end Extraction
end CodeAtlas
