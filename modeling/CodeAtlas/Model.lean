/-
  CodeAtlas.Model — the declarations of a whole source tree.

  A model joins the parsed units of a run.  Units are taken in path order, so a name that two files
  declare keeps the declaration of the first path, whatever order the units came in.  A declaration
  that loses its name, or does not lie within its parent, is dropped with everything nested in it.

  * `Model.ofUnits`: the model of parsed units and the warnings of joining them.
  * `Model.parentless`, `Model.membersOf`: declarations in name order.
-/
import CodeAtlas.Declaration
import CodeAtlas.Reference
import CodeAtlas.SourceUnit
import CodeAtlas.Table
import CodeAtlas.Warning

namespace CodeAtlas

/-- What is kept of a file. -/
structure FileSummary where
  lineCount : Nat
  declarations : Nat
  deriving DecidableEq, Repr, Inhabited

/-- The declarations and mentions of a source tree. -/
structure Model where
  sourceRoot : String
  files : Table String FileSummary := ∅
  declarations : Table String Declaration := ∅
  references : List Mention := []
  deriving DecidableEq, Inhabited

namespace Model

/-! ## §1. Views -/

/-- The declaration of a qualified name. -/
def get? (m : Model) (name : String) : Option Declaration := m.declarations.get? name

/-- Declarations without a parent. -/
def parentless (m : Model) : List Declaration := m.declarations.values.filter (·.parent.isNone)

/-- Declarations with the given parent. -/
def membersOf (m : Model) (name : String) : List Declaration :=
  m.declarations.values.filter (·.parent == some name)

/-! ## §2. Assembly -/

/-- The model under construction: what is declared, which names of the unit at hand were dropped,
how many of its declarations were kept, and the warnings so far. -/
structure Assembly where
  declarations : Table String Declaration := ∅
  dropped : List String := []
  kept : Nat := 0
  warnings : List Warning := []

namespace Assembly

/-- Drops a declaration with a warning. -/
def reject (a : Assembly) (d : Declaration) (message : String) : Assembly :=
  { a with
    dropped := d.qualifiedName :: a.dropped
    warnings := a.warnings ++ [Warning.ofDeclaration d.filePath d.lineStart message] }

/-- Whether a declaration lies within its parent and has a range. -/
def fits (a : Assembly) (d : Declaration) : Bool :=
  let within :=
    match d.parent with
    | none => true
    | some p => (a.declarations.get? p).any (·.contains d)
  within && d.lineStart ≤ d.lineEnd

/-- Takes in the next declaration of the unit at hand. -/
def add (a : Assembly) (d : Declaration) : Assembly :=
  if d.parent.any a.dropped.contains then
    { a with dropped := d.qualifiedName :: a.dropped }
  else
    match a.declarations.get? d.qualifiedName with
    | some e =>
      a.reject d ("`" ++ d.qualifiedName ++ "` is already declared in " ++ e.filePath ++ ":"
        ++ toString e.lineStart ++ "; dropped")
    | none =>
      if a.fits d then
        { a with declarations := a.declarations.insert d.qualifiedName d, kept := a.kept + 1 }
      else a.reject d ("`" ++ d.qualifiedName ++ "` has an inconsistent range; dropped")

end Assembly

/-- Takes in one parsed unit: its declarations, the mentions whose source was not dropped, and its
summary. -/
def addUnit (state : Model × List Warning) (u : ParsedUnit) : Model × List Warning :=
  let (m, warnings) := state
  let a := u.declarations.foldl Assembly.add
    { declarations := m.declarations, warnings := warnings }
  ({ m with
      files := m.files.insert u.filePath ⟨u.lineCount, a.kept⟩
      declarations := a.declarations
      references := m.references ++ u.references.filter fun r => !a.dropped.contains r.source },
    a.warnings)

/-- Keeps the mentions of declared sources, sorted, each once. -/
def settleReferences (m : Model) : Model :=
  { m with
    references := sortDistinct Mention.order
      (m.references.filter fun r => m.declarations.contains r.source) }

/-- Joins parsed units. -/
def ofUnits (sourceRoot : String) (units : List ParsedUnit) : Model × List Warning :=
  let sorted := sortBy (compareOn ParsedUnit.filePath) units
  let (m, warnings) := sorted.foldl addUnit ({ sourceRoot := sourceRoot }, [])
  (m.settleReferences, warnings)

end Model
end CodeAtlas
