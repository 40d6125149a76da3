/-
  CodeAtlas.SymbolTable — looking names up.

  A symbol table holds qualified names, indexed by their last segment.  `lookup` tries the whole
  name, then names that end in it at a segment boundary, then names with the same last segment.
  The first step that finds any candidate decides: one candidate is the answer, several are
  ambiguous.  A name with a member part is never guessed by its last segment.
-/
import CodeAtlas.Model
import CodeAtlas.Name

namespace CodeAtlas

/-- The result of looking a name up. -/
inductive Lookup where
  | found (name : String)
  | ambiguous
  | missing
  deriving DecidableEq, Repr, Inhabited

/-- The answer that a list of candidates gives. -/
def Lookup.ofCandidates : List String → Lookup
  | [] => missing
  | [name] => found name
  | _ => ambiguous

/-- Qualified names and an index by last segment. -/
structure SymbolTable where
  names : Table String Unit := ∅
  byLocal : Table String (List String) := ∅
  deriving Inhabited

namespace SymbolTable

/-! ## §1. Filling -/

/-- Adds a name. -/
def add (t : SymbolTable) (name : String) : SymbolTable where
  names := t.names.insert name ()
  byLocal := t.byLocal.upsert (Name.unqualified name) fun l => l.getD [] ++ [name]

/-- The table of some names; a repeated name is listed twice under its last segment. -/
def ofNames (names : List String) : SymbolTable :=
  let t := names.foldl add {}
  { t with byLocal := t.byLocal.map (sortBy compare) }

/-- The table of a model. -/
def ofModel (m : Model) : SymbolTable := ofNames m.declarations.keys

/-! ## §2. Looking up -/

/-- Whether a qualified name is in the table. -/
def contains (t : SymbolTable) (name : String) : Bool := t.names.contains name

/-- Names with a given last segment. -/
def withUnqualified (t : SymbolTable) (segment : String) : List String :=
  (t.byLocal.get? segment).getD []

/-- Whether a name is the ending itself, or ends in it behind a separator. -/
def endsAtSegment (ending name : String) : Bool :=
  name == ending ||
    match Chars.dropSuffix? ending.toList name.toList with
    | some head => head.getLast?.any Name.isSeparator
    | none => false

/-- Names that end in a partial name at a segment boundary. -/
def withEnding (t : SymbolTable) (ending : String) : List String :=
  (t.withUnqualified (Name.unqualified ending)).filter (endsAtSegment ending)

/-- Looks a written name up. -/
def lookup (t : SymbolTable) (written : String) : Lookup :=
  let name := Name.normalize written
  if t.contains name then .found name
  else
    match t.withEnding name with
    | [] =>
      if name.toList.contains '.' then .missing
      else Lookup.ofCandidates (t.withUnqualified (Name.unqualified name))
    | candidates => Lookup.ofCandidates candidates

end SymbolTable
end CodeAtlas
