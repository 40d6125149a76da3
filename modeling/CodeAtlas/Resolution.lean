/-
  CodeAtlas.Resolution — finding out what mentions point at.

  A mention is resolved to a declaration, taken for a name outside the documented sources, or left
  unresolved.  The name that the scope suggests comes first, then the written name.  A name written
  from the root names one declaration or none; other names may be found by their ending.  Only what
  is found nowhere can be external, and only if a pattern for external names matches it.

  * `Resolver.resolve`: the resolution of one mention.
  * `Resolver.references`, `Tally.ofReferences`: the references of a model and their tally.
-/
import CodeAtlas.Failure
import CodeAtlas.Pattern.Text
import CodeAtlas.SymbolTable

namespace CodeAtlas

/-! ## §1. Resolving -/

/-- What resolution needs: the declared names and the patterns for external ones. -/
structure Resolver where
  table : SymbolTable
  external : List Pattern

namespace Resolver

/-- The patterns of some texts; the first text that is no pattern is a failure. -/
def patterns : List String → Except Failure (List Pattern)
  | [] => .ok []
  | text :: rest =>
    match Pattern.parse? text with
    | none => .error (.badExternal text)
    | some p => (patterns rest).map (p :: ·)

/-- The resolver of a model. -/
def ofModel (m : Model) (external : List String) : Except Failure Resolver :=
  (patterns external).map (⟨SymbolTable.ofModel m, ·⟩)

/-- Whether a pattern for external names matches the written name or the suggested one. -/
def livesOutside (r : Resolver) (written : String) (hint : Option String) : Bool :=
  r.external.any fun p => p.isMatch written || hint.any p.isMatch

/-- Looks a written name up; one that starts at the root is never guessed. -/
def find (r : Resolver) (name : String) : Lookup :=
  if Text.startsWith "\\" name then
    if r.table.contains (Name.normalize name) then .found (Name.normalize name) else .missing
  else r.table.lookup (Name.normalize name)

/-- The resolution of a mention. -/
def resolve (r : Resolver) (m : Mention) : Resolution :=
  let hint := m.hint.map Name.normalize
  match hint.filter r.table.contains with
  | some target => .resolved target
  | none =>
    match r.find m.name with
    | .found target => .resolved target
    | .ambiguous => .unresolved
    | .missing => if r.livesOutside (Name.normalize m.name) hint then .external else .unresolved

/-- A mention with its resolution. -/
def reference (r : Resolver) (m : Mention) : Reference :=
  ⟨m.source, m.name, m.kind, m.line, r.resolve m⟩

/-- The references of some mentions, in their order. -/
def references (r : Resolver) (ms : List Mention) : List Reference := ms.map r.reference

end Resolver

/-! ## §2. Views of references -/

/-- The references whose source is a name. -/
def outgoing (source : String) (rs : List Reference) : List Reference :=
  rs.filter (·.source == source)

/-- The references that were resolved to a name. -/
def incoming (target : String) (rs : List Reference) : List Reference :=
  rs.filter (·.resolution.target? == some target)

/-- How many references were resolved, external and unresolved. -/
structure Tally where
  resolved : Nat := 0
  external : Nat := 0
  unresolved : Nat := 0
  deriving DecidableEq, Repr, Inhabited

namespace Tally

/-- Counts one resolution. -/
def add (t : Tally) : Resolution → Tally
  | .resolved _ => { t with resolved := t.resolved + 1 }
  | .external => { t with external := t.external + 1 }
  | .unresolved => { t with unresolved := t.unresolved + 1 }

/-- The tally of some references. -/
def ofReferences (rs : List Reference) : Tally := rs.foldl (fun t r => t.add r.resolution) {}

end Tally
end CodeAtlas
