/-
  CodeAtlas.Extraction.Imports — `use` declarations.

  A `use` declaration imports classes one by one or as a group below a common path.  Declarations
  that import functions or constants fill other symbol tables and leave the scope alone.
-/
import CodeAtlas.Extraction.Reader
import CodeAtlas.Extraction.Scope

namespace CodeAtlas

/-- One imported class: its path below the group's path, and the alias if one is written. -/
structure ImportClause where
  path : String
  shortName : Option String
  deriving DecidableEq, Repr

namespace ImportClause

/-- Whether a node is a clause of a `use` declaration. -/
def isClause (n : Node) : Bool :=
  n.kind == "namespace_use_clause" || n.kind == "namespace_use_group_clause"

/-- The node that writes the alias of a clause: in its own field, in an aliasing clause, or behind
the word `as`. -/
def aliasNode? (clause : Node) : Option Node :=
  let ofClause := (clause.children.find? (·.kind == "namespace_aliasing_clause")).bind
    fun a => a.children.find? (·.kind == "name")
  let behindAs := (clause.children.dropWhile (·.kind != "as")).find? (·.kind == "name")
  (clause.child? "alias").or (ofClause.or behindAs)

/-- Reads a clause; one without a path imports nothing. -/
def read? (r : Reader) (clause : Node) : Option ImportClause :=
  (clause.children.find? fun n => n.isName || n.kind == "namespace_name").map fun path =>
    ⟨r.text path, (aliasNode? clause).map r.text⟩

/-- The full path of a clause in a group with the given path, empty outside a group. -/
def fullPath (group : String) (c : ImportClause) : String :=
  if group.isEmpty then Name.dropRoot c.path else Name.dropRoot group ++ "\\" ++ c.path

end ImportClause

namespace Scope

/-- Imports one clause of a group. -/
def importClause (group : String) (s : Scope) (c : ImportClause) : Scope :=
  let path := c.fullPath group
  s.importAs (c.shortName.getD (Name.lastPart path)) path

/-- The scope after a `use` declaration. -/
def afterUse (r : Reader) (s : Scope) (decl : Node) : Scope :=
  if decl.children.any fun n => n.kind == "function" || n.kind == "const" then s
  else
    let group := ((decl.children.filter (·.kind == "namespace_name")).getLast?.map r.text).getD ""
    let clauses := Node.outermostAll ImportClause.isClause decl.children
    (clauses.filterMap (ImportClause.read? r)).foldl (importClause group) s

end Scope
end CodeAtlas
