/-
  CodeAtlas.Extraction.Scope — namespaces and class imports.

  A scope is the namespace in force and the classes imported into it, by the lower-cased alias.
  `Scope.expand` gives the qualified name that a written class name stands for.
-/
import CodeAtlas.Name
import CodeAtlas.Table

namespace CodeAtlas

/-- The namespace in force and its imports. -/
structure Scope where
  /-- The namespace, empty for the global one. -/
  current : String := ""
  /-- Imported classes by lower-cased alias. -/
  imports : Table String String := ∅
  deriving Inhabited

namespace Scope

/-- A name in the namespace in force. -/
def qualify (s : Scope) (name : String) : String :=
  if s.current.isEmpty then name else s.current ++ "\\" ++ name

/-- Imports a class under an alias, over an earlier import of that alias.  An empty path or alias
imports nothing. -/
def importAs (s : Scope) (short path : String) : Scope :=
  if path.isEmpty || short.isEmpty then s
  else { s with imports := s.imports.insert (Text.lowerAscii short) path }

/-- The qualified name that a written class name stands for.  `\A\B` is `A\B`, `namespace\A` lies
in the namespace in force, a first segment that is an imported alias is replaced by the import, and
any other name lies in the namespace in force.  In the global namespace such a name suggests
nothing. -/
def expand (s : Scope) (written : String) : Option String :=
  match written.toList with
  | '\\' :: rest => some (String.ofList rest)
  | chars =>
    match Text.dropPrefix? "namespace\\" written with
    | some relative => some (s.qualify relative)
    | none =>
      let (first, rest) :=
        match Chars.splitOnce '\\' chars with
        | some (first, rest) => (String.ofList first, some (String.ofList rest))
        | none => (written, none)
      match s.imports.get? (Text.lowerAscii first), rest with
      | some path, some rest => some (path ++ "\\" ++ rest)
      | some path, none => some path
      | none, _ => if s.current.isEmpty then none else some (s.qualify written)

end Scope
end CodeAtlas
