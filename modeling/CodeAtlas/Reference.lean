/-
  CodeAtlas.Reference — how declarations mention each other.

  A `Mention` is a name as a declaration's head or body writes it, with the qualified name that
  namespace and imports suggest.  A `Reference` is a mention together with its `Resolution`: the
  declaration it points at, a name outside the documented sources, or nothing known.
-/

namespace CodeAtlas

/-! ## §1. Mentions -/

/-- The role in which a name is mentioned. -/
inductive ReferenceKind where
  | inherits
  | implements
  | usesTrait
  | parameterType
  | returnType
  | propertyType
  | instantiates
  | calls
  deriving DecidableEq, Repr, Inhabited

namespace ReferenceKind

/-- The word for a role. -/
def text : ReferenceKind → String
  | inherits => "extends"
  | implements => "implements"
  | usesTrait => "uses_trait"
  | parameterType => "parameter_type"
  | returnType => "return_type"
  | propertyType => "property_type"
  | instantiates => "instantiates"
  | calls => "calls"

/-- Place of a role in the order of references. -/
def rank : ReferenceKind → Nat
  | inherits => 0
  | implements => 1
  | usesTrait => 2
  | parameterType => 3
  | returnType => 4
  | propertyType => 5
  | instantiates => 6
  | calls => 7

end ReferenceKind

/-- A name mentioned by a declaration, before resolution. -/
structure Mention where
  /-- Qualified name of the declaration that mentions it. -/
  source : String
  /-- The name as written: `Foo`, `\Foo\Bar`, `Foo::bar`. -/
  name : String
  /-- The qualified name that the scope suggests, where it differs from the written name. -/
  hint : Option String
  kind : ReferenceKind
  line : Nat
  deriving DecidableEq, Repr, Inhabited

/-- Mentions are ordered by source, name, hint (none first), role and line. -/
def Mention.order : Mention → Mention → Ordering :=
  compareLex (compareOn (·.source)) <|
  compareLex (compareOn (·.name)) <|
  compareLex (compareOn (·.hint)) <|
  compareLex (compareOn (·.kind.rank)) (compareOn (·.line))

/-! ## §2. Resolved references -/

/-- What a mention turned out to point at. -/
inductive Resolution where
  | resolved (target : String)
  | external
  | unresolved
  deriving DecidableEq, Repr, Inhabited

/-- The declaration that a resolution names. -/
def Resolution.target? : Resolution → Option String
  | resolved t => some t
  | _ => none

/-- A mention and its resolution. -/
structure Reference where
  source : String
  name : String
  kind : ReferenceKind
  line : Nat
  resolution : Resolution
  deriving DecidableEq, Repr, Inhabited

end CodeAtlas
