/-
  CodeAtlas.Declaration — documented elements of a source file.

  A declaration is a type, a callable or a member, found at a range of lines of one file.  Its
  qualified name identifies it in the whole documentation; its parent, if it has one, is the
  qualified name of the type that contains it.
-/

namespace CodeAtlas

/-! ## §1. Classification -/

/-- The coarse kind of a declaration. -/
inductive Kind where
  | type
  | member
  | callable
  deriving DecidableEq, Repr, Inhabited

/-- The word for a kind. -/
def Kind.text : Kind → String
  | type => "type"
  | member => "member"
  | callable => "callable"

/-- The construct that a declaration was written as. -/
inductive Construct where
  | classType
  | interfaceType
  | traitType
  | enumType
  | method
  | function
  | property
  | constant
  | enumCase
  deriving DecidableEq, Repr, Inhabited

namespace Construct

/-- The word for a construct. -/
def text : Construct → String
  | classType => "class"
  | interfaceType => "interface"
  | traitType => "trait"
  | enumType => "enum"
  | method => "method"
  | function => "function"
  | property => "property"
  | constant => "constant"
  | enumCase => "enum_case"

/-- The kind of what a construct declares. -/
def kind : Construct → Kind
  | classType | interfaceType | traitType | enumType => .type
  | method | function => .callable
  | property | constant | enumCase => .member

end Construct

/-- Who may use a declaration. -/
inductive Visibility where
  | publicAccess
  | protectedAccess
  | privateAccess
  deriving DecidableEq, Repr, Inhabited

/-- The word for a visibility. -/
def Visibility.text : Visibility → String
  | publicAccess => "public"
  | protectedAccess => "protected"
  | privateAccess => "private"

/-! ## §2. Declarations -/

/-- A documented element. -/
structure Declaration where
  /-- The name as written: `bar`, `$count`, `Foo`. -/
  name : String
  /-- The name that no other declaration has: `App\Models\User.save`. -/
  qualifiedName : String
  kind : Kind
  construct : Construct
  /-- Qualified name of the type that contains the declaration. -/
  parent : Option String
  /-- Text of the documentation comment. -/
  documentation : String
  /-- The head of the declaration on one line. -/
  signature : String
  visibility : Visibility
  modifiers : List String
  filePath : String
  /-- First line, counted from one. -/
  lineStart : Nat
  /-- Last line. -/
  lineEnd : Nat
  deriving DecidableEq, Repr, Inhabited

namespace Declaration

/-- Whether a line lies in the range of the declaration. -/
def spans (d : Declaration) (line : Nat) : Bool := d.lineStart ≤ line && line ≤ d.lineEnd

/-- Whether another declaration lies in the same file and within the range of this one. -/
def contains (d e : Declaration) : Bool :=
  d.filePath == e.filePath && d.lineStart ≤ e.lineStart && e.lineEnd ≤ d.lineEnd

end Declaration
end CodeAtlas
