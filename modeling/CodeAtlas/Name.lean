/-
  CodeAtlas.Name — names of declarations.

  A qualified name is a path of segments: namespaces are separated by `\`, a member follows its
  type after a `.` (`App\Models\User.save`).  Written names also use `::` for static access and may
  start with `\`; `Name.normalize` brings them to the qualified form.
-/
import CodeAtlas.Text.Segment
import CodeAtlas.Text.Lowercase

namespace CodeAtlas.Name

/-! ## §1. Segments -/

/-- The characters that end a segment. -/
def isSeparator (c : Char) : Bool := c == '.' || c == '\\'

/-- The last segment of a qualified name: `bar` of `App\Foo.bar`. -/
def unqualified (qualified : String) : String :=
  Text.mapChars (Chars.afterLast isSeparator) qualified

/-- The part of a class path behind its last `\`. -/
def lastPart (path : String) : String := Text.mapChars (Chars.afterLast (· == '\\')) path

/-- Drops every leading `\`. -/
def dropRoot (name : String) : String := Text.mapChars (List.dropWhile (· == '\\')) name

/-- Writes static access with a dot. -/
def dotted : List Char → List Char
  | [] => []
  | ':' :: ':' :: rest => '.' :: dotted rest
  | c :: rest => c :: dotted rest

/-- The qualified form of a written name: no leading `\`, and `Foo.bar` for `Foo::bar`. -/
def normalize (name : String) : String :=
  Text.mapChars (fun s => dotted (s.dropWhile (· == '\\'))) name

/-- A member of a container. -/
def member (container name : String) : String := container ++ "." ++ name

/-! ## §2. Identifiers -/

/-- Characters of an identifier; every character beyond ASCII counts as a letter. -/
def isIdentifierChar (c : Char) : Bool :=
  c.isAlphanum || c == '_' || c == '$' || 128 ≤ c.toNat

/-- Whether a name is an identifier. -/
def isIdentifier (name : String) : Bool :=
  !name.isEmpty && name.toList.all isIdentifierChar

/-- Names that look like types and never point at a declaration. -/
def reservedNames : List String :=
  ["array", "bool", "callable", "false", "float", "int", "iterable", "mixed", "never", "null",
   "object", "parent", "self", "static", "string", "true", "void"]

/-- Whether a name is reserved, in any case. -/
def isReserved (name : String) : Bool := reservedNames.contains (Text.lowerAscii name)

end CodeAtlas.Name
