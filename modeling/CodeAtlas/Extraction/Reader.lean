/-
  CodeAtlas.Extraction.Reader — reading the parts of a declaration off its syntax.

  A `Reader` is what stays fixed while one file is read: its path, its text and whether private
  members are wanted.  It turns nodes into names, visibilities, modifiers, signatures and finally
  whole declarations.
-/
import CodeAtlas.Declaration
import CodeAtlas.Extraction.PhpDoc
import CodeAtlas.Name
import CodeAtlas.Text.Slice

namespace CodeAtlas

/-- The file being read and what is wanted of it. -/
structure Reader where
  path : String
  chars : List Char
  includePrivate : Bool

namespace Reader

/-! ## §1. Names -/

/-- The text of a node without blanks at its ends. -/
def text (r : Reader) (n : Node) : String :=
  String.ofList (Chars.trim (Chars.slice n.startByte n.endByte r.chars))

/-- The text of a node that is there and spells an identifier. -/
def identifier? (r : Reader) (n : Node) : Option String :=
  if n.missing then none
  else
    let name := r.text n
    if Name.isIdentifier name then some name else none

/-- The name of a type, a callable or an enum case. -/
def name? (r : Reader) (n : Node) : Option String :=
  (n.child? "name").bind r.identifier?

/-- The name of a constant: its first child of kind `name`. -/
def constantName? (r : Reader) (n : Node) : Option String :=
  (n.children.find? (·.kind == "name")).bind r.identifier?

/-- The name of a property, with its `$`. -/
def propertyName? (r : Reader) (n : Node) : Option String :=
  let named := (n.child? "name").or (n.children.find? (·.kind == "variable_name"))
  named.bind fun v =>
    if v.missing then none
    else
      let name := r.text v
      if Name.isIdentifier (Text.mapChars (List.dropWhile (· == '$')) name) then some name else none

/-! ## §2. Modifiers -/

/-- The visibility that the first visibility modifier among some nodes gives. -/
def visibility (r : Reader) (nodes : List Node) : Visibility :=
  match nodes.find? (·.kind == "visibility_modifier") with
  | none => .publicAccess
  | some n =>
    match Text.lowerAscii (r.text n) with
    | "private" => .privateAccess
    | "protected" => .protectedAccess
    | _ => .publicAccess

/-- Whether declarations of a visibility are wanted. -/
def shows (r : Reader) (v : Visibility) : Bool := r.includePrivate || v != .privateAccess

/-- The modifier that a node writes. -/
def modifier? (n : Node) : Option String :=
  match n.kind with
  | "static_modifier" => some "static"
  | "abstract_modifier" => some "abstract"
  | "final_modifier" => some "final"
  | "readonly_modifier" => some "readonly"
  | _ => none

/-! ## §3. Declarations -/

/-- The bytes from `start` up to `stop` on one line. -/
def oneLine (r : Reader) (start stop : Nat) : String :=
  Text.collapse (String.ofList (Chars.slice start stop r.chars))

/-- The head of a declaration: all that stands in front of its body, on one line, without a closing
semicolon. -/
def signature (r : Reader) (n : Node) : String :=
  let stop := ((n.child? "body").map Node.startByte).getD n.endByte
  Text.mapChars (fun s => Chars.trimEnd (Chars.dropEndWhile (· == ';') s))
    (r.oneLine n.startByte stop)

/-- The declaration that stands at a site. -/
def declaration (r : Reader) (site : Site) (construct : Construct) (name qualified : String)
    (parent : Option String) (visibility : Visibility) : Declaration where
  name := name
  qualifiedName := qualified
  kind := construct.kind
  construct := construct
  parent := parent
  documentation := PhpDoc.attached r.text site.node.startRow site.before
  signature := r.signature site.node
  visibility := visibility
  modifiers := site.node.children.filterMap modifier?
  filePath := r.path
  lineStart := site.node.startRow + 1
  lineEnd := site.node.endRow + 1

end Reader
end CodeAtlas
