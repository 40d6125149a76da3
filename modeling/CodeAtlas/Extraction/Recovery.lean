/-
  CodeAtlas.Extraction.Recovery — declarations in regions that could not be read.

  A keyword such as `class` or `function` that stands loose in an unreadable region still names a
  declaration when the next named node is an identifier.  The declaration is kept with a range that
  runs to the end of the region, and a warning says so.  The first type recovered from a region
  becomes the container of the functions behind it, and the region is searched for its members.
-/
import CodeAtlas.Extraction.Members

namespace CodeAtlas.Setting

/-- What a loose keyword declares; a function inside a recovered type is a method. -/
def looseConstruct? (keyword : String) (container : Option String) : Option Construct :=
  match keyword with
  | "class" => some .classType
  | "interface" => some .interfaceType
  | "trait" => some .traitType
  | "enum" => some .enumType
  | "function" => some (if container.isSome then .method else .function)
  | _ => none

/-- Whether a node is a modifier of any sort. -/
def isModifier (n : Node) : Bool := Text.endsWith "_modifier" n.kind

/-- A keyword loose in a region: the nodes in front of it, nearest first, and behind it. -/
structure Loose where
  before : List Node
  token : Node
  after : List Node

namespace Loose

/-- The modifiers directly in front of the keyword, in order. -/
def modifiers (l : Loose) : List Node := (l.before.takeWhile isModifier).reverse

/-- The first modifier, or the keyword, in its place. -/
def head (l : Loose) : Site := ⟨l.before.dropWhile isModifier, l.modifiers.headD l.token⟩

/-- Whether the keyword follows `::`, as in `Foo::class`. -/
def followsScope (l : Loose) : Bool := (l.before.head?.map (·.kind == "::")).getD false

/-- The node that names the declaration. -/
def nameNode? (l : Loose) : Option Node :=
  (l.after.find? Node.named).filter (·.kind == "name")

end Loose

/-- The declaration of a loose keyword in a region that ends on row `endRow`. -/
def recovered (s : Setting) (endRow : Nat) (l : Loose) (construct : Construct)
    (container : Option String) (nameNode : Node) (name : String) : Declaration :=
  let head := l.head
  let parent := if construct = .method then container else none
  { name := name
    qualifiedName := s.qualify parent name
    kind := construct.kind
    construct := construct
    parent := parent
    documentation := PhpDoc.attached s.reader.text head.node.startRow head.before
    signature := s.reader.oneLine head.node.startByte nameNode.endByte
    visibility := s.reader.visibility l.modifiers
    modifiers := l.modifiers.filterMap Reader.modifier?
    filePath := s.reader.path
    lineStart := head.node.startRow + 1
    lineEnd := endRow + 1 }

/-- The declaration that a loose keyword makes, if it makes one that is wanted. -/
def loose? (s : Setting) (endRow : Nat) (container : Option String) (l : Loose) :
    Option Declaration := do
  let construct ← looseConstruct? l.token.kind container
  if l.followsScope then none
  let nameNode ← l.nameNode?
  let name ← s.reader.identifier? nameNode
  let d := s.recovered endRow l construct container nameNode name
  if s.reader.shows d.visibility then some d else none

/-- The warning that a declaration was found in an unreadable region. -/
def recoveryText (d : Declaration) : String :=
  d.construct.text ++ " `" ++ d.qualifiedName ++ "` recovered from a syntax error"

/-- Goes through the nodes of a region.  `container` is the type recovered so far. -/
def recoverFrom (s : Setting) (endRow : Nat) (region : List Node) :
    List Node → List Node → Option String → Extraction → Extraction
  | _, [], _, x => x
  | before, token :: after, container, x =>
    match s.loose? endRow container ⟨before, token, after⟩ with
    | none => s.recoverFrom endRow region (token :: before) after container x
    | some d =>
      if x.declares d.qualifiedName then
        let x := x.warn s.reader token.line (Extraction.duplicateText d.qualifiedName)
        s.recoverFrom endRow region (token :: before) after container x
      else
        let x := (x.push d).warn s.reader d.lineStart (recoveryText d)
        if d.kind = .type && container.isNone then
          s.recoverFrom endRow region (token :: before) after (some d.qualifiedName)
            (s.members d.qualifiedName region x)
        else s.recoverFrom endRow region (token :: before) after container x

/-- The declarations of an unreadable region. -/
def recover (s : Setting) (endRow : Nat) (region : List Node) (x : Extraction) : Extraction :=
  s.recoverFrom endRow region [] region none x

end CodeAtlas.Setting
