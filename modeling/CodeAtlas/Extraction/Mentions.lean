/-
  CodeAtlas.Extraction.Mentions — the names that a declaration mentions.

  Types are mentioned by class clauses, parameters, return types and property types; bodies mention
  what they call and instantiate.  Each function lists candidates in document order, repeats
  included; dropping repeats is the business of the extraction that collects them.

  * `Mentioning.ofClass`: one written class name.
  * `Mentioning.ofType`: every class name in a type.
  * `Mentioning.inBody`: calls and instantiations of a body, in preorder.
-/
import CodeAtlas.Extraction.Reader
import CodeAtlas.Extraction.Scope
import CodeAtlas.Reference

namespace CodeAtlas

/-- The declaration that mentions names: its qualified name, the type that contains it, and the
scope it is read in. -/
structure Mentioning where
  reader : Reader
  scope : Scope
  source : String
  container : Option String

namespace Mentioning

/-- A mention at a node.  A hint that only repeats the written name is none. -/
def mention (m : Mentioning) (kind : ReferenceKind) (name : String) (hint : Option String)
    (place : Node) : Mention :=
  ⟨m.source, name, hint.filter (· != name), kind, place.line⟩

/-! ## §1. Types -/

/-- The mention that a class name makes, unless it is empty or reserved. -/
def ofClass (m : Mentioning) (kind : ReferenceKind) (n : Node) : Option Mention :=
  let written := m.reader.text n
  if written.isEmpty || Name.isReserved written then none
  else some (m.mention kind written (m.scope.expand written) n)

/-- The class names among some nodes. -/
def ofNames (m : Mentioning) (kind : ReferenceKind) (nodes : List Node) : List Mention :=
  (nodes.filter Node.isName).filterMap (m.ofClass kind)

/-- The class names in a type. -/
def ofType (m : Mentioning) (kind : ReferenceKind) (type : Node) : List Mention :=
  m.ofNames kind (type.outermost fun n => n.isName || n.kind == "primitive_type")

/-- The types named by the head of a type declaration. -/
def inTypeHead (m : Mentioning) (n : Node) : List Mention :=
  n.children.flatMap fun c =>
    match c.kind with
    | "base_clause" => m.ofNames .inherits c.children
    | "class_interface_clause" => m.ofNames .implements c.children
    | _ => []

/-! ## §2. Bodies -/

/-- A function called by its name. -/
def ofFunctionCall (m : Mentioning) (n : Node) : Option Mention :=
  (n.child? "function").bind fun f =>
    if f.isName then
      let written := m.reader.text f
      some (m.mention .calls written (m.scope.expand written) f)
    else none

/-- The qualified name that a static call suggests. -/
def scopedHint (m : Mentioning) (scope : Node) (className member : String) : Option String :=
  if scope.isName && !Name.isReserved className then
    (m.scope.expand className).map (Name.member · member)
  else if (scope.kind == "relative_scope" || scope.kind == "name") &&
      (className == "self" || className == "static") then
    m.container.map (Name.member · member)
  else none

/-- A static call with a plain member name. -/
def ofScopedCall (m : Mentioning) (n : Node) : Option Mention :=
  match n.child? "scope", n.child? "name" with
  | some scope, some member =>
    let member := m.reader.text member
    let className := m.reader.text scope
    if Name.isIdentifier member then
      some (m.mention .calls (className ++ "::" ++ member) (m.scopedHint scope className member)
        scope)
    else none
  | _, _ => none

/-- A call on `$this` inside a type. -/
def ofMemberCall (m : Mentioning) (n : Node) : Option Mention :=
  match n.child? "object", n.child? "name", m.container with
  | some object, some member, some container =>
    let name := m.reader.text member
    if m.reader.text object == "$this" && Name.isIdentifier name then
      some (m.mention .calls ("$this->" ++ name) (some (Name.member container name)) member)
    else none
  | _, _, _ => none

/-- The mention that a node of a body makes by itself. -/
def ofBodyNode (m : Mentioning) (n : Node) : Option Mention :=
  match n.kind with
  | "function_call_expression" => m.ofFunctionCall n
  | "scoped_call_expression" => m.ofScopedCall n
  | "member_call_expression" => m.ofMemberCall n
  | "object_creation_expression" =>
    (n.children.find? Node.isName).bind (m.ofClass .instantiates)
  | _ => none

/-- The mentions of a body in document order. -/
def inBody (m : Mentioning) (body : Node) : List Mention :=
  body.preorder.filterMap m.ofBodyNode

/-- The mentions of a function or method: parameter types, return type, body. -/
def inCallable (m : Mentioning) (n : Node) : List Mention :=
  let parameters := ((n.child? "parameters").map Node.children).getD []
  let parameterTypes := parameters.filterMap (·.child? "type")
  parameterTypes.flatMap (m.ofType .parameterType)
    ++ ((n.child? "return_type").map (m.ofType .returnType)).getD []
    ++ ((n.child? "body").map m.inBody).getD []

end Mentioning
end CodeAtlas
