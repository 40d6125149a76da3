/-
  CodeAtlas.Extraction.Statements — the declarations of a file.

  The walk goes through the statements of a file and keeps the scope in force.  A bracketed
  namespace opens a fresh scope for its body and restores the old one behind it; a namespace without
  a body stays in force from there on.  Statements of other kinds are searched for declarations.

  * `Extraction.ofTree`: everything found in one syntax tree.
-/
import CodeAtlas.Extraction.Imports
import CodeAtlas.Extraction.Recovery

namespace CodeAtlas

/-- The scope in force and what has been found so far. -/
structure Walk where
  scope : Scope := {}
  found : Extraction := {}

namespace Walk

/-- Declarations are read in the scope in force. -/
def setting (w : Walk) (r : Reader) : Setting := ⟨r, w.scope⟩

/-- Replaces what has been found. -/
def withFound (w : Walk) (x : Extraction) : Walk := { w with found := x }

/-- Enters a namespace without imports. -/
def enter (w : Walk) (name : String) : Walk := { w with scope := { current := name } }

/-- The construct of a type declaration. -/
def typeConstruct? : String → Option Construct
  | "class_declaration" => some .classType
  | "interface_declaration" => some .interfaceType
  | "trait_declaration" => some .traitType
  | "enum_declaration" => some .enumType
  | _ => none

/-- Nodes that hold no declarations. -/
def isInert (kind : String) : Bool :=
  kind == "comment" || kind == "php_tag" || kind == "text" || kind == "text_interpolation"

/-- The name of a namespace, empty if none is written. -/
def namespaceName (r : Reader) (children : List Node) : String :=
  ((children.find? (·.field == "name")).map r.text).getD ""

mutual

/-- Goes through statements; `before` holds the earlier siblings, nearest first. -/
def statements (r : Reader) (before : List Node) : List Node → Walk → Walk
  | [], w => w
  | n :: rest, w => statements r (n :: before) rest (statement r before n w)

/-- Goes through one statement. -/
def statement (r : Reader) (before : List Node) : Node → Walk → Walk
  | .mk tag children, w =>
    let site : Site := ⟨before, .mk tag children⟩
    match typeConstruct? tag.kind with
    | some construct => w.withFound ((w.setting r).typeDeclaration construct site w.found)
    | none =>
      match tag.kind with
      | "namespace_definition" =>
        let entered := w.enter (namespaceName r children)
        match blockOf r children entered with
        | some inner => { inner with scope := w.scope }
        | none => entered
      | "namespace_use_declaration" => { w with scope := w.scope.afterUse r site.node }
      | "function_definition" =>
        w.withFound ((w.setting r).callable none .function site w.found)
      | "const_declaration" => w.withFound ((w.setting r).constants none site w.found)
      | "ERROR" =>
        let w := statements r [] children w
        w.withFound ((w.setting r).recover tag.endRow children w.found)
      | kind => if isInert kind then w else statements r [] children w

/-- Goes through the statements of the first node that stands in the field `body`. -/
def blockOf (r : Reader) : List Node → Walk → Option Walk
  | [], _ => none
  | .mk tag children :: rest, w =>
    if tag.field == "body" then some (statements r [] children w) else blockOf r rest w

end

end Walk

/-- Everything found in a syntax tree. -/
def Extraction.ofTree (r : Reader) (tree : Node) : Extraction :=
  (Walk.statements r [] tree.children {}).found

end CodeAtlas
