/-
  CodeAtlas.Extraction.Members — types, callables and what types contain.

  Every function takes the extraction so far and returns it with what one declaration adds.  The
  members of a type are its methods, properties, constants and enum cases; regions that could not be
  read are searched for members as if they were part of the body.
-/
import CodeAtlas.Extraction.Basic
import CodeAtlas.Extraction.Mentions

namespace CodeAtlas

/-- What declarations of a file are read with: the file and the scope in force. -/
structure Setting where
  reader : Reader
  scope : Scope

namespace Setting

/-- The qualified name of `name` in a container, or in the namespace in force. -/
def qualify (s : Setting) (container : Option String) (name : String) : String :=
  match container with
  | some c => Name.member c name
  | none => s.scope.qualify name

/-- The view from which a declaration mentions names. -/
def mentioning (s : Setting) (source : String) (container : Option String) : Mentioning :=
  ⟨s.reader, s.scope, source, container⟩

/-! ## §1. Single declarations -/

/-- A function, or a method of a container. -/
def callable (s : Setting) (container : Option String) (construct : Construct) (site : Site)
    (x : Extraction) : Extraction :=
  match s.reader.name? site.node with
  | none => x.passUnnamed s.reader site.node construct
  | some name =>
    let visibility := s.reader.visibility site.node.children
    if s.reader.shows visibility then
      let qualified := s.qualify container name
      let d := s.reader.declaration site construct name qualified container visibility
      x.declare s.reader site.node d fun x =>
        x.mentionAll ((s.mentioning qualified container).inCallable site.node)
    else x

/-- One property of a property declaration. -/
def property (s : Setting) (container : String) (site : Site) (visibility : Visibility)
    (x : Extraction) (element : Node) : Extraction :=
  match s.reader.propertyName? element with
  | none => x.passUnnamed s.reader element .property
  | some name =>
    let qualified := Name.member container name
    let d := s.reader.declaration site .property name qualified (some container) visibility
    x.declare s.reader element d fun x =>
      match site.node.child? "type" with
      | some type =>
        x.mentionAll ((s.mentioning qualified (some container)).ofType .propertyType type)
      | none => x

/-- The properties of a property declaration. -/
def properties (s : Setting) (container : String) (site : Site) (x : Extraction) : Extraction :=
  let visibility := s.reader.visibility site.node.children
  if s.reader.shows visibility then
    (site.node.children.filter (·.kind == "property_element")).foldl
      (s.property container site visibility) x
  else x

/-- One constant of a constant declaration. -/
def constant (s : Setting) (container : Option String) (site : Site) (visibility : Visibility)
    (x : Extraction) (element : Node) : Extraction :=
  match s.reader.constantName? element with
  | none => x.passUnnamed s.reader element .constant
  | some name =>
    let qualified := s.qualify container name
    let d := s.reader.declaration site .constant name qualified container visibility
    x.declare s.reader element d id

/-- The constants of a constant declaration. -/
def constants (s : Setting) (container : Option String) (site : Site) (x : Extraction) :
    Extraction :=
  let visibility := s.reader.visibility site.node.children
  if s.reader.shows visibility then
    (site.node.children.filter (·.kind == "const_element")).foldl
      (s.constant container site visibility) x
  else x

/-- A case of an enum. -/
def enumCase (s : Setting) (container : String) (site : Site) (x : Extraction) : Extraction :=
  match s.reader.name? site.node with
  | none => x.passUnnamed s.reader site.node .enumCase
  | some name =>
    let d := s.reader.declaration site .enumCase name (Name.member container name)
      (some container) .publicAccess
    x.declare s.reader site.node d id

/-! ## §2. Bodies of types -/

/-- What one item in the body of a type adds. -/
def member (s : Setting) (container : String) (x : Extraction) (site : Site) : Extraction :=
  match site.node.kind with
  | "method_declaration" => s.callable (some container) .method site x
  | "property_declaration" => s.properties container site x
  | "const_declaration" => s.constants (some container) site x
  | "enum_case" => s.enumCase container site x
  | "use_declaration" =>
    x.mentionAll ((s.mentioning container (some container)).ofNames .usesTrait site.node.children)
  | _ => x

mutual

/-- The items of a body, in order; an unreadable region stands for its own items. -/
def itemSites (before : List Node) : List Node → List Site
  | [] => []
  | n :: rest => itemSite before n ++ itemSites (n :: before) rest

/-- The items that one node of a body stands for. -/
def itemSite (before : List Node) : Node → List Site
  | .mk tag children =>
    if tag.kind == "ERROR" then itemSites [] children else [⟨before, .mk tag children⟩]

end

/-- The members found among the children of a body. -/
def members (s : Setting) (container : String) (body : List Node) (x : Extraction) : Extraction :=
  (itemSites [] body).foldl (s.member container) x

/-! ## §3. Types -/

/-- A class, interface, trait or enum with its members. -/
def typeDeclaration (s : Setting) (construct : Construct) (site : Site) (x : Extraction) :
    Extraction :=
  match s.reader.name? site.node with
  | none => x.passUnnamed s.reader site.node construct
  | some name =>
    let qualified := s.scope.qualify name
    let d := s.reader.declaration site construct name qualified none .publicAccess
    x.declare s.reader site.node d fun x =>
      let x := x.mentionAll ((s.mentioning qualified none).inTypeHead site.node)
      match site.node.child? "body" with
      | some body => s.members qualified body.children x
      | none => x

end Setting
end CodeAtlas
