/-
  CodeAtlas.Markup.Element — documents as trees of elements.

  `Element.parse?` builds the tree of a well-formed document: one root, matching tags, known
  qualifiers, and no attribute twice.  Qualifiers are bound to namespaces by attributes; two
  attributes are the same if their namespaces and names are.  Text is checked but not kept.
-/
import CodeAtlas.Markup.Token

namespace CodeAtlas.Markup

/-! ## §1. Elements -/

/-- An attribute; one without a qualifier is in no namespace. -/
structure Attribute where
  space : Option String
  name : String
  value : String
  deriving DecidableEq, Repr, Inhabited

/-- An element with the elements in it. -/
inductive Element where
  | mk (name : String) (attributes : List Attribute) (children : List Element)
  deriving Repr, Inhabited

namespace Element

/-- The name without its qualifier. -/
def name : Element → String
  | mk n _ _ => n

def attributes : Element → List Attribute
  | mk _ as _ => as

def children : Element → List Element
  | mk _ _ cs => cs

/-- The value of an attribute that is in no namespace. -/
def attribute? (e : Element) (name : String) : Option String :=
  (e.attributes.find? fun a => a.space.isNone && a.name == name).map (·.value)

mutual

/-- An element and all elements in it, each in front of those in it. -/
def preorder : Element → List Element
  | mk n as cs => mk n as cs :: preorderAll cs

/-- The elements of several trees in document order. -/
def preorderAll : List Element → List Element
  | [] => []
  | e :: rest => preorder e ++ preorderAll rest

end

/-- The elements of a name, wherever they stand. -/
def withName (e : Element) (name : String) : List Element := e.preorder.filter (·.name == name)

/-- The children of a name. -/
def childrenNamed (e : Element) (name : String) : List Element := e.children.filter (·.name == name)

end Element

/-! ## §2. Namespaces -/

/-- The name of a reserved namespace. -/
def reservedSpace (path : List String) : String :=
  "http:" ++ "/".intercalate ("" :: "" :: "www.w3.org" :: path)

/-- The namespace of the qualifier `xml`, which attributes may have and elements may not. -/
def xmlSpace : String := reservedSpace ["XML", "1998", "namespace"]

/-- The namespace of declarations of namespaces. -/
def declarationSpace : String := reservedSpace ["2000", "xmlns", ""]

/-- Qualifiers with their namespaces, innermost first; the empty qualifier has the default one. -/
abbrev Bindings : Type := List (String × String)

/-- The namespace of a qualifier; only the empty one may be unbound. -/
def spaceOf? (bindings : Bindings) (qualifier : String) : Option (Option String) :=
  match bindings.find? (·.1 == qualifier) with
  | some (_, space) => some (some space)
  | none => if qualifier == "" then some none else none

/-- The bindings that the attributes of one element make, in their order, and its other
attributes. -/
def declared? : List (QName × String) → Option (Bindings × List (QName × String))
  | [] => some ([], [])
  | (name, value) :: rest =>
    (declared? rest).bind fun (bindings, others) =>
      if name.qualifier == "xmlns" then
        if value == declarationSpace || (name.name == "xml") != (value == xmlSpace) then none
        else if bindings.any (·.1 == name.name) then none
        else if value == xmlSpace then some (bindings, others)
        else some ((name.name, value) :: bindings, others)
      else if name.name == "xmlns" then
        if value == xmlSpace || value == declarationSpace then none
        else some (("", value) :: bindings, others)
      else some (bindings, (name, value) :: others)

/-- The attributes with their namespaces, if every qualifier is bound and none stands twice. -/
def attributes? (bindings : Bindings) : List (QName × String) → Option (List Attribute)
  | [] => some []
  | (name, value) :: rest =>
    (attributes? bindings rest).bind fun others =>
      let space :=
        if name.qualifier == "" then some none
        else if name.qualifier == "xml" then some (some xmlSpace)
        else spaceOf? bindings name.qualifier
      space.bind fun space =>
        if others.any fun a => a.space == space && a.name == name.name then none
        else some (⟨space, name.name, value⟩ :: others)

/-! ## §3. Building the tree -/

/-- An element whose end tag is still to come, with its latest children first. -/
structure Frame where
  name : QName
  bindings : Bindings
  attributes : List Attribute
  children : List Element := []

/-- The element of a frame. -/
def Frame.element (f : Frame) : Element := .mk f.name.name f.attributes f.children.reverse

/-- A document under construction: the open elements, innermost first, and the finished root. -/
structure Builder where
  frames : List Frame := []
  root : Option Element := none

namespace Builder

/-- Puts a finished element in its place. -/
def add (b : Builder) (e : Element) : Builder :=
  match b.frames with
  | [] => { b with root := some e }
  | f :: outer => { b with frames := { f with children := e :: f.children } :: outer }

/-- Opens an element, unless the root is already finished. -/
def open? (b : Builder) (name : QName) (attributes : List (QName × String)) : Option Frame :=
  if b.frames.isEmpty && b.root.isSome then none
  else if name.qualifier == "xmlns" then none
  else
    (declared? attributes).bind fun (own, others) =>
      let bindings := own ++ ((b.frames.head?.map (·.bindings)).getD [])
      (spaceOf? bindings name.qualifier).bind fun _ =>
        (attributes? bindings others).map fun attributes => { name, bindings, attributes }

/-- Takes the next token in. -/
def step (b : Builder) : Token → Option Builder
  | .opening name attributes closed =>
    (b.open? name attributes).map fun f =>
      if closed then b.add f.element else { b with frames := f :: b.frames }
  | .closing name =>
    match b.frames with
    | [] => none
    | f :: outer => if f.name = name then some ({ b with frames := outer }.add f.element) else none
  | .text blank => if b.frames.isEmpty && !blank then none else some b

/-- The document, if its root is finished. -/
def document? (b : Builder) : Option Element := if b.frames.isEmpty then b.root else none

end Builder

/-- The tree of some tokens. -/
def Element.ofTokens? (ts : List Token) : Option Element :=
  (ts.foldlM Builder.step {}).bind Builder.document?

/-- The tree of a document. -/
def Element.parse? (s : String) : Option Element := (Token.scan? s.toList).bind Element.ofTokens?

end CodeAtlas.Markup
