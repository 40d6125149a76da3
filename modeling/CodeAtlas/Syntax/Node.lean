/-
  CodeAtlas.Syntax.Node — concrete syntax trees.

  A node carries its grammar kind, the field under which its parent holds it, its byte range and
  its rows.  Anonymous tokens and comments are nodes too; regions that the grammar could not read
  are nodes of kind `ERROR`, and a node that the grammar had to supply is marked as missing.

  * `Node.ofRows?`: the tree of a preorder listing with depths.
  * `Node.preorder`: a node and all nodes below it, in document order.
  * `Site`: a node together with its earlier siblings.
-/

namespace CodeAtlas

/-! ## §1. Nodes -/

/-- What a node is, its children apart. -/
structure Tag where
  kind : String
  named : Bool
  missing : Bool
  /-- The parent's field that holds the node, empty if none does. -/
  field : String
  startByte : Nat
  endByte : Nat
  startRow : Nat
  endRow : Nat
  deriving DecidableEq, Repr, Inhabited

/-- A syntax tree. -/
inductive Node where
  | mk (tag : Tag) (children : List Node)
  deriving Repr, Inhabited

namespace Node

def tag : Node → Tag
  | mk t _ => t

/-- Children from left to right. -/
def children : Node → List Node
  | mk _ cs => cs

def kind (n : Node) : String := n.tag.kind
def named (n : Node) : Bool := n.tag.named
def missing (n : Node) : Bool := n.tag.missing
def field (n : Node) : String := n.tag.field
def startByte (n : Node) : Nat := n.tag.startByte
def endByte (n : Node) : Nat := n.tag.endByte
def startRow (n : Node) : Nat := n.tag.startRow
def endRow (n : Node) : Nat := n.tag.endRow

/-- The first line of a node, counted from one. -/
def line (n : Node) : Nat := n.startRow + 1

/-- The first child that stands in a field. -/
def child? (n : Node) (field : String) : Option Node := n.children.find? (·.field == field)

/-- Whether a node writes a class or function name. -/
def isName (n : Node) : Bool := n.kind == "name" || n.kind == "qualified_name"

/-! ## §2. Document order -/

mutual

/-- A node and all nodes below it, each in front of its children. -/
def preorder : Node → List Node
  | mk t cs => mk t cs :: preorderAll cs

/-- The nodes of several trees in document order. -/
def preorderAll : List Node → List Node
  | [] => []
  | n :: rest => preorder n ++ preorderAll rest

end

mutual

/-- The nodes below a node that satisfy `p`, not looking below such a node. -/
def outermost (p : Node → Bool) : Node → List Node
  | mk t cs => if p (mk t cs) then [mk t cs] else outermostAll p cs

/-- The outermost nodes of several trees that satisfy `p`. -/
def outermostAll (p : Node → Bool) : List Node → List Node
  | [] => []
  | n :: rest => outermost p n ++ outermostAll p rest

end

/-! ## §3. Reading a preorder listing -/

/-- Takes a node into the forest of the nodes that follow it: its children are the leading trees
that are deeper than itself. -/
def plant (row : Nat × Tag) (forest : List (Nat × Node)) : List (Nat × Node) :=
  let (below, rest) := forest.span fun e => row.1 < e.1
  (row.1, mk row.2 (below.map (·.2))) :: rest

/-- The tree of a preorder listing, each node given with its depth. -/
def ofRows? (rows : List (Nat × Tag)) : Option Node :=
  match rows.foldr plant [] with
  | [(_, root)] => some root
  | _ => none

end Node

/-! ## §4. Sites -/

/-- A node in its place: the siblings in front of it, nearest first. -/
structure Site where
  before : List Node
  node : Node

end CodeAtlas
