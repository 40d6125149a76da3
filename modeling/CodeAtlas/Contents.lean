/-
  CodeAtlas.Contents — the table of contents.

  Top-level declarations stand in name order under the source root, each with its members below it.
  A guide adds a last section that follows its directories: sub-sections first, then pages, each by
  name.

  * `Contents.ofModel`: the table of contents of a model and an optional guide.
  * `Entry.find?`, `Entry.count`: views of a finished table.
-/
import CodeAtlas.Model
import CodeAtlas.Text.Path

namespace CodeAtlas.Contents

/-! ## §1. Entries -/

/-- What an entry points at. -/
inductive Target where
  | root
  | declaration (name : String)
  | guideSection (path : String)
  | guidePage (path : String)
  deriving DecidableEq, Repr, Inhabited

/-- An entry and the entries below it. -/
inductive Entry where
  | mk (label : String) (target : Target) (children : List Entry)
  deriving Repr, Inhabited

namespace Entry

def label : Entry → String
  | mk l _ _ => l

def target : Entry → Target
  | mk _ t _ => t

def children : Entry → List Entry
  | mk _ _ cs => cs

/-- Whether nothing stands below an entry. -/
def isLeaf (e : Entry) : Bool := e.children.isEmpty

mutual

/-- The first entry, depth first, that points at a target. -/
def find? (goal : Target) : Entry → Option Entry
  | mk l t cs => if t = goal then some (mk l t cs) else findAmong? goal cs

/-- The first entry of several trees that points at a target. -/
def findAmong? (goal : Target) : List Entry → Option Entry
  | [] => none
  | e :: rest => (find? goal e).or (findAmong? goal rest)

end

mutual

/-- Number of entries, the entry itself included. -/
def count : Entry → Nat
  | mk _ _ cs => 1 + countAll cs

/-- Number of entries of several trees. -/
def countAll : List Entry → Nat
  | [] => 0
  | e :: rest => count e + countAll rest

end

end Entry

/-! ## §2. Declarations -/

/-- The label of a declaration: its qualified name at top level, its own name below. -/
def declarationLabel (m : Model) (parentless : Bool) (name : String) : String :=
  if parentless then name else ((m.get? name).map Declaration.name).getD name

/-- The entry of a declaration, with at most `depth` levels below it. -/
def entryOf (m : Model) : Nat → Bool → String → Entry
  | 0, parentless, name => .mk (declarationLabel m parentless name) (.declaration name) []
  | depth + 1, parentless, name =>
    .mk (declarationLabel m parentless name) (.declaration name) <|
      (m.membersOf name).map fun d => entryOf m depth false d.qualifiedName

/-- The entries of all declarations that are reached from a top-level one.  A chain of parents has
no more steps than there are declarations. -/
def declarationEntries (m : Model) : List Entry :=
  m.parentless.map fun d => entryOf m m.declarations.size true d.qualifiedName

/-! ## §3. Guide pages -/

/-- The label of the guide section. -/
def guideHeading : String := "Guide"

/-- The path of a sub-section. -/
def below (dir name : String) : String := if dir.isEmpty then name else dir ++ "/" ++ name

/-- A section of a guide: its sub-sections by name, and the names and paths of its own pages in the
order in which they came. -/
inductive Section where
  | mk (sections : List (String × Section)) (pages : List (String × String))

namespace Section

/-- The section without pages. -/
def empty : Section := .mk [] []

/-- The sub-sections, in name order. -/
def sections : Section → List (String × Section)
  | mk sections _ => sections

/-- The pages that stand in the section itself. -/
def pages : Section → List (String × String)
  | mk _ pages => pages

/-- Adds the page at a path, through the sub-sections that its segments name; those that are missing
are made. -/
def add (path : String) : List String → Section → Section
  | [], s => s
  | [file], s => .mk s.sections (s.pages ++ [(file, path)])
  | name :: next :: rest, s =>
    .mk (Entries.insert name (add path (next :: rest) ((Entries.get? name s.sections).getD empty))
      s.sections) s.pages

/-- The entries of pages, by name. -/
def pageEntries (pages : List (String × String)) : List Entry :=
  (sortBy (compareLex (compareOn (·.1)) (compareOn (·.2))) pages).map fun (file, path) =>
    .mk file (.guidePage path) []

mutual

/-- The entries of the section at `dir`: its sub-sections, then its own pages. -/
def entries (dir : String) : Section → List Entry
  | mk sections pages => entriesOfAll dir sections ++ pageEntries pages

/-- The entries of some sub-sections of the section at `dir`. -/
def entriesOfAll (dir : String) : List (String × Section) → List Entry
  | [] => []
  | (name, s) :: rest =>
    .mk name (.guideSection (below dir name)) (entries (below dir name) s) ::
      entriesOfAll dir rest

end

end Section

/-- The entries of a guide, whose sections grow page by page. -/
def entriesOfPages (pages : List String) : List Entry :=
  (pages.foldl (fun s page => s.add page (Path.segments page)) Section.empty).entries ""

/-! ## §4. The table -/

/-- The table of contents of a model and the pages of its guide. -/
def ofModel (m : Model) (guide : Option (List String)) : Entry :=
  let guideEntry :=
    match guide with
    | some pages => [Entry.mk guideHeading (.guideSection "") (entriesOfPages pages)]
    | none => []
  .mk m.sourceRoot .root (declarationEntries m ++ guideEntry)

end CodeAtlas.Contents
