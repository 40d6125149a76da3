/-
  CodeAtlas.Overlay.Locator — which parsed file a log means.

  Logs write paths as they please: below the source root in any of its spellings, absolute, or
  relative.  A path below a known root names a parsed file exactly or none.  Any other absolute path
  lies outside the sources.  A relative path names a file exactly or, failing that, the only file
  that ends in it at a segment boundary.
-/
import CodeAtlas.Model
import CodeAtlas.Text.Path

namespace CodeAtlas

/-- The spellings of the source root and the parsed files. -/
structure Locator where
  roots : List String
  files : List String

namespace Locator

/-! ## §1. Roots -/

/-- A root with slashes, without slashes at its end and without one `./` in front. -/
def plainRoot (root : String) : String :=
  let trimmed := Path.dropEndSlashes (Path.slashed root)
  (Text.dropPrefix? "./" trimmed).getD trimmed

/-- Adds another spelling of the source root. -/
def addRoot (l : Locator) (root : String) : Locator :=
  let root := plainRoot root
  if root == "" || l.roots.contains root then l else { l with roots := l.roots ++ [root] }

/-- The locator of a model and other spellings of its source root. -/
def ofModel (m : Model) (otherRoots : List String) : Locator :=
  otherRoots.foldl addRoot ⟨[plainRoot m.sourceRoot], m.files.keys⟩

/-! ## §2. Paths -/

/-- What follows a root and a slash. -/
def belowRoot? (path root : String) : Option String :=
  (Text.dropPrefix? root path).bind (Text.dropPrefix? "/")

/-- Whether a path starts at the top of a file system: with a slash or a drive letter. -/
def isRooted (path : String) : Bool :=
  match path.toList with
  | '/' :: _ => true
  | c :: ':' :: _ => c.isAlpha
  | _ => false

/-- Drops every `./` in front. -/
def dropDots : List Char → List Char
  | '.' :: '/' :: rest => dropDots rest
  | s => s

/-- Whether a file ends in a path behind a slash. -/
def endsBelow (path file : String) : Bool :=
  (Text.dropSuffix? path file).any (Text.endsWith "/")

/-- The file that a relative path names. -/
def locateRelative (l : Locator) (path : String) : Option String :=
  if l.files.contains path then some path
  else
    match l.files.filter (endsBelow path) with
    | [file] => some file
    | _ => none

/-- The parsed file that a path of a log names. -/
def locate (l : Locator) (raw : String) : Option String :=
  let path := Path.slashed raw
  match l.roots.findSome? (belowRoot? path) with
  | some rest => if l.files.contains rest then some rest else none
  | none => if isRooted path then none else l.locateRelative (Text.mapChars dropDots path)

end Locator
end CodeAtlas
