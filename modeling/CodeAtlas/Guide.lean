/-
  CodeAtlas.Guide — pages that are copied next to the documentation.

  A guide is a directory of static pages.  All its files are pages, hidden ones included.
-/
import CodeAtlas.Disk.Walk

namespace CodeAtlas

/-- The pages of a guide, by their paths below its directory, in order. -/
structure Guide where
  root : String
  pages : List String
  deriving DecidableEq, Repr, Inhabited

/-- The path of a page, with slashes only. -/
def Guide.pagePath (path : List String) : String := Path.slashed ("/".intercalate path)

/-- The guide in a directory. -/
def Guide.scan (d : Disk) (root : String) : Except Failure Guide :=
  match d.find? root with
  | some (dir, .directory) => .ok ⟨root, sortBy compare ((d.walk {} root dir).map pagePath)⟩
  | _ => .error (.noGuide root)

end CodeAtlas
