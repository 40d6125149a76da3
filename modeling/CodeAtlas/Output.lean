/-
  CodeAtlas.Output — what a run writes.

  The documentation, its table of contents and its search index are written as JSON files, and the
  pages of the guide are copied.  Files are written one after another; if one cannot be written, the
  files in front of it stay.
-/
import CodeAtlas.Documentation
import CodeAtlas.Run

namespace CodeAtlas

/-- Steps that change a disk and may fail on the way. -/
abbrev Writing : Type → Type := ExceptT Failure (StateM Disk)

namespace Writing

/-- One change of the disk; a failure names the path. -/
def change (path : String) (f : Disk → Except DiskError Disk) : Writing Unit := fun d =>
  match f d with
  | .ok d => (.ok (), d)
  | .error e => (.error (.notWritten path e), d)

/-- Writes a JSON file and returns its path. -/
def json (path : String) (j : Json) (pretty : Bool) : Writing String := do
  let text := (if pretty then j.pretty else j.compact) ++ "\n"
  change path (·.write path text.toUTF8)
  return path

/-- Copies a page of a guide below a directory and returns its new path. -/
def page (g : Guide) (target : String) (page : String) : Writing String := do
  let path := Path.join target page
  match Path.parent? path with
  | some parent => change parent (·.makeDirectories parent)
  | none => pure ()
  change path (·.copy (Path.join g.root page) path)
  return path

/-- Writes everything below a directory, which is made if it is missing, and returns the paths of
the files in the order in which they were written. -/
def documentation (doc : Documentation) (destination : String) (s : OutputSettings) :
    Writing (List String) := do
  change destination (·.makeDirectories destination)
  let main ← json (Path.join destination "documentation.json") doc.toJson s.pretty
  let contents ← json (Path.join destination "toc.json") doc.contents.toJson s.pretty
  let search ← json (Path.join destination "search.json") (Search.indexToJson doc.search) s.pretty
  let pages ←
    match doc.guide with
    | some g => g.pages.mapM (page g (Path.join destination "guide"))
    | none => pure []
  return [main, contents, search] ++ pages

end Writing
end CodeAtlas
