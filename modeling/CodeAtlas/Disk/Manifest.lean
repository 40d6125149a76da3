/-
  CodeAtlas.Disk.Manifest — which files a disk holds.

  A manifest names one entry a line: a file by its path, a directory by its path with a slash at the
  end, a link as `path -> target`.  The syntax tree of a source file is listed in the file beside it
  whose name is longer by `.tree`.

  * `ManifestEntry.ofLine`, `Disk.add`: a disk built from a manifest.
  * `Disk.grammar`: the trees that are listed on a disk.
  * `Disk.changesSince`: what has to be written to turn one disk into another.
-/
import CodeAtlas.Disk.Basic
import CodeAtlas.SourceUnit
import CodeAtlas.Syntax.Listing

namespace CodeAtlas

/-! ## §1. Manifests -/

/-- A line of a manifest. -/
inductive ManifestEntry where
  | file (path : String)
  | directory (path : String)
  | link (path target : String)
  deriving DecidableEq, Repr, Inhabited

/-- Reads a line of a manifest. -/
def ManifestEntry.ofLine (line : String) : ManifestEntry :=
  match Chars.splitAtMark " -> ".toList line.toList with
  | some (path, target) => .link (String.ofList path) (String.ofList target)
  | none => if Text.endsWith "/" line then .directory line else .file line

namespace Disk

/-- Makes the directories around a path. -/
def makeParents (d : Disk) (path : String) : Except DiskError Disk :=
  match Path.parent? path with
  | some parent => d.makeDirectories parent
  | none => .ok d

/-- Adds an entry and the directories around it; `bytes` is what a file holds. -/
def add (d : Disk) (bytes : ByteArray) : ManifestEntry → Except DiskError Disk
  | .file path => do (← d.makeParents path).write path bytes
  | .directory path => d.makeDirectories path
  | .link path target => do (← d.makeParents path).makeLink path target

/-! ## §2. Listed trees -/

/-- What the name of a listing has at its end. -/
def listingEnding : String := ".tree"

/-- The path of the listing that belongs to a source file. -/
def listingPath : List String → List String
  | [] => []
  | [name] => [name ++ listingEnding]
  | dir :: path => dir :: listingPath path

/-- The tree that is listed for the file at a path. -/
def listedTree? (d : Disk) (path : List String) : Option Node :=
  match d.get? (listingPath path) with
  | some (.file bytes) => (Utf8.decode? bytes).bind Node.ofListing?
  | _ => none

/-- The texts of a disk that have a listed tree, with that tree. -/
def listedTrees (d : Disk) : List (String × Node) :=
  d.entries.toList.filterMap fun (path, e) =>
    match e with
    | .file bytes => (d.listedTree? path).map (Utf8.decodeLenient bytes, ·)
    | _ => none

/-- The tree of a text in which nothing was found. -/
def emptyTree (text : String) : Node :=
  .mk ⟨"program", true, false, "", 0, text.utf8ByteSize, 0, Text.lineCount text⟩ []

/-- The grammar that knows the trees listed on a disk. -/
def grammar (d : Disk) : Grammar :=
  let trees := d.listedTrees
  fun text => (trees.lookup text).getD (emptyTree text)

/-! ## §3. Changes -/

/-- Whether two entries hold the same. -/
def sameEntry : DiskEntry → DiskEntry → Bool
  | .file a, .file b => a == b
  | .directory, .directory => true
  | .link a, .link b => a == b
  | _, _ => false

/-- The entries, directories in front of what they hold, that were not on an earlier disk. -/
def changesSince (before d : Disk) : List (String × DiskEntry) :=
  d.entries.toList.filterMap fun (path, e) =>
    match before.get? path with
    | some old => if sameEntry old e then none else some ("/" ++ "/".intercalate path, e)
    | none => some ("/" ++ "/".intercalate path, e)

end Disk
end CodeAtlas
