/-
  CodeAtlas.Disk.Basic — a file system as a value.

  A disk maps absolute paths, as lists of names, to files, directories and symbolic links.  Paths
  given as texts are resolved against the working directory, through links, with `.` and `..`
  followed one by one.  Reading and writing are functions on disks, so what a run leaves behind is
  part of its result.

  Names and the targets of links are texts.  A file system whose names are byte sequences that no
  text encodes in UTF-8 is not a disk in this sense; the bytes of a file are arbitrary.

  * `Disk.resolve`: the place that a path leads to.
  * `Disk.read`, `Disk.children`: what a disk holds.
  * `Disk.write`, `Disk.makeDirectories`, `Disk.copy`: changed disks.
-/
import CodeAtlas.Failure
import CodeAtlas.Table
import CodeAtlas.Text.Path
import CodeAtlas.Text.Utf8

namespace CodeAtlas

/-! ## §1. Disks -/

/-- What stands at a path. -/
inductive DiskEntry where
  | file (bytes : ByteArray)
  | directory
  | link (target : String)
  deriving Inhabited

/-- A working directory and what stands at each path; the root is always a directory. -/
structure Disk where
  cwd : List String := []
  entries : Table (List String) DiskEntry := ∅
  deriving Inhabited

namespace Disk

/-- What stands at an absolute path, links not followed. -/
def get? (d : Disk) (path : List String) : Option DiskEntry :=
  if path.isEmpty then some .directory else d.entries.get? path

/-- Puts an entry at an absolute path. -/
def put (d : Disk) (path : List String) (e : DiskEntry) : Disk :=
  { d with entries := d.entries.insert path e }

/-- The name of an entry that stands directly in a directory. -/
def childName? : List String → List String → Option String
  | [], [name] => some name
  | a :: dir, b :: path => if a = b then childName? dir path else none
  | _, _ => none

/-- The entries that stand directly in a directory, with their names. -/
def children (d : Disk) (dir : List String) : List (String × DiskEntry) :=
  d.entries.toList.filterMap fun (path, e) => (childName? dir path).map (·, e)

/-! ## §2. Resolving paths -/

/-- Where a walk along names stops. -/
inductive Walked where
  | arrived (path : List String)
  /-- Only the last name is missing. -/
  | vacant (path : List String)
  | failed (e : DiskError)
  /-- A link in a directory, with the names still to go. -/
  | link (dir : List String) (name target : String) (rest : List String)

/-- Walks along names from a directory, up to the first link.  Empty names and dots stay; behind a
file nothing can follow. -/
def along (d : Disk) (dir : List String) : List String → Walked
  | [] => .arrived dir
  | name :: rest =>
    if name = "" || name = "." then d.along dir rest
    else if name = ".." then d.along dir.dropLast rest
    else
      match d.get? (dir ++ [name]) with
      | some .directory => d.along (dir ++ [name]) rest
      | some (.file _) => if rest.isEmpty then .arrived (dir ++ [name]) else .failed .notDirectory
      | some (.link target) => .link dir name target rest
      | none => if rest.all (· == "") then .vacant (dir ++ [name]) else .failed .notFound

/-- What a path leads to. -/
inductive Place where
  | present (path : List String) (e : DiskEntry)
  /-- Nothing is there, but the directory around it is. -/
  | vacant (path : List String)

/-- Follows names and links from a directory, through at most as many links as the first argument
says.  A link at the very end is followed only if `follow` is set. -/
def resolveFrom (d : Disk) (follow : Bool) :
    Nat → List String → List String → Except DiskError Place
  | 0, _, _ => .error .tooManyLinks
  | links + 1, dir, names =>
    match d.along dir names with
    | .arrived path => .ok (.present path ((d.get? path).getD .directory))
    | .vacant path => .ok (.vacant path)
    | .failed e => .error e
    | .link dir name target rest =>
      if rest.isEmpty && !follow then .ok (.present (dir ++ [name]) (.link target))
      else
        let start := if Text.startsWith "/" target then [] else dir
        d.resolveFrom follow links start (Path.segments target ++ rest)

/-- More links than this on one way are taken for a circle. -/
def linkLimit : Nat := 41

/-- The place that a path leads to.  The empty path leads nowhere. -/
def resolve (d : Disk) (follow : Bool) (path : String) : Except DiskError Place :=
  if path = "" then .error .notFound
  else
    let start := if Text.startsWith "/" path then [] else d.cwd
    d.resolveFrom follow linkLimit start (Path.segments path)

/-! ## §3. Reading -/

/-- The absolute path and the entry that a path leads to, links followed. -/
def find? (d : Disk) (path : String) : Option (List String × DiskEntry) :=
  match d.resolve true path with
  | .ok (.present p e) => some (p, e)
  | _ => none

/-- Whether a path leads to a directory. -/
def isDirectory (d : Disk) (path : String) : Bool :=
  match d.find? path with
  | some (_, .directory) => true
  | _ => false

/-- Whether a path leads to a file. -/
def isFile (d : Disk) (path : String) : Bool :=
  match d.find? path with
  | some (_, .file _) => true
  | _ => false

/-- The absolute form of a path, without links. -/
def canonical? (d : Disk) (path : String) : Option String :=
  (d.find? path).map fun (p, _) => "/" ++ "/".intercalate p

/-- The bytes of a file. -/
def read (d : Disk) (path : String) : Except DiskError ByteArray :=
  match d.resolve true path with
  | .ok (.present _ (.file bytes)) => .ok bytes
  | .ok (.present _ _) => .error .isDirectory
  | .ok (.vacant _) => .error .notFound
  | .error e => .error e

/-- The text of a file. -/
def readText (d : Disk) (path : String) : Except DiskError String :=
  (d.read path).bind fun bytes =>
    match Utf8.decode? bytes with
    | some text => .ok text
    | none => .error .notUtf8

/-! ## §4. Writing -/

/-- Makes a directory where nothing stands. -/
def makeDirectory (d : Disk) (path : String) : Except DiskError Disk :=
  match d.resolve false path with
  | .ok (.present _ _) => .error .alreadyExists
  | .ok (.vacant p) => .ok (d.put p .directory)
  | .error e => .error e

/-- Takes an error back if the path leads to a directory after all. -/
def unlessDirectory (d : Disk) (path : String) (e : DiskError) : Except DiskError Disk :=
  if d.isDirectory path then .ok d else .error e

/-- Makes a directory and at most `depth` directories above it. -/
def makeDirectoriesUpTo : Nat → Disk → String → Except DiskError Disk
  | 0, _, _ => .error .notFound
  | depth + 1, d, path =>
    if path = "" then .ok d
    else
      match d.makeDirectory path with
      | .ok d => .ok d
      | .error .notFound =>
        match Path.parent? path with
        | none => .error .notFound
        | some parent =>
          (makeDirectoriesUpTo depth d parent).bind fun d =>
            match d.makeDirectory path with
            | .ok d => .ok d
            | .error e => d.unlessDirectory path e
      | .error e => d.unlessDirectory path e

/-- Makes a directory and all directories above it that are missing. -/
def makeDirectories (d : Disk) (path : String) : Except DiskError Disk :=
  makeDirectoriesUpTo ((Path.segments path).length + 1) d path

/-- Writes a file, over one that is there. -/
def write (d : Disk) (path : String) (bytes : ByteArray) : Except DiskError Disk :=
  match d.resolve true path with
  | .ok (.present p (.file _)) => .ok (d.put p (.file bytes))
  | .ok (.present _ _) => .error .isDirectory
  | .ok (.vacant p) => .ok (d.put p (.file bytes))
  | .error e => .error e

/-- Copies a file.  The source must be a file; the target is emptied before it is read. -/
def copy (d : Disk) (source target : String) : Except DiskError Disk := do
  let _ ← (d.read source).mapError fun e => if e = .isDirectory then .notRegular else e
  let d ← d.write target ByteArray.empty
  let bytes ← d.read source
  d.write target bytes

/-- Makes a link where nothing stands. -/
def makeLink (d : Disk) (path target : String) : Except DiskError Disk :=
  match d.resolve false path with
  | .ok (.present _ _) => .error .alreadyExists
  | .ok (.vacant p) => .ok (d.put p (.link target))
  | .error e => .error e

end Disk
end CodeAtlas
