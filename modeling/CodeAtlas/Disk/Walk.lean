/-
  CodeAtlas.Disk.Walk — the files below a directory.

  A walk lists every file below a directory by its path from there.  It may pass over hidden
  entries, follow links, and leave out what ignore files name.  A link that leads back to a
  directory on the way is not followed.
-/
import CodeAtlas.Disk.Ignore
import CodeAtlas.Order

namespace CodeAtlas

/-- What a walk passes over. -/
structure WalkOptions where
  skipHidden : Bool := false
  followLinks : Bool := false
  useIgnoreFiles : Bool := false
  deriving DecidableEq, Repr, Inhabited

/-- A directory on a walk. -/
structure WalkPosition where
  /-- Where the directory stands on the disk. -/
  dir : List String
  /-- The directories on the way to it, itself included. -/
  way : List (List String)
  /-- The path of the directory as it is spelled. -/
  spelled : String
  /-- The path from where the walk started. -/
  path : List String
  /-- The rules that hold in the directory. -/
  levels : IgnoreLevels

namespace Disk

/-- What a walk meets. -/
inductive Met where
  | file
  | directory (dir : List String)
  | nothing

/-- What an entry of a directory is for a walk. -/
def meet (d : Disk) (o : WalkOptions) (p : WalkPosition) (name : String) : DiskEntry → Met
  | .file _ => .file
  | .directory => .directory (p.dir ++ [name])
  | .link _ =>
    if !o.followLinks then .nothing
    else
      match d.resolveFrom true linkLimit p.dir [name] with
      | .ok (.present _ (.file _)) => .file
      | .ok (.present dir .directory) => if p.way.contains dir then .nothing else .directory dir
      | _ => .nothing

/-- Whether a walk leaves an entry out.  Rules decide before the name does. -/
def leavesOut (o : WalkOptions) (p : WalkPosition) (name : String) (isDirectory : Bool) : Bool :=
  match p.levels.verdict? (Path.join p.spelled name) isDirectory with
  | some .leaveOut => true
  | some .keep => false
  | none => o.skipHidden && Text.startsWith "." name

/-- The position of a directory below another one. -/
def enter (d : Disk) (o : WalkOptions) (p : WalkPosition) (name : String) (dir : List String) :
    WalkPosition :=
  let spelled := Path.join p.spelled name
  { dir := dir
    way := dir :: p.way
    spelled := spelled
    path := p.path ++ [name]
    levels := if o.useIgnoreFiles then IgnoreLevels.enter d p.levels spelled dir else p.levels }

/-- The files below a position, through at most as many directories as the first argument says. -/
def walkFrom (d : Disk) (o : WalkOptions) : Nat → WalkPosition → List (List String)
  | 0, _ => []
  | depth + 1, p =>
    (d.children p.dir).flatMap fun (name, e) =>
      match d.meet o p name e with
      | .nothing => []
      | .file => if leavesOut o p name false then [] else [p.path ++ [name]]
      | .directory dir =>
        if leavesOut o p name true then [] else d.walkFrom o depth (d.enter o p name dir)

/-- The position in which a walk starts; `root` is the path that leads to the directory. -/
def startAt (d : Disk) (o : WalkOptions) (root : String) (dir : List String) : WalkPosition where
  dir := dir
  way := [dir]
  spelled := root
  path := []
  levels := if o.useIgnoreFiles then .atStart d root dir else {}

/-- A bound on the number of directories on one way: between two links there are at most as many as
the disk has entries, and each link leads to another directory. -/
def walkDepth (d : Disk) : Nat := (d.entries.size + 1) * (d.entries.size + 1)

/-- The files below a directory, by their paths from there; `root` is the path that leads to it. -/
def walk (d : Disk) (o : WalkOptions) (root : String) (dir : List String) : List (List String) :=
  d.walkFrom o d.walkDepth (d.startAt o root dir)

end Disk
end CodeAtlas
