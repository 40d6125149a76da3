/-
  CodeAtlas.Disk.Ignore — files that name what to leave out.

  Each line of an ignore file is a rule: a glob, a glob behind `!` that takes back what earlier
  rules leave out, or a comment.  A glob with a slash describes a path below the directory of the
  file, one without describes a name anywhere below it; a slash at the end restricts it to
  directories.  The last rule of a file that matches decides, and a file nearer to the path decides
  before one farther away.  Paths are compared as they are spelled.

  * `IgnoreRule.ofLine?`: reading a rule.
  * `IgnoreLevels.verdict?`: what the rules in force say about a path.
-/
import CodeAtlas.Disk.Basic
import CodeAtlas.Pattern.Glob
import CodeAtlas.Text.Lines

namespace CodeAtlas

/-! ## §1. Rules -/

/-- One line of an ignore file. -/
structure IgnoreRule where
  glob : Glob
  /-- Takes back what earlier rules leave out. -/
  keeps : Bool
  onlyDirectories : Bool

namespace IgnoreRule

/-- What a rule or a file says about a path. -/
inductive Verdict where
  | leaveOut
  | keep
  deriving DecidableEq, Repr, Inhabited

/-- Drops blanks at the end, unless the last one is escaped. -/
def trimLine (line : List Char) : List Char :=
  if (Chars.dropSuffix? ['\\', ' '] line).isSome then line else Chars.trimEnd line

/-- Takes off an exclamation mark and a slash in front: whether the rule keeps, whether it starts at
the directory of the file, and the rest. -/
def opening (line : List Char) : Bool × Bool × List Char :=
  match line with
  | '\\' :: '!' :: rest => (false, false, '!' :: rest)
  | '\\' :: '#' :: rest => (false, false, '#' :: rest)
  | line =>
    let (keeps, line) :=
      match line with
      | '!' :: rest => (true, rest)
      | line => (false, line)
    match line with
    | '/' :: rest => (keeps, true, rest)
    | line => (keeps, false, line)

/-- Takes off a slash at the end, and a backslash in front of that. -/
def ending (line : List Char) : Bool × List Char :=
  match Chars.dropSuffix? ['/'] line with
  | some rest => (true, (Chars.dropSuffix? ['\\'] rest).getD rest)
  | none => (false, line)

/-- The glob of a rule: a name alone may stand in any directory, and what ends in `/**` does not
describe the directory itself. -/
def globText (anchored : Bool) (line : List Char) : List Char :=
  let anywhere := !anchored && !line.contains '/' && line != ['*', '*']
  let line := if anywhere then '*' :: '*' :: '/' :: line else line
  if (Chars.dropSuffix? ['/', '*', '*'] line).isSome then line ++ ['/', '*'] else line

/-- The rule of a line; comments, empty lines and unreadable globs are none. -/
def ofLine? (line : List Char) : Option IgnoreRule :=
  if line.head? == some '#' || (trimLine line).isEmpty then none
  else
    let (keeps, anchored, rest) := opening (trimLine line)
    let (onlyDirectories, rest) := ending rest
    (Glob.parse? (globText anchored rest)).map (⟨·, keeps, onlyDirectories⟩)

/-- The characters of a file up to the first line that cannot be read as text. -/
def readableLines (bytes : ByteArray) : List Char :=
  let units := Utf8.units bytes.toList
  let chars := (units.takeWhile Option.isSome).filterMap id
  if units.all Option.isSome then chars else Chars.dropEndWhile (· != '\n') chars

/-- No glob may be nested more deeply. -/
def depthLimit : Nat := 250

/-- The rules of a file; byte order marks in front are dropped.  One glob that is nested too deeply
makes all of them void. -/
def ofBytes (bytes : ByteArray) : List IgnoreRule :=
  let text := (readableLines bytes).dropWhile (· == Char.ofNat 0xFEFF)
  let rules := (Chars.lines text).filterMap ofLine?
  if rules.any (depthLimit < ·.glob.depth) then [] else rules

/-- What the rules of a file say about a path from its directory on: the last rule that matches
decides. -/
def verdict? (rules : List IgnoreRule) (path : String) (isDirectory : Bool) : Option Verdict :=
  (rules.reverse.find? fun r =>
    (isDirectory || !r.onlyDirectories) && r.glob.describes path.toList).map fun r =>
      if r.keeps then .keep else .leaveOut

end IgnoreRule

/-! ## §2. Directories with rules -/

/-- The rules of one directory. -/
structure IgnoreLevel where
  /-- The path of the directory as it is spelled, without a dot and a slash in front. -/
  root : String
  /-- Rules of `.ignore`. -/
  plain : List IgnoreRule
  /-- Rules of `.gitignore`. -/
  shared : List IgnoreRule
  /-- Rules of `info/exclude` in the records of the repository. -/
  unshared : List IgnoreRule
  /-- The directory is the top of a repository. -/
  isRepository : Bool

namespace IgnoreLevel

/-- The absolute path of some names, as a text. -/
def absolute (path : List String) : String := "/" ++ "/".intercalate path

/-- The rules of a file, none if it cannot be read. -/
def rulesAt (d : Disk) (path : String) : List IgnoreRule :=
  match d.read path with
  | .ok bytes => IgnoreRule.ofBytes bytes
  | .error _ => []

/-- The first line of a file, if there is one and it can be read as text. -/
def firstLine? (d : Disk) (path : String) : Option String :=
  match d.read path with
  | .ok bytes => ((Chars.lines (IgnoreRule.readableLines bytes)).head?).map String.ofList
  | .error _ => none

/-- The directory with the records that the working trees of a repository share, for a tree that
names its own records in a file. -/
def sharedRecords? (d : Disk) (file : String) : Option String := do
  let records ← Text.dropPrefix? "gitdir: " (← firstLine? d file)
  let common ← firstLine? d (Path.join records "commondir")
  return if Text.startsWith "." common then Path.join records common else common

/-- The directory with the records of the repository whose top a directory is. -/
def records? (d : Disk) (dir : List String) : Option String :=
  let path := absolute (dir ++ [".git"])
  if d.isFile path then sharedRecords? d path else some path

/-- Whether a directory is the top of a repository. -/
def isTop (d : Disk) (dir : List String) : Bool :=
  [".git", ".jj"].any fun name => (d.find? (absolute (dir ++ [name]))).isSome

/-- The rules of a directory; `spelled` is the path by which it was reached. -/
def ofDirectory (d : Disk) (spelled : String) (dir : List String) : IgnoreLevel where
  root := Path.dropDot spelled
  plain := rulesAt d (absolute (dir ++ [".ignore"]))
  shared := rulesAt d (absolute (dir ++ [".gitignore"]))
  unshared := ((records? d dir).map fun r => rulesAt d (Path.join r "info/exclude")).getD []
  isRepository := isTop d dir

/-- A path from the directory of the rules on.  The spelling decides whether it is below the
directory: if not, the rules see all of it. -/
def seen (l : IgnoreLevel) (path : String) : String :=
  let path := Path.dropDot path
  if Path.isDot l.root || (Path.segments path).length ≤ 1 then path else Path.dropRoot l.root path

end IgnoreLevel

/-! ## §3. Rules in force -/

/-- The rules that hold in a directory of a walk. -/
structure IgnoreLevels where
  /-- The path where the walk starts, as it is spelled. -/
  start : String := ""
  /-- The absolute path of that directory. -/
  base : String := ""
  /-- The rules from there on, nearest first. -/
  within : List IgnoreLevel := []
  /-- The rules of the directories above, nearest first. -/
  above : List IgnoreLevel := []

namespace IgnoreLevels

/-- The rules in force where a walk starts. -/
def atStart (d : Disk) (spelled : String) (dir : List String) : IgnoreLevels where
  start := spelled
  base := IgnoreLevel.absolute dir
  within := [IgnoreLevel.ofDirectory d spelled dir]
  above := (List.range dir.length).reverse.map fun n =>
    IgnoreLevel.ofDirectory d (IgnoreLevel.absolute (dir.take n)) (dir.take n)

/-- The rules in force in a directory below. -/
def enter (d : Disk) (ls : IgnoreLevels) (spelled : String) (dir : List String) : IgnoreLevels :=
  { ls with within := IgnoreLevel.ofDirectory d spelled dir :: ls.within }

/-- The absolute path of a path on the walk. -/
def absolutePath (ls : IgnoreLevels) (path : String) : String :=
  Path.join ls.base
    (if Path.isDot ls.start then path else Path.dropRoot (Path.dropDot ls.start) path)

/-- The levels up to the top of the repository. -/
def withinRepository : List (IgnoreLevel × String) → List (IgnoreLevel × String)
  | [] => []
  | l :: rest => if l.1.isRepository then [l] else l :: withinRepository rest

/-- What the rules in force say about a path.  Rules of `.ignore` come first; those of repositories
hold only inside one. -/
def verdict? (ls : IgnoreLevels) (path : String) (isDirectory : Bool) :
    Option IgnoreRule.Verdict :=
  let path := Path.dropDot path
  let levels := ls.within.map (·, path) ++ ls.above.map (·, ls.absolutePath path)
  let ask (rules : IgnoreLevel → List IgnoreRule) (levels : List (IgnoreLevel × String)) :=
    levels.findSome? fun (l, path) => IgnoreRule.verdict? (rules l) (l.seen path) isDirectory
  let inside := if levels.any (·.1.isRepository) then withinRepository levels else []
  (ask (·.plain) levels).or ((ask (·.shared) inside).or (ask (·.unshared) inside))

end IgnoreLevels
end CodeAtlas
