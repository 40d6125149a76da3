/-
  CodeAtlas.Text.Path — file paths as texts.

  Paths are kept with `/` between their segments, so that one tree of files has the same names
  wherever it is read.
-/
import CodeAtlas.Text.Lowercase
import CodeAtlas.Text.Segment

namespace CodeAtlas.Path

/-- Writes every `\` as `/`. -/
def slashed (path : String) : String :=
  Text.mapChars (List.map fun c => if c == '\\' then '/' else c) path

/-- Drops every `/` at the end. -/
def dropEndSlashes (path : String) : String := Text.mapChars (Chars.dropEndWhile (· == '/')) path

/-- The segments between slashes. -/
def segments (path : String) : List String := Text.split '/' path

/-- The last segment, segments at the end that are empty or `.` apart. -/
def lastSegment? (path : String) : Option String :=
  ((segments path).reverse.dropWhile fun s => s == "" || s == ".").head?

/-- The file extension: what follows the last dot of the last segment, unless that dot is the first
character of the segment.  The segment `..` has none. -/
def extension? (path : String) : Option String :=
  (lastSegment? path).bind fun segment =>
    if segment == ".." then none
    else
      match Chars.splitOnce '.' segment.toList.reverse with
      | some (_, []) => none
      | some (last, _) => some (String.ofList last.reverse)
      | none => none

/-- Drops slashes and dots at the end, those at the very beginning apart. -/
def dropEndDots : List String → List String
  | [] => []
  | first :: rest =>
    first :: (rest.reverse.dropWhile fun s => s == "" || s == ".").reverse

/-- The path without its last segment; the root and the empty path have none. -/
def parent? (path : String) : Option String :=
  match dropEndDots (segments path) with
  | [] => none
  | [only] => if only == "" then none else some ""
  | first :: rest =>
    match dropEndDots (first :: rest.dropLast) with
    | [""] => some "/"
    | kept => some ("/".intercalate kept)

/-- A path below a directory. -/
def join (dir path : String) : String :=
  if Text.startsWith "/" path then path
  else if dir.isEmpty then path
  else if Text.endsWith "/" dir then dir ++ path
  else dir ++ "/" ++ path

/-- Drops a dot and a slash in front. -/
def dropDot (path : String) : String := (Text.dropPrefix? "./" path).getD path

/-- Whether a path is a way to spell the current directory. -/
def isDot (path : String) : Bool :=
  match segments path with
  | "." :: rest => rest.all fun s => s == "" || s == "."
  | _ => false

/-- A path behind the text of a directory in front of it, if that is there. -/
def dropRoot (root path : String) : String :=
  match Text.dropPrefix? root path with
  | some rest => (Text.dropPrefix? "/" rest).getD rest
  | none => path

end CodeAtlas.Path
