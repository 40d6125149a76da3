/-
  CodeAtlas.FileFilter — which files are documented.

  A file is documented if it has the wanted extension, whatever the case, and its path below the
  source root does not match the exclude pattern.
-/
import CodeAtlas.Failure
import CodeAtlas.Pattern.Text
import CodeAtlas.Text.Path

namespace CodeAtlas

/-- The extension and the exclude pattern of documented files. -/
structure FileFilter where
  extension : String
  exclude : Option Pattern

namespace FileFilter

/-- The filter of an extension, with or without its dot, and an exclude pattern.  An empty pattern
excludes nothing. -/
def ofTexts (extension : String) (exclude : Option String) : Except Failure FileFilter :=
  let extension := Text.lowerAscii (Text.mapChars (List.dropWhile (· == '.')) extension)
  match exclude.filter (· ≠ "") with
  | none => .ok ⟨extension, none⟩
  | some text =>
    match Pattern.parse? text with
    | none => .error .badExclude
    | some p => .ok ⟨extension, some p⟩

/-- Whether a path below the source root is documented. -/
def accepts (f : FileFilter) (path : String) : Bool :=
  (Path.extension? path).any (Text.sameAscii f.extension) && !f.exclude.any (·.isMatch path)

end FileFilter
end CodeAtlas
