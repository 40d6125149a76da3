/-
  CodeAtlas.Failure — conditions that end a run.

  Everything that a run can survive is a warning.  What ends it is a `Failure`; each has a category
  and one line of text.
-/

namespace CodeAtlas

/-- Why an operation on the file system failed. -/
inductive DiskError where
  | notFound
  | alreadyExists
  | notDirectory
  | isDirectory
  /-- What is to be copied is no file. -/
  | notRegular
  | tooManyLinks
  | notUtf8
  deriving DecidableEq, Repr, Inhabited

/-- The system's text for an error. -/
def DiskError.message : DiskError → String
  | notFound => "No such file or directory (os error 2)"
  | alreadyExists => "File exists (os error 17)"
  | notDirectory => "Not a directory (os error 20)"
  | isDirectory => "Is a directory (os error 21)"
  | notRegular => "the source path is neither a regular file nor a symlink to a regular file"
  | tooManyLinks => "Too many levels of symbolic links (os error 40)"
  | notUtf8 => "stream did not contain valid UTF-8"

/-- A kind of log that a run can read. -/
inductive LogFormat where
  | clover
  | junit
  deriving DecidableEq, Repr, Inhabited

namespace LogFormat

/-- The name of a log format. -/
def text : LogFormat → String
  | clover => "clover"
  | junit => "junit"

/-- The element that a log of the format starts with. -/
def root : LogFormat → String
  | clover => "coverage"
  | junit => "testsuites"

end LogFormat

/-- Why a run ended. -/
inductive Failure where
  /-- The source root is no directory. -/
  | noSourceRoot (path : String)
  /-- The settings file cannot be read as settings. -/
  | badSettings
  /-- The exclude pattern is no pattern. -/
  | badExclude
  /-- A pattern for external names is no pattern. -/
  | badExternal (pattern : String)
  /-- No language has the file extension. -/
  | noLanguage (extension : String)
  /-- A log is not well formed. -/
  | malformedLog (format : LogFormat)
  /-- A log starts with another element than its format has. -/
  | wrongLogRoot (format : LogFormat) (found : String)
  /-- The guide is no directory. -/
  | noGuide (path : String)
  /-- A file cannot be written. -/
  | notWritten (path : String) (cause : DiskError)
  /-- A file cannot be read. -/
  | notRead (cause : DiskError)
  deriving DecidableEq, Repr, Inhabited

namespace Failure

/-- What a failure is about. -/
inductive Category where
  | sourceRoot
  | settings
  | parsing
  | logFormat
  | output
  | reading
  deriving DecidableEq, Repr, Inhabited

/-- The category of a failure. -/
def category : Failure → Category
  | noSourceRoot _ => .sourceRoot
  | badSettings | badExclude | badExternal _ => .settings
  | noLanguage _ => .parsing
  | malformedLog _ | wrongLogRoot _ _ => .logFormat
  | noGuide _ | notWritten _ _ => .output
  | notRead _ => .reading

/-- The words that open the text of a failure. -/
def Category.opening : Category → String
  | sourceRoot => "Source root error: "
  | settings => "Configuration error: "
  | parsing => "Parse error: "
  | logFormat => "Log format error: "
  | output => "Output error: "
  | reading => "IO error: "

/-- What went wrong, without the category. -/
def detail : Failure → String
  | noSourceRoot path => path ++ " does not exist or is not a directory"
  | badSettings => ""
  | badExclude => "invalid exclude pattern: "
  | badExternal p => "invalid external pattern `" ++ p ++ "`: "
  | noLanguage e => "no extractor for extension `" ++ e ++ "`"
  | malformedLog f => f.text ++ ": "
  | wrongLogRoot f found => f.text ++ ": expected <" ++ f.root ++ ">, found <" ++ found ++ ">"
  | noGuide path => "guide directory " ++ path ++ " does not exist"
  | notWritten path cause => path ++ ": " ++ cause.message
  | notRead cause => cause.message

/-- The text of a failure. -/
def message (f : Failure) : String := f.category.opening ++ f.detail

end Failure
end CodeAtlas
