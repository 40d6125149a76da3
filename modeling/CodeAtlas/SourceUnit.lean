/-
  CodeAtlas.SourceUnit — source files and what is read from them.

  A unit is one source file with its path below the source root.  Its language follows from its
  extension.  The grammar that turns a text into a syntax tree is a parameter: this library reads
  trees, it does not build them.

  * `SourceUnit.parse`: the declarations, mentions and problems of one unit.
-/
import CodeAtlas.Extraction.Statements
import CodeAtlas.Failure
import CodeAtlas.Text.Lines
import CodeAtlas.Text.Path

namespace CodeAtlas

/-! ## §1. Languages -/

/-- The languages that declarations are extracted from. -/
inductive Language where
  | php
  deriving DecidableEq, Repr, Inhabited

namespace Language

/-- Every language. -/
def all : List Language := [php]

/-- The name of a language. -/
def text : Language → String
  | php => "php"

/-- The file extensions of a language. -/
def extensions : Language → List String
  | php => ["php"]

/-- The language of a file extension, in lower case and without a dot. -/
def ofExtension? (extension : String) : Option Language :=
  all.find? (·.extensions.contains extension)

end Language

/-! ## §2. Units -/

/-- A source file: its path below the source root, with slashes, and its text. -/
structure SourceUnit where
  path : String
  text : String
  deriving DecidableEq, Repr, Inhabited

/-- The syntax tree of a text. -/
abbrev Grammar : Type := String → Node

/-- What was read from a unit. -/
structure ParsedUnit where
  filePath : String
  language : Language
  lineCount : Nat
  declarations : List Declaration
  references : List Mention
  warnings : List Warning
  deriving DecidableEq, Inhabited

namespace SourceUnit

/-- A unit at a path written with either separator. -/
def ofPath (path text : String) : SourceUnit := ⟨Path.slashed path, text⟩

/-- Number of lines of a unit. -/
def lineCount (u : SourceUnit) : Nat := Text.lineCount u.text

/-- The extension of a unit in lower case. -/
def extension (u : SourceUnit) : String := Text.lowerAscii ((Path.extension? u.path).getD "")

/-- Reads a unit.  Only an extension without a language is a failure; text that the grammar cannot
read yields warnings at most. -/
def parse (grammar : Grammar) (includePrivate : Bool) (u : SourceUnit) :
    Except Failure ParsedUnit :=
  match Language.ofExtension? u.extension with
  | none => .error (.noLanguage u.extension)
  | some language =>
    let x := Extraction.ofTree ⟨u.path, u.text.toList, includePrivate⟩ (grammar u.text)
    .ok ⟨u.path, language, u.lineCount, x.declarations, x.references, x.warnings⟩

end SourceUnit
end CodeAtlas
