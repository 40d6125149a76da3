/-
  CodeAtlas.Warning — problems that a run reports and survives.

  A warning concerns a whole file, one declaration, or a record of a coverage or test log.
-/
import CodeAtlas.Order

namespace CodeAtlas

/-- What a warning is about. -/
inductive WarningKind where
  | file
  | declaration
  | metadata
  deriving DecidableEq, Repr, Inhabited

namespace WarningKind

/-- The word for a kind of warning. -/
def text : WarningKind → String
  | file => "file"
  | declaration => "declaration"
  | metadata => "metadata"

/-- Place of a kind in the order of warnings. -/
def rank : WarningKind → Nat
  | file => 0
  | declaration => 1
  | metadata => 2

end WarningKind

/-- A problem, where it was met, and what it is. -/
structure Warning where
  kind : WarningKind
  path : Option String
  line : Option Nat
  message : String
  deriving DecidableEq, Repr, Inhabited

namespace Warning

/-- A whole file was skipped. -/
def ofFile (path message : String) : Warning := ⟨.file, some path, none, message⟩

/-- A declaration was dropped or repaired. -/
def ofDeclaration (path : String) (line : Nat) (message : String) : Warning :=
  ⟨.declaration, some path, some line, message⟩

/-- A record of a log was ignored. -/
def ofMetadata (path : Option String) (message : String) : Warning :=
  ⟨.metadata, path, none, message⟩

/-- Warnings are ordered by kind, path, line (none first) and message. -/
def order : Warning → Warning → Ordering :=
  compareLex (compareOn (·.kind.rank)) <|
  compareLex (compareOn (·.path)) <|
  compareLex (compareOn (·.line)) (compareOn (·.message))

/-- Sorted, each warning once. -/
def tidy (ws : List Warning) : List Warning := sortDistinct order ws

/-- One line of text: `[kind] path:line: message`, as far as path and line are known. -/
def text (w : Warning) : String :=
  let place :=
    match w.path, w.line with
    | some path, some line => " " ++ path ++ ":" ++ toString line ++ ":"
    | some path, none => " " ++ path ++ ":"
    | none, _ => ""
  "[" ++ w.kind.text ++ "]" ++ place ++ " " ++ w.message

end Warning
end CodeAtlas
