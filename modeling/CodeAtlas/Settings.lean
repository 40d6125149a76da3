/-
  CodeAtlas.Settings — what a settings file decides.

  Every section and every key has a default.  Keys that mean nothing are passed over; a value of the
  wrong type makes the whole file unreadable.  A section may also be written as an array of its
  values in the order of its keys.
-/
import CodeAtlas.Failure
import CodeAtlas.Metric
import CodeAtlas.Toml.Parser

namespace CodeAtlas

/-! ## §1. Sections -/

/-- Which files below the source root are documented. -/
structure SourceSettings where
  /-- Extension of documented files. -/
  extension : String := "php"
  /-- Pattern of paths that are not documented. -/
  excludePattern : String := "(?i)(^|/)test[^/]*/"
  /-- Leave out what ignore files name. -/
  respectGitignore : Bool := false
  followLinks : Bool := false
  deriving DecidableEq, Repr, Inhabited

/-- How files are read. -/
structure ParserSettings where
  /-- Document private members. -/
  includePrivate : Bool := true
  /-- Number of workers, none for a choice by the machine; results do not depend on it. -/
  jobs : Nat := 0
  deriving DecidableEq, Repr, Inhabited

/-- Patterns of names that are known to live outside the documented sources. -/
def defaultExternalPatterns : List String := [
  "^(Psr|Symfony|Illuminate|Doctrine|PHPUnit|GuzzleHttp|Monolog)\\\\",
  "^\\w*(Exception|Error)$",
  "^(Throwable|Traversable|Iterator|IteratorAggregate|ArrayAccess|Countable|Stringable|" ++
    "JsonSerializable|Serializable|Closure|Generator|WeakMap|stdClass|ArrayObject|" ++
    "SplObjectStorage|SplStack|SplQueue|DateTime|DateTimeImmutable|DateTimeInterface|" ++
    "DateInterval|DateTimeZone|PDO|PDOStatement|Reflection\\w*|\\w*Iterator)$",
  "^(array|str|mb|preg|json|spl|file|is|ctype)_\\w+$",
  "^(count|strlen|sprintf|printf|implode|explode|trim|rtrim|ltrim|substr|strpos|stripos|" ++
    "strtolower|strtoupper|in_array|define|defined|dirname|basename|realpath|intval|floatval|" ++
    "strval|boolval|min|max|abs|round|floor|ceil|time|date|microtime|var_dump|print_r)$"]

/-- How names are resolved. -/
structure ResolverSettings where
  externalPatterns : List String := defaultExternalPatterns
  deriving DecidableEq, Repr, Inhabited

/-- How the output is written. -/
structure OutputSettings where
  /-- Indent the output. -/
  pretty : Bool := true
  deriving DecidableEq, Repr, Inhabited

/-- All settings of a run. -/
structure Settings where
  source : SourceSettings := {}
  parser : ParserSettings := {}
  resolver : ResolverSettings := {}
  output : OutputSettings := {}
  deriving DecidableEq, Repr, Inhabited

/-! ## §2. Reading values -/

namespace Settings

open Toml (Value)

def text? : Value → Option String
  | .string s => some s
  | _ => none

def flag? : Value → Option Bool
  | .boolean b => some b
  | _ => none

def count? : Value → Option Nat
  | .integer n => if 0 ≤ n then some n.toNat else none
  | _ => none

def texts? : Value → Option (List String)
  | .array items => items.mapM text?
  | _ => none

/-- The fields of a section: those of a table, the items of an array under the keys in order, or
none at all for a date-time. -/
def sectionFields? (keys : List String) : Value → Option (List (String × Value))
  | .table fields => some fields
  | .array items => some (keys.zip items)
  | .dateTime => some []
  | _ => none

/-- The value of a key, its default if the key is absent; none if it cannot be read. -/
def field? {α : Type} (fields : List (String × Value)) (key : String) (read : Value → Option α)
    (default : α) : Option α :=
  match fields.lookup key with
  | none => some default
  | some v => read v

/-! ## §3. Reading sections -/

def source? (v : Value) : Option SourceSettings := do
  let d : SourceSettings := {}
  let fields ←
    sectionFields? ["extension", "exclude_pattern", "respect_gitignore", "follow_links"] v
  return {
    extension := ← field? fields "extension" text? d.extension
    excludePattern := ← field? fields "exclude_pattern" text? d.excludePattern
    respectGitignore := ← field? fields "respect_gitignore" flag? d.respectGitignore
    followLinks := ← field? fields "follow_links" flag? d.followLinks }

def parser? (v : Value) : Option ParserSettings := do
  let d : ParserSettings := {}
  let fields ← sectionFields? ["include_private", "jobs"] v
  return {
    includePrivate := ← field? fields "include_private" flag? d.includePrivate
    jobs := ← field? fields "jobs" count? d.jobs }

def resolver? (v : Value) : Option ResolverSettings := do
  let d : ResolverSettings := {}
  let fields ← sectionFields? ["external_patterns"] v
  return { externalPatterns := ← field? fields "external_patterns" texts? d.externalPatterns }

def output? (v : Value) : Option OutputSettings := do
  let d : OutputSettings := {}
  let fields ← sectionFields? ["pretty"] v
  return { pretty := ← field? fields "pretty" flag? d.pretty }

/-- The settings of the fields of a file. -/
def ofFields? (fields : List (String × Value)) : Option Settings := do
  let d : Settings := {}
  return {
    source := ← field? fields "source" source? d.source
    parser := ← field? fields "parser" parser? d.parser
    resolver := ← field? fields "resolver" resolver? d.resolver
    output := ← field? fields "output" output? d.output }

/-- Reads the text of a settings file. -/
def parse (text : String) : Except Failure Settings :=
  match (Toml.parse? text).bind ofFields? with
  | some s => .ok s
  | none => .error .badSettings

end Settings
end CodeAtlas
