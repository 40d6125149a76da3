/-
  CodeAtlas.Toml.Parser — settings files as they are written.

  `Toml.parse?` reads a whole file: lines with keys and values, headers of tables, comments.  The
  reader takes one line at a time and keeps the tables under construction with the path of the one
  that is open.
-/
import CodeAtlas.Toml.Number
import CodeAtlas.Toml.Table
import CodeAtlas.Toml.Text

namespace CodeAtlas.Toml

/-- Values and keys may not be nested as deep as this. -/
def depthLimit : Nat := 80

/-! ## §1. Keys -/

/-- Characters of a key without quotes. -/
def isBareKey (c : Char) : Bool := c.isAlphanum || c == '-' || c == '_'

/-- Reads one part of a key. -/
def keyPart? (s : List Char) : Option (String × List Char) :=
  match s with
  | '\x22' :: _ => (quoted? s).map fun (t, rest) => (String.ofList t, rest)
  | '\x27' :: _ => (quoted? s).map fun (t, rest) => (String.ofList t, rest)
  | _ =>
    let word := s.takeWhile isBareKey
    if word.isEmpty then none else some (String.ofList word, s.dropWhile isBareKey)

/-- Reads the parts of a key between dots, blanks allowed around each. -/
def keyParts? : Nat → List Char → Option (List String × List Char)
  | 0, _ => none
  | fuel + 1, s =>
    (keyPart? (skipSpaces s)).bind fun (part, rest) =>
      match skipSpaces rest with
      | '.' :: rest => (keyParts? fuel rest).map fun (parts, rest) => (part :: parts, rest)
      | rest => some ([part], rest)

/-- Reads a key. -/
def key? (s : List Char) : Option (List String × List Char) :=
  (keyParts? (s.length + 1) s).filter fun (parts, _) => parts.length < depthLimit

/-- Reads a key and the equals sign behind it. -/
def assigned? (s : List Char) : Option (List String × List Char) :=
  (key? s).bind fun (key, rest) =>
    match rest with
    | '=' :: rest => some (key, skipSpaces rest)
    | _ => none

/-! ## §2. Comments and line ends -/

/-- Skips a comment, if there is one.  It may hold what a string may hold as it is. -/
def skipComment : List Char → List Char
  | '#' :: rest => rest.dropWhile isPlain
  | s => s

/-- What follows the end of a line, which may hold blanks and a comment. -/
def lineEnd? (s : List Char) : Option (List Char) :=
  match skipComment (skipSpaces s) with
  | [] => some []
  | s => newline? s

/-- Skips blanks, comments and line breaks. -/
def skipLines : Nat → List Char → List Char
  | 0, s => s
  | fuel + 1, s =>
    match skipSpaces s with
    | [] => []
    | c :: rest =>
      match newline? (skipComment (c :: rest)) with
      | some rest => skipLines fuel rest
      | none => c :: rest

/-! ## §3. Values -/

/-- The table of the assignments in braces. -/
def inlineTable? (fields : List (List String × Value)) : Option Value :=
  (fields.foldlM (fun (b : Branch) (f : List String × Value) => b.assign? f.1 f.2) {}).map
    (·.item.toValue)

mutual

/-- Reads a value; `depth` counts the brackets and braces around it. -/
def value? : Nat → Nat → List Char → Option (Value × List Char)
  | 0, _, _ => none
  | fuel + 1, depth, s =>
    match s with
    | [] => none
    | '[' :: rest =>
      if depth + 1 < depthLimit then
        (items? fuel (depth + 1) rest).map fun (items, rest) => (.array items, rest)
      else none
    | '{' :: rest =>
      if depth + 1 < depthLimit then
        match skipSpaces rest with
        | '}' :: rest => (inlineTable? []).map (·, rest)
        | rest =>
          (fields? fuel (depth + 1) rest).bind fun (fields, rest) =>
            (inlineTable? fields).map (·, rest)
      else none
    | 't' :: 'r' :: 'u' :: 'e' :: rest => some (.boolean true, rest)
    | 'f' :: 'a' :: 'l' :: 's' :: 'e' :: rest => some (.boolean false, rest)
    | c :: rest =>
      if c == '\x22' || c == '\x27' then
        (string? (c :: rest)).map fun (t, rest) => (.string (String.ofList t), rest)
      else number? (c :: rest)

/-- Reads the items of an array behind its bracket or a comma. -/
def items? : Nat → Nat → List Char → Option (List Value × List Char)
  | 0, _, _ => none
  | fuel + 1, depth, s =>
    match skipLines s.length s with
    | ']' :: rest => some ([], rest)
    | s =>
      (value? fuel depth s).bind fun (v, rest) =>
        match skipLines rest.length rest with
        | ']' :: rest => some ([v], rest)
        | ',' :: rest => (items? fuel depth rest).map fun (vs, rest) => (v :: vs, rest)
        | _ => none

/-- Reads the assignments of a table in braces behind its brace or a comma. -/
def fields? : Nat → Nat → List Char → Option (List (List String × Value) × List Char)
  | 0, _, _ => none
  | fuel + 1, depth, s =>
    (assigned? s).bind fun (key, rest) =>
      (value? fuel depth rest).bind fun (v, rest) =>
        match skipSpaces rest with
        | '}' :: rest => some ([(key, v)], rest)
        | ',' :: rest => (fields? fuel depth rest).map fun (fs, rest) => ((key, v) :: fs, rest)
        | _ => none

end

/-! ## §4. Files -/

/-- A file read so far: its tables and the path of the one that is open. -/
structure Reading where
  root : Branch := {}
  current : List String := []

namespace Reading

/-- Reads a header behind its brackets. -/
def header? (r : Reading) (closing : List Char) (enter : List String → Branch → Option Branch)
    (s : List Char) : Option (Reading × List Char) := do
  let (key, rest) ← key? s
  let rest ← (Chars.dropPrefix? closing rest).bind lineEnd?
  let root ← enter key r.root
  return (⟨root, key⟩, rest)

/-- Reads an assignment. -/
def assignment? (r : Reading) (s : List Char) : Option (Reading × List Char) := do
  let (key, rest) ← assigned? s
  let (v, rest) ← value? (2 * rest.length + 2) 0 rest
  let rest ← lineEnd? rest
  let root ← r.root.change? false (·.assign? key v) r.current
  return ({ r with root }, rest)

/-- Reads a header or an assignment. -/
def statement? (r : Reading) : List Char → Option (Reading × List Char)
  | '[' :: '[' :: rest => r.header? [']', ']'] Branch.openElement? rest
  | '[' :: rest => r.header? [']'] Branch.openTable? rest
  | s => r.assignment? s

/-- Reads the rest of a file. -/
def rest? : Nat → Reading → List Char → Option Reading
  | 0, _, _ => none
  | fuel + 1, r, s =>
    match skipSpaces s with
    | [] => some r
    | '#' :: rest => (lineEnd? ('#' :: rest)).bind (rest? fuel r)
    | s =>
      match newline? s with
      | some rest => rest? fuel r rest
      | none => (r.statement? s).bind fun (r, rest) => rest? fuel r rest

end Reading

/-- The fields of a settings file, which may start with a mark of the byte order. -/
def parse? (s : String) : Option (List (String × Value)) :=
  let chars := (Chars.dropPrefix? [Char.ofNat 0xFEFF] s.toList).getD s.toList
  ((Reading.rest? (chars.length + 1) {} chars).map fun r => fieldValues r.root.fields)

end CodeAtlas.Toml
