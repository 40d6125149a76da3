/-
  CodeAtlas.Toml.Text — quoted strings.

  Strings stand in double quotes with escapes or in single quotes without, on one line or, with
  three quotes, on several.  Each reader gets what follows the opening quotes and returns the text
  with what follows the closing ones.
-/
import CodeAtlas.Text.Digit
import CodeAtlas.Text.Segment

namespace CodeAtlas.Toml

/-! ## §1. Characters -/

/-- Blanks inside a line. -/
def isSpace (c : Char) : Bool := c == ' ' || c == '\t'

/-- Characters that may stand in a string as they are: no control characters but the tab. -/
def isPlain (c : Char) : Bool := c == '\t' || (32 ≤ c.toNat && c.toNat != 127)

/-- Skips blanks. -/
def skipSpaces (s : List Char) : List Char := s.dropWhile isSpace

/-- What follows a line break. -/
def newline? : List Char → Option (List Char)
  | '\n' :: rest => some rest
  | '\r' :: '\n' :: rest => some rest
  | _ => none

/-- Reads an escape behind its backslash. -/
def escape? : List Char → Option (Char × List Char)
  | 'b' :: rest => some ('\x08', rest)
  | 't' :: rest => some ('\t', rest)
  | 'n' :: rest => some ('\n', rest)
  | 'f' :: rest => some ('\x0c', rest)
  | 'r' :: rest => some ('\r', rest)
  | '\x22' :: rest => some ('\x22', rest)
  | '\\' :: rest => some ('\\', rest)
  | 'u' :: rest => if rest.length < 4 then none else (hexChar? (rest.take 4)).map (·, rest.drop 4)
  | 'U' :: rest => if rest.length < 8 then none else (hexChar? (rest.take 8)).map (·, rest.drop 8)
  | _ => none

/-! ## §2. Strings on one line -/

/-- Reads a string in double quotes. -/
def basic? : Nat → List Char → Option (List Char × List Char)
  | 0, _ => none
  | _ + 1, [] => none
  | fuel + 1, c :: rest =>
    if c == '\x22' then some ([], rest)
    else if c == '\\' then
      (escape? rest).bind fun (e, rest) => (basic? fuel rest).map fun (t, rest) => (e :: t, rest)
    else if isPlain c then (basic? fuel rest).map fun (t, rest) => (c :: t, rest)
    else none

/-- Reads a string in single quotes. -/
def literal? : List Char → Option (List Char × List Char)
  | [] => none
  | c :: rest =>
    if c == '\x27' then some ([], rest)
    else if isPlain c then (literal? rest).map fun (t, rest) => (c :: t, rest)
    else none

/-! ## §3. Strings on several lines -/

/-- The end of a string in three quotes: up to two more quotes belong to the text. -/
def closing (quote : Char) (s : List Char) : List Char × List Char :=
  let extra := (s.take 2).takeWhile (· == quote)
  (extra, s.drop extra.length)

/-- Skips the blanks and line breaks that a backslash at the end of a line takes away. -/
def gap? (s : List Char) : Option (List Char) :=
  (newline? (skipSpaces s)).map fun rest => skip rest.length rest
where
  skip : Nat → List Char → List Char
    | 0, s => s
    | fuel + 1, s =>
      match newline? (skipSpaces s) with
      | some rest => skip fuel rest
      | none => skipSpaces s

/-- Reads a string in three double quotes. -/
def multiBasic? : Nat → List Char → Option (List Char × List Char)
  | 0, _ => none
  | fuel + 1, s =>
    let more (text : List Char) (rest : List Char) :=
      (multiBasic? fuel rest).map fun (t, rest) => (text ++ t, rest)
    match s with
    | [] => none
    | '\x22' :: '\x22' :: '\x22' :: rest => some (closing '\x22' rest)
    | '\x22' :: rest => more ['\x22'] rest
    | '\\' :: rest =>
      match gap? rest with
      | some rest => more [] rest
      | none => (escape? rest).bind fun (e, rest) => more [e] rest
    | c :: rest =>
      match newline? (c :: rest) with
      | some rest => more ['\n'] rest
      | none => if isPlain c then more [c] rest else none

/-- Reads a string in three single quotes. -/
def multiLiteral? : Nat → List Char → Option (List Char × List Char)
  | 0, _ => none
  | fuel + 1, s =>
    let more (c : Char) (rest : List Char) :=
      (multiLiteral? fuel rest).map fun (t, rest) => (c :: t, rest)
    match s with
    | [] => none
    | '\x27' :: '\x27' :: '\x27' :: rest => some (closing '\x27' rest)
    | c :: rest =>
      match newline? (c :: rest) with
      | some rest => more '\n' rest
      | none => if isPlain c then more c rest else none

/-! ## §4. Any string -/

/-- Drops the line break that may follow three opening quotes. -/
def dropFirstBreak (s : List Char) : List Char := (newline? s).getD s

/-- Reads a string on one line, in either kind of quotes. -/
def quoted? : List Char → Option (List Char × List Char)
  | '\x22' :: rest => basic? (rest.length + 1) rest
  | '\x27' :: rest => literal? rest
  | _ => none

/-- Reads any string. -/
def string? : List Char → Option (List Char × List Char)
  | '\x22' :: '\x22' :: '\x22' :: rest => multiBasic? (rest.length + 1) (dropFirstBreak rest)
  | '\x27' :: '\x27' :: '\x27' :: rest => multiLiteral? (rest.length + 1) (dropFirstBreak rest)
  | s => quoted? s

end CodeAtlas.Toml
