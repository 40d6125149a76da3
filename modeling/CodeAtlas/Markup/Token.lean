/-
  CodeAtlas.Markup.Token — the tags and texts of a document.

  `Token.scan?` cuts a document into tags and stretches of text.  Comments, processing instructions
  and the declaration at the start are checked and dropped.  Document type declarations are refused,
  and so is anything else that is not well formed within one token; whether tags match is decided by
  the tree.
-/
import CodeAtlas.Markup.Character
import CodeAtlas.Text.Digit
import CodeAtlas.Text.Segment

namespace CodeAtlas.Markup

/-! ## §1. Tokens -/

/-- A name with an optional qualifier in front of a colon. -/
structure QName where
  qualifier : String
  name : String
  deriving DecidableEq, Repr, Inhabited

/-- A piece of a document. -/
inductive Token where
  /-- A start tag; `closed` if the element ends with it. -/
  | opening (name : QName) (attributes : List (QName × String)) (closed : Bool)
  | closing (name : QName)
  /-- Text between tags; `blank` if it holds nothing but blanks. -/
  | text (blank : Bool)
  deriving DecidableEq, Repr, Inhabited

/-! ## §2. Names -/

/-- Skips blanks. -/
def skipSpaces (s : List Char) : List Char := s.dropWhile isSpace

/-- Reads a name that may hold colons. -/
def name? (s : List Char) : Option (String × List Char) :=
  match s with
  | c :: _ =>
    if isNameStart c then some (String.ofList (s.takeWhile isNameChar), s.dropWhile isNameChar)
    else none
  | [] => none

/-- A part of a name in front of or behind a colon. -/
def startsName (s : List Char) : Bool := s.head?.any isNameStart

/-- Reads a name with at most one colon. -/
def qname? (s : List Char) : Option (QName × List Char) :=
  let rest := s.dropWhile isNameChar
  match Chars.split ':' (s.takeWhile isNameChar) with
  | [name] => if startsName name then some (⟨"", String.ofList name⟩, rest) else none
  | [qualifier, name] =>
    if (qualifier.isEmpty || startsName qualifier) && startsName name then
      some (⟨String.ofList qualifier, String.ofList name⟩, rest)
    else none
  | _ => none

/-! ## §3. References -/

/-- Reads a number of 32 bits. -/
def number? (base : Nat) (s : List Char) : Option (Nat × List Char) :=
  let digits := s.takeWhile (isDigitIn base)
  let value := Chars.valueIn base digits
  if digits.isEmpty || 0x100000000 ≤ value then none else some (value, s.drop digits.length)

/-- The character of a code point; a code point without one gives the replacement character. -/
def charOfCode (n : Nat) : Char := (charOf? n).getD (Char.ofNat 0xFFFD)

/-- The character that a named reference stands for. -/
def entity? : String → Option Char
  | "quot" => some '\x22'
  | "amp" => some '&'
  | "apos" => some '\x27'
  | "lt" => some '<'
  | "gt" => some '>'
  | _ => none

/-- Reads a reference behind its ampersand. -/
def reference? (s : List Char) : Option (Char × List Char) :=
  let code (r : Option (Nat × List Char)) : Option (Char × List Char) :=
    (r.map fun (n, rest) => (charOfCode n, rest)).filter fun (c, _) => isAllowed c
  let read :=
    match s with
    | '#' :: 'x' :: digits => code (number? 16 digits)
    | '#' :: digits => code (number? 10 digits)
    | s => (name? s).bind fun (name, rest) => (entity? name).map (·, rest)
  read.bind fun (c, rest) =>
    match rest with
    | ';' :: rest => some (c, rest)
    | _ => none

/-- The value of an attribute: references are replaced, line breaks and tabs become blanks. -/
def attributeValue? : Nat → List Char → Option (List Char)
  | _, [] => some []
  | 0, _ :: _ => none
  | fuel + 1, '&' :: rest =>
    (reference? rest).bind fun (c, rest) => (attributeValue? fuel rest).map (c :: ·)
  | fuel + 1, '\r' :: '\n' :: rest => (attributeValue? fuel rest).map (' ' :: ·)
  | fuel + 1, c :: rest => (attributeValue? fuel rest).map ((if isSpace c then ' ' else c) :: ·)

/-- Whether every ampersand of a text starts a reference. -/
def referencesHold : List Char → Bool
  | [] => true
  | '&' :: rest => (reference? rest).isSome && referencesHold rest
  | _ :: rest => referencesHold rest

/-! ## §4. Tags -/

/-- Reads a name, an equals sign and a quoted text, which is given as it is written. -/
def rawAttribute? (s : List Char) : Option ((QName × List Char) × List Char) :=
  (qname? s).bind fun (name, rest) =>
    match skipSpaces rest with
    | '=' :: rest =>
      match skipSpaces rest with
      | quote :: rest =>
        if quote == '\x22' || quote == '\x27' then
          let value := rest.takeWhile (· != quote)
          if value.contains '<' || !value.all isAllowed then none
          else
            match rest.dropWhile (· != quote) with
            | _ :: rest => some ((name, value), rest)
            | [] => none
        else none
      | [] => none
    | _ => none

/-- Reads an attribute with its value. -/
def attribute? (s : List Char) : Option ((QName × String) × List Char) :=
  (rawAttribute? s).bind fun ((name, value), rest) =>
    (attributeValue? value.length value).map fun v => ((name, String.ofList v), rest)

/-- Reads the attributes and the end of a start tag. -/
def tagRest? : Nat → List Char → Option (List (QName × String) × Bool × List Char)
  | 0, _ => none
  | fuel + 1, s =>
    match skipSpaces s with
    | '/' :: '>' :: rest => some ([], true, rest)
    | '>' :: rest => some ([], false, rest)
    | rest =>
      if s.head?.any isSpace then
        (attribute? rest).bind fun (a, rest) =>
          (tagRest? fuel rest).map fun (more, closed, rest) => (a :: more, closed, rest)
      else none

/-- Reads a start tag behind its angle bracket. -/
def opening? (s : List Char) : Option (Token × List Char) :=
  (qname? s).bind fun (name, rest) =>
    (tagRest? (rest.length + 1) rest).map fun (attributes, closed, rest) =>
      (.opening name attributes closed, rest)

/-- Reads an end tag behind its angle bracket and slash. -/
def closing? (s : List Char) : Option (Token × List Char) :=
  (qname? s).bind fun (name, rest) =>
    match skipSpaces rest with
    | '>' :: rest => some (.closing name, rest)
    | _ => none

/-! ## §5. Text, comments and instructions -/

/-- Skips a comment behind its opening; two dashes may stand only at its end. -/
def comment? (s : List Char) : Option (List Char) :=
  (Chars.splitAtMark "-->".toList s).bind fun (body, rest) =>
    if body.all isAllowed && !Chars.hasMark "--".toList body && body.getLast? != some '-' then
      some rest
    else none

/-- Skips a processing instruction behind its opening. -/
def instruction? (s : List Char) : Option (List Char) :=
  if (Chars.dropPrefix? "xml ".toList s).isSome then none
  else
    (name? s).bind fun (_, rest) =>
      (Chars.splitAtMark "?>".toList (skipSpaces rest)).bind fun (body, rest) =>
        if body.all isAllowed then some rest else none

/-- Reads a section of plain characters behind its opening. -/
def plainSection? (s : List Char) : Option (Token × List Char) :=
  (Chars.splitAtMark "]]>".toList s).bind fun (body, rest) =>
    if body.all isAllowed then some (.text false, rest) else none

/-- Reads text up to the next tag. -/
def text? (s : List Char) : Option (Token × List Char) :=
  let body := s.takeWhile (· != '<')
  if body.all isAllowed && !Chars.hasMark "]]>".toList body && referencesHold body then
    some (.text (body.all isSpace), s.dropWhile (· != '<'))
  else none

/-! ## §6. Documents -/

/-- Reads the next token, or skips what stands for none. -/
def next? (s : List Char) : Option (Option Token × List Char) :=
  let token (r : Option (Token × List Char)) := r.map fun (t, rest) => (some t, rest)
  match s with
  | '<' :: '!' :: '-' :: '-' :: rest => (comment? rest).map (none, ·)
  | '<' :: '!' :: rest =>
    token ((Chars.dropPrefix? "[CDATA[".toList rest).bind plainSection?)
  | '<' :: '?' :: rest => (instruction? rest).map (none, ·)
  | '<' :: '/' :: rest => token (closing? rest)
  | '<' :: rest => token (opening? rest)
  | s => token (text? s)

/-- The tokens of what is left of a document. -/
def tokens? : Nat → List Char → Option (List Token)
  | _, [] => some []
  | 0, _ :: _ => none
  | fuel + 1, c :: rest =>
    (next? (c :: rest)).bind fun (t, rest) => (tokens? fuel rest).map (t.toList ++ ·)

/-- Skips the blanks that must follow a part of a declaration, unless its end follows. -/
def gap? (s : List Char) : Option (List Char) :=
  if s.head?.any isSpace || s.isEmpty || (Chars.dropPrefix? "?>".toList s).isSome then
    some (skipSpaces s)
  else none

/-- Skips a part of a declaration whose name starts with the given one, if it is there. -/
def declarationPart? (name : String) (s : List Char) : Option (List Char) :=
  if (Chars.dropPrefix? name.toList s).isSome then
    (rawAttribute? s).bind fun (_, rest) => gap? rest
  else some s

/-- Skips a declaration behind its opening: a version, then perhaps an encoding and whether the
document stands alone, in this order. -/
def declaration? (s : List Char) : Option (List Char) :=
  (gap? s).bind fun s =>
    if (Chars.dropPrefix? "version".toList s).isNone then none
    else
      (declarationPart? "version" s).bind fun s =>
        (declarationPart? "encoding" s).bind fun s =>
          (declarationPart? "standalone" s).bind fun s =>
            Chars.dropPrefix? "?>".toList (skipSpaces s)

/-- Drops a mark of the byte order and a declaration. -/
def body? (s : List Char) : Option (List Char) :=
  let s := (Chars.dropPrefix? [Char.ofNat 0xFEFF] s).getD s
  match Chars.dropPrefix? "<?xml".toList s with
  | some (' ' :: rest) => declaration? (' ' :: rest)
  | _ => some s

/-- The tokens of a document. -/
def Token.scan? (s : List Char) : Option (List Token) :=
  (body? s).bind fun s => tokens? s.length s

end CodeAtlas.Markup
