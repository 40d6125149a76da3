/-
  CodeAtlas.Pattern.Parser — reading the text of a pattern.

  `Expression.parse?` reads alternatives, groups with flags or names, classes, escapes, conditions
  and repetitions, lazy or not.  A text that is not well formed gives nothing.  The reader keeps the
  group it is in and the groups open around it as a value, and takes one piece of the text at each
  step.  Every smaller reader takes the characters that follow and returns what it read with the
  rest.  In verbose patterns blanks and comments are skipped wherever a piece can be broken.
-/
import CodeAtlas.Pattern.Expression
import CodeAtlas.Text.Digit
import CodeAtlas.Text.Property.Identifier
import CodeAtlas.Text.Segment

namespace CodeAtlas.Pattern

/-! ## §1. Blanks -/

/-- Skips blanks and comments; `inComment` tells whether the place is in a comment. -/
def skipBlanks (inComment : Bool) : List Char → List Char
  | [] => []
  | c :: rest =>
    if inComment then skipBlanks (c != '\n') rest
    else if isBlank c then skipBlanks false rest
    else if c == '#' then skipBlanks true rest
    else c :: rest

/-- Skips blanks and comments in a verbose pattern. -/
def skip (verbose : Bool) (s : List Char) : List Char := if verbose then skipBlanks false s else s

/-- The first character that is not blank, past one opening of a comment. -/
def peekPast (inComment : Bool) : List Char → Option Char
  | [] => none
  | c :: rest =>
    if isBlank c then peekPast inComment rest
    else if !inComment && c == '#' then peekPast true rest
    else some c

/-- The character that decides whether a minus stands for itself. -/
def peek (verbose : Bool) (s : List Char) : Option Char :=
  if verbose then (peekPast false s).or s.head? else s.head?

/-- Takes the characters of a kind, with blanks behind each; the first argument bounds their
number. -/
def takeSpaced (verbose : Bool) (p : Char → Bool) : Nat → List Char → List Char × List Char
  | _, [] => ([], [])
  | 0, s => ([], s)
  | n + 1, c :: rest =>
    if p c then
      let (cs, rest) := takeSpaced verbose p n (skip verbose rest)
      (c :: cs, rest)
    else ([], c :: rest)

/-- Takes the characters up to a closing brace, with blanks in front of each. -/
def untilBrace? (verbose : Bool) : Nat → List Char → Option (List Char × List Char)
  | 0, _ => none
  | n + 1, s =>
    match skip verbose s with
    | [] => none
    | '}' :: rest => some ([], rest)
    | c :: rest => (untilBrace? verbose n rest).map fun (cs, rest) => (c :: cs, rest)

/-! ## §2. Escapes -/

/-- Reads the character of `count` hexadecimal digits, or of any number of them in braces. -/
def hex? (verbose : Bool) (count : Nat) (s : List Char) : Option (Letter × List Char) :=
  match skip verbose s with
  | '{' :: rest =>
    (untilBrace? verbose (rest.length + 1) rest).bind fun (digits, rest) =>
      (hexChar? digits).map fun c => ({ char := c }, rest)
  | s =>
    let (digits, rest) := takeSpaced verbose (isDigitIn 16) count s
    if digits.length = count then
      (hexChar? digits).map fun c => ({ char := c, isByte := count == 2 }, rest)
    else none

/-- Characters that have a meaning of their own in patterns. -/
def metaChars : List Char :=
  ['\\', '.', '+', '*', '?', '(', ')', '|', '[', ']', '{', '}', '^', '$', '#', '&', '-', '~']

/-- Characters that stand for themselves behind a backslash. -/
def isEscapable (c : Char) : Bool :=
  metaChars.contains c || (c.toNat < 128 && !c.isAlphanum && c != '<' && c != '>')

/-- What an escape stands for. -/
inductive Escape where
  | letter (l : Letter)
  | shorthand (s : Shorthand) (negated : Bool)
  | property (p : PropertyName) (negated : Bool)
  | anchor (a : Anchor)

/-- The property that a text in braces names; the sign between name and value does not matter. -/
def PropertyName.ofText (s : List Char) : PropertyName :=
  let valued (parts : List Char × List Char) : PropertyName :=
    .valued (String.ofList parts.1) (String.ofList parts.2)
  match Chars.splitAtMark ['!', '='] s, Chars.splitOnce ':' s, Chars.splitOnce '=' s with
  | some parts, _, _ => valued parts
  | none, some parts, _ => valued parts
  | none, none, some parts => valued parts
  | none, none, none => .plain (String.ofList s)

/-- Reads the name of a property, of one letter or in braces. -/
def property? (verbose : Bool) (s : List Char) : Option (PropertyName × List Char) :=
  match skip verbose s with
  | [] => none
  | '{' :: rest =>
    (untilBrace? verbose (rest.length + 1) rest).map fun (name, rest) => (.ofText name, rest)
  | '\\' :: _ => none
  | c :: rest => some (.plain (String.singleton c), skip verbose rest)

/-- The condition of a word boundary with a name. -/
def boundary? : String → Option Anchor
  | "start" => some .wordStart
  | "end" => some .wordEnd
  | "start-half" => some .wordStartHalf
  | "end-half" => some .wordEndHalf
  | _ => none

/-- Reads what follows `\b`: nothing, or a name in braces.  Braces that hold no name are left for a
repetition. -/
def wordBoundary? (verbose : Bool) (s : List Char) : Option (Anchor × List Char) :=
  let isNameChar (c : Char) : Bool := c.isAlpha || c == '-'
  match s with
  | '{' :: rest =>
    match skip verbose rest with
    | [] => none
    | c :: rest =>
      if !isNameChar c then some (.wordBoundary, s)
      else
        match takeSpaced verbose isNameChar (rest.length + 1) (c :: rest) with
        | (name, '}' :: rest) => (boundary? (String.ofList name)).map (·, rest)
        | _ => none
  | s => some (.wordBoundary, s)

/-- Reads what follows a backslash. -/
def escape? (verbose : Bool) : List Char → Option (Escape × List Char)
  | [] => none
  | c :: rest =>
    let letter (l : Letter) := some (Escape.letter l, rest)
    let anchor (a : Anchor) := some (Escape.anchor a, rest)
    let hex (count : Nat) := (hex? verbose count rest).map fun (l, rest) => (Escape.letter l, rest)
    let property (negated : Bool) :=
      (property? verbose rest).map fun (p, rest) => (Escape.property p negated, rest)
    match c with
    | 'x' => hex 2
    | 'u' => hex 4
    | 'U' => hex 8
    | 'p' => property false
    | 'P' => property true
    | 'd' => some (.shorthand .digit false, rest)
    | 's' => some (.shorthand .blank false, rest)
    | 'w' => some (.shorthand .word false, rest)
    | 'D' => some (.shorthand .digit true, rest)
    | 'S' => some (.shorthand .blank true, rest)
    | 'W' => some (.shorthand .word true, rest)
    | 'a' => letter { char := '\x07' }
    | 'f' => letter { char := '\x0c' }
    | 't' => letter { char := '\t' }
    | 'n' => letter { char := '\n' }
    | 'r' => letter { char := '\r' }
    | 'v' => letter { char := '\x0b' }
    | 'A' => anchor .textStart
    | 'z' => anchor .textEnd
    | 'b' => (wordBoundary? verbose rest).map fun (a, rest) => (.anchor a, rest)
    | 'B' => anchor .noWordBoundary
    | '<' => anchor .wordStart
    | '>' => anchor .wordEnd
    | c => if isEscapable c then letter { char := c } else none

/-! ## §3. Classes -/

/-- Classes that are named between colons. -/
def asciiClass? : String → Option CharSet
  | "alnum" => some (.ofRanges [('0', '9'), ('A', 'Z'), ('a', 'z')])
  | "alpha" => some (.ofRanges [('A', 'Z'), ('a', 'z')])
  | "ascii" => some (.range '\x00' '\x7f')
  | "blank" => some (.ofRanges [('\t', '\t'), (' ', ' ')])
  | "cntrl" => some (.ofRanges [('\x00', '\x1f'), ('\x7f', '\x7f')])
  | "digit" => some (.range '0' '9')
  | "graph" => some (.range '!' '~')
  | "lower" => some (.range 'a' 'z')
  | "print" => some (.range ' ' '~')
  | "punct" => some (.ofRanges [('!', '/'), (':', '@'), ('[', '\x60'), ('{', '~')])
  | "space" => some (.ofRanges [('\t', '\r'), (' ', ' ')])
  | "upper" => some (.range 'A' 'Z')
  | "word" => some (.ofRanges [('0', '9'), ('A', 'Z'), ('_', '_'), ('a', 'z')])
  | "xdigit" => some (.ofRanges [('0', '9'), ('A', 'F'), ('a', 'f')])
  | _ => none

/-- Reads a class named between colons, what follows its `[` given. -/
def namedClass? (s : List Char) : Option (ClassSet × List Char) :=
  match s with
  | ':' :: rest =>
    let (negated, rest) :=
      match rest with
      | '^' :: rest => (true, rest)
      | rest => (false, rest)
    match rest.dropWhile (· != ':') with
    | ':' :: ']' :: after =>
      (asciiClass? (String.ofList (rest.takeWhile (· != ':')))).map fun s =>
        (.ascii s negated, after)
    | _ => none
  | _ => none

/-- A class under construction: whether it is negated, a left operand that waits for its right one,
and the items so far, latest first. -/
structure ClassLevel where
  negated : Bool
  pending : Option (ClassOperator × ClassSet) := none
  items : List ClassSet := []

namespace ClassLevel

/-- Adds an item. -/
def add (l : ClassLevel) (i : ClassSet) : ClassLevel := { l with items := i :: l.items }

/-- What has been read so far. -/
def value (l : ClassLevel) : ClassSet :=
  let right := ClassSet.ofItems l.items.reverse
  match l.pending with
  | none => right
  | some (o, left) => .operation o left right

/-- Starts the right operand of an operation. -/
def operator (l : ClassLevel) (o : ClassOperator) : ClassLevel :=
  { l with pending := some (o, l.value), items := [] }

end ClassLevel

/-- Reads the opening of a class behind its `[`: a negation, minus signs in front, and a `]` that
stands for itself. -/
def openClass? (verbose : Bool) (s : List Char) : Option (ClassLevel × List Char) :=
  let (negated, s) :=
    match skip verbose s with
    | '^' :: rest => (true, skip verbose rest)
    | s => (false, s)
  let (minus, rest) := takeSpaced verbose (· == '-') s.length s
  let level : ClassLevel := { negated, items := minus.map fun c => .letter { char := c } }
  match minus, rest with
  | _, [] => none
  | [], ']' :: rest =>
    if (skip verbose rest).isEmpty then none
    else some (level.add (.letter { char := ']' }), skip verbose rest)
  | _, rest => some (level, rest)

/-- One item of a class, a letter or a set. -/
def classItem? (verbose : Bool) : List Char → Option ((Letter ⊕ ClassSet) × List Char)
  | [] => none
  | '\\' :: rest =>
    (escape? verbose rest).bind fun (e, rest) =>
      match e with
      | .letter l => some (.inl l, rest)
      | .shorthand s negated => some (.inr (.shorthand s negated), rest)
      | .property p negated => some (.inr (.property p negated), rest)
      | .anchor _ => none
  | c :: rest => some (.inl { char := c }, rest)

/-- An item or a range of a class. -/
def classRange? (verbose : Bool) (s : List Char) : Option (ClassSet × List Char) :=
  (classItem? verbose s).bind fun (low, rest) =>
    let alone :=
      match low with
      | .inl l => some (ClassSet.letter l, skip verbose rest)
      | .inr s => some (s, skip verbose rest)
    match skip verbose rest with
    | [] => none
    | '-' :: after =>
      if peek verbose after == some ']' || peek verbose after == some '-' then alone
      else
        (classItem? verbose (skip verbose after)).bind fun (high, rest) =>
          match low, high with
          | .inl lo, .inl hi => if lo.char ≤ hi.char then some (.range lo hi, rest) else none
          | _, _ => none
    | _ => alone

/-- Reads a class up to its closing bracket; `levels` are the classes open around the place,
innermost first. -/
def classFrom? (verbose : Bool) :
    Nat → List ClassLevel → List Char → Option ((Bool × ClassSet) × List Char)
  | 0, _, _ => none
  | _ + 1, [], _ => none
  | fuel + 1, level :: outer, s =>
    match skip verbose s with
    | [] => none
    | '[' :: rest =>
      match namedClass? rest with
      | some (item, rest) => classFrom? verbose fuel (level.add item :: outer) rest
      | none =>
        (openClass? verbose rest).bind fun (inner, rest) =>
          classFrom? verbose fuel (inner :: level :: outer) rest
    | ']' :: rest =>
      match outer with
      | [] => some ((level.negated, level.value), rest)
      | around :: outer =>
        classFrom? verbose fuel (around.add (.bracket level.negated level.value) :: outer) rest
    | '&' :: '&' :: rest => classFrom? verbose fuel (level.operator .inter :: outer) rest
    | '-' :: '-' :: rest => classFrom? verbose fuel (level.operator .diff :: outer) rest
    | '~' :: '~' :: rest => classFrom? verbose fuel (level.operator .symmDiff :: outer) rest
    | s =>
      (classRange? verbose s).bind fun (item, rest) =>
        classFrom? verbose fuel (level.add item :: outer) rest

/-- Reads a class behind its `[`. -/
def class? (verbose : Bool) (s : List Char) : Option (Expression × List Char) :=
  (openClass? verbose s).bind fun (level, rest) =>
    (classFrom? verbose (rest.length + 1) [level] rest).map fun ((negated, inside), rest) =>
      (.bracket negated inside, rest)

/-! ## §4. Repetition counts -/

/-- Counts must fit 32 bits. -/
def countLimit : Nat := 0x100000000

/-- Reads a decimal count with blanks around it. -/
def count? (verbose : Bool) (s : List Char) : Option (Nat × List Char) :=
  let s := s.dropWhile isBlank
  let (digits, rest) := takeSpaced verbose Char.isDigit s.length s
  let value := Chars.valueIn 10 digits
  if digits.isEmpty || countLimit ≤ value then none
  else some (value, skip verbose (rest.dropWhile isBlank))

/-- Reads a question mark behind a repetition, which makes it lazy. -/
def takeLazy : List Char → Bool × List Char
  | '?' :: rest => (true, rest)
  | s => (false, s)

/-- Reads the bounds of a counted repetition behind its opening brace. -/
def bounds? (verbose : Bool) (s : List Char) : Option ((Nat × Option Nat) × List Char) :=
  (count? verbose (skip verbose s)).bind fun (least, rest) =>
    match rest with
    | ',' :: rest =>
      match skip verbose rest with
      | '}' :: rest => some ((least, none), skip verbose rest)
      | rest =>
        (count? verbose rest).bind fun (most, rest) =>
          match rest with
          | '}' :: rest =>
            if least ≤ most then some ((least, some most), skip verbose rest) else none
          | _ => none
    | '}' :: rest => some ((least, some least), skip verbose rest)
    | _ => none

/-! ## §5. Groups -/

/-- Whether a character may stand in the name of a group. -/
def isGroupNameChar (c : Char) : Bool :=
  continuesIdentifier c || c == '.' || c == '[' || c == ']'

/-- Reads the name of a group up to its closing angle bracket. -/
def groupName? (s : List Char) : Option (String × List Char) :=
  let name := s.takeWhile (· != '>')
  match name, s.dropWhile (· != '>') with
  | first :: more, _ :: rest =>
    if startsIdentifier first && more.all isGroupNameChar then some (String.ofList name, rest)
    else none
  | _, _ => none

/-- Reads flags up to `:` or `)`.  `seen` holds the letters read so far, `value` tells whether flags
are turned on, and `fresh` whether a minus was the last thing read. -/
def flagChanges? (seen : List Char) (value fresh : Bool) :
    List Char → Option (FlagChanges × List Char)
  | [] => none
  | c :: rest =>
    if c == ':' || c == ')' then if fresh then none else some ([], c :: rest)
    else if seen.contains c then none
    else if c == '-' then flagChanges? (c :: seen) false true rest
    else
      (Flag.ofLetter? c).bind fun f =>
        (flagChanges? (c :: seen) value false rest).map fun (changes, rest) =>
          ((f, value) :: changes, rest)

/-- What an opening parenthesis begins. -/
inductive Opening where
  /-- Settings for the rest of the group around. -/
  | flags (changes : FlagChanges)
  | group (changes : FlagChanges)
  | capture (name : Option String)

/-- Reads what follows an opening parenthesis. -/
def opening? (verbose : Bool) (s : List Char) : Option (Opening × List Char) :=
  let named (s : List Char) :=
    (groupName? s).map fun (name, rest) => (Opening.capture (some name), rest)
  match skip verbose s with
  | '?' :: 'P' :: '<' :: rest => named rest
  | '?' :: '<' :: rest => named rest
  | '?' :: rest =>
    (flagChanges? [] true false rest).bind fun (changes, rest) =>
      match rest with
      | ':' :: rest => some (.group changes, rest)
      | ')' :: rest => if changes.isEmpty then none else some (.flags changes, rest)
      | _ => none
  | rest => some (.capture none, rest)

/-! ## §6. Whole patterns -/

/-- A group under construction: how it was opened, whether blanks are skipped in it, and its latest
alternatives and parts first. -/
structure Level where
  wrap : Expression → Expression := id
  verbose : Bool := false
  branches : List Expression := []
  parts : List Expression := []

namespace Level

/-- Adds a part. -/
def push (l : Level) (e : Expression) : Level := { l with parts := e :: l.parts }

/-- Ends the current alternative. -/
def branch (l : Level) : Level :=
  { l with branches := .ofParts l.parts.reverse :: l.branches, parts := [] }

/-- The finished group. -/
def value (l : Level) : Expression := l.wrap (.ofBranches l.branch.branches.reverse)

/-- Repeats the last part, if there is one that can be repeated. -/
def repeat? (l : Level) (least : Nat) (most : Option Nat) (isLazy : Bool) : Option Level :=
  match l.parts with
  | e :: rest =>
    if e.isRepeatable then some { l with parts := .loop e least most isLazy :: rest } else none
  | [] => none

/-- Whether blanks are skipped after some changes. -/
def verboseAfter (l : Level) (changes : FlagChanges) : Bool :=
  (changes.lookup .verbose).getD l.verbose

end Level

/-- Reads a piece that is neither a group, a class nor a repetition. -/
def primitive? (verbose : Bool) : List Char → Option (Expression × List Char)
  | [] => none
  | '\\' :: rest =>
    (escape? verbose rest).map fun (e, rest) =>
      match e with
      | .letter l => (.letter l, rest)
      | .shorthand s negated => (.shorthand s negated, rest)
      | .property p negated => (.property p negated, rest)
      | .anchor a => (.anchor a, rest)
  | '.' :: rest => some (.dot, rest)
  | '^' :: rest => some (.anchor .caret, rest)
  | '$' :: rest => some (.anchor .dollar, rest)
  | c :: rest => some (.letter { char := c }, rest)

/-- Reads the rest of a pattern: `level` is the group that the place is in, `outer` are the groups
around it, innermost first, `names` the group names used, and `index` the number of the next group
that is remembered. -/
def Expression.from? :
    Nat → Level → List Level → List String → Nat → List Char → Option Expression
  | 0, _, _, _, _, _ => none
  | fuel + 1, level, outer, names, index, s =>
    let uncounted (least : Nat) (most : Option Nat) (rest : List Char) :=
      let (isLazy, rest) := takeLazy rest
      (level.repeat? least most isLazy).bind fun l => from? fuel l outer names index rest
    match skip level.verbose s with
    | [] => if outer.isEmpty then some level.value else none
    | '(' :: rest =>
      (opening? level.verbose rest).bind fun (o, rest) =>
        match o with
        | .flags changes =>
          from? fuel { level.push (.flags changes) with verbose := level.verboseAfter changes }
            outer names index rest
        | .group changes =>
          from? fuel { wrap := .group changes, verbose := level.verboseAfter changes }
            (level :: outer) names index rest
        | .capture name =>
          if name.any names.contains then none
          else
            from? fuel { wrap := .capture index, verbose := level.verbose } (level :: outer)
              (name.toList ++ names) (index + 1) rest
    | ')' :: rest =>
      match outer with
      | [] => none
      | around :: outer => from? fuel (around.push level.value) outer names index rest
    | '|' :: rest => from? fuel level.branch outer names index rest
    | '[' :: rest =>
      (class? level.verbose rest).bind fun (e, rest) =>
        from? fuel (level.push e) outer names index rest
    | '?' :: rest => uncounted 0 (some 1) rest
    | '*' :: rest => uncounted 0 none rest
    | '+' :: rest => uncounted 1 none rest
    | '{' :: rest =>
      (bounds? level.verbose rest).bind fun ((least, most), rest) =>
        let (isLazy, rest) := takeLazy rest
        (level.repeat? least most isLazy).bind fun l => from? fuel l outer names index rest
    | c :: rest =>
      (primitive? level.verbose (c :: rest)).bind fun (e, rest) =>
        from? fuel (level.push e) outer names index rest

/-- Reads a pattern; every step takes at least one character, so the length of the text bounds the
number of steps. -/
def Expression.parse? (s : String) : Option Expression :=
  Expression.from? (s.length + 1) {} [] [] 1 s.toList

end CodeAtlas.Pattern
