/-
  CodeAtlas.Pattern.Expression — patterns as they are written.

  An expression keeps what the text of a pattern says and decides nothing: what a letter or a class
  stands for depends on the flags in force, which are themselves written in the pattern.

  * `Expression`, `ClassSet`: the parts of a pattern and of its bracketed classes.
  * `Expression.depth`: how deeply the parts are nested.
-/
import CodeAtlas.Text.CharSet

namespace CodeAtlas.Pattern

/-! ## §1. Letters, classes and flags -/

/-- A single character; `isByte` if it is written as a byte of two hexadecimal digits. -/
structure Letter where
  char : Char
  isByte : Bool := false
  deriving DecidableEq, Repr, Inhabited

/-- A class that is written with a backslash and a letter. -/
inductive Shorthand where
  | digit
  | blank
  | word
  deriving DecidableEq, Repr, Inhabited

/-- A property of characters by its name, or by its name and value. -/
inductive PropertyName where
  | plain (name : String)
  | valued (name value : String)
  deriving DecidableEq, Repr, Inhabited

/-- A setting that a pattern can turn on or off. -/
inductive Flag where
  | ignoreCase
  | multiLine
  | dotAll
  | swapLazy
  | unicode
  | returnLines
  | verbose
  deriving DecidableEq, Repr, Inhabited

/-- The flag of a letter. -/
def Flag.ofLetter? : Char → Option Flag
  | 'i' => some ignoreCase
  | 'm' => some multiLine
  | 's' => some dotAll
  | 'U' => some swapLazy
  | 'u' => some unicode
  | 'R' => some returnLines
  | 'x' => some verbose
  | _ => none

/-- Settings to turn on or off, in the order in which they are written. -/
abbrev FlagChanges : Type := List (Flag × Bool)

/-- A condition as it is written. -/
inductive Anchor where
  | caret
  | dollar
  | textStart
  | textEnd
  | wordBoundary
  | noWordBoundary
  | wordStart
  | wordEnd
  | wordStartHalf
  | wordEndHalf
  deriving DecidableEq, Repr, Inhabited

/-! ## §2. Bracketed classes -/

/-- An operation between two parts of a class. -/
inductive ClassOperator where
  | inter
  | diff
  | symmDiff
  deriving DecidableEq, Repr, Inhabited

/-- The inside of a bracketed class. -/
inductive ClassSet where
  | empty
  | letter (l : Letter)
  | range (lo hi : Letter)
  /-- A class such as `[:alpha:]`. -/
  | ascii (s : CharSet) (negated : Bool)
  | shorthand (s : Shorthand) (negated : Bool)
  | property (p : PropertyName) (negated : Bool)
  | bracket (negated : Bool) (inside : ClassSet)
  /-- Two or more items side by side. -/
  | union (items : List ClassSet)
  | operation (o : ClassOperator) (left right : ClassSet)
  deriving Repr, Inhabited

namespace ClassSet

/-- The items of a class as one set. -/
def ofItems : List ClassSet → ClassSet
  | [] => empty
  | [i] => i
  | is => union is

mutual

/-- How deeply brackets and operations are nested. -/
def depth : ClassSet → Nat
  | bracket _ inside => depth inside + 1
  | union items => depthOfAll items + 1
  | operation _ left right => max (depth left) (depth right) + 1
  | _ => 0

/-- The greatest depth of some items. -/
def depthOfAll : List ClassSet → Nat
  | [] => 0
  | i :: rest => max (depth i) (depthOfAll rest)

end

end ClassSet

/-! ## §3. Expressions -/

/-- A pattern as it is written. -/
inductive Expression where
  | empty
  | flags (changes : FlagChanges)
  | letter (l : Letter)
  | dot
  | anchor (a : Anchor)
  | shorthand (s : Shorthand) (negated : Bool)
  | property (p : PropertyName) (negated : Bool)
  | bracket (negated : Bool) (inside : ClassSet)
  | loop (e : Expression) (least : Nat) (most : Option Nat) (isLazy : Bool)
  /-- A group that changes settings inside, perhaps none. -/
  | group (changes : FlagChanges) (e : Expression)
  /-- A group that a match is remembered for, with its number. -/
  | capture (index : Nat) (e : Expression)
  /-- Two or more alternatives. -/
  | choice (es : List Expression)
  /-- Two or more parts one behind the other. -/
  | sequence (es : List Expression)
  deriving Repr, Inhabited

namespace Expression

/-- Some parts one behind the other. -/
def ofParts : List Expression → Expression
  | [] => empty
  | [e] => e
  | es => sequence es

/-- Some alternatives. -/
def ofBranches : List Expression → Expression
  | [e] => e
  | es => choice es

/-- Whether a repetition can stand behind an expression. -/
def isRepeatable : Expression → Bool
  | empty => false
  | flags _ => false
  | _ => true

mutual

/-- How deeply the parts of an expression are nested. -/
def depth : Expression → Nat
  | bracket _ inside => inside.depth + 1
  | loop e _ _ _ => depth e + 1
  | group _ e => depth e + 1
  | capture _ e => depth e + 1
  | choice es => depthOfAll es + 1
  | sequence es => depthOfAll es + 1
  | _ => 0

/-- The greatest depth of some expressions. -/
def depthOfAll : List Expression → Nat
  | [] => 0
  | e :: rest => max (depth e) (depthOfAll rest)

end

end Expression
end CodeAtlas.Pattern
