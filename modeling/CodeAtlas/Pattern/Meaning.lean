/-
  CodeAtlas.Pattern.Meaning — what an expression matches.

  The meaning of an expression depends on the flags in force where it stands, and an expression may
  change them for what follows in its group.  Without the flag for Unicode only ASCII characters can
  be put into classes, because such a class stands for single bytes and a match must not break a
  character.

  * `ClassSet.set?`: the characters of a class.
  * `Expression.pattern?`: the pattern of an expression, with the flags behind it.
-/
import CodeAtlas.Pattern.Basic
import CodeAtlas.Pattern.Property
import CodeAtlas.Text.Blank
import CodeAtlas.Text.WordCharacter

namespace CodeAtlas.Pattern

/-! ## §1. Flags in force -/

/-- The flags in force at a place of a pattern. -/
structure Flags where
  ignoreCase : Bool := false
  multiLine : Bool := false
  dotAll : Bool := false
  swapLazy : Bool := false
  unicode : Bool := true
  returnLines : Bool := false
  deriving DecidableEq, Repr, Inhabited

namespace Flags

/-- Turns one flag on or off.  Blanks in the text have been dealt with. -/
def set (f : Flags) (value : Bool) : Flag → Flags
  | .ignoreCase => { f with ignoreCase := value }
  | .multiLine => { f with multiLine := value }
  | .dotAll => { f with dotAll := value }
  | .swapLazy => { f with swapLazy := value }
  | .unicode => { f with unicode := value }
  | .returnLines => { f with returnLines := value }
  | .verbose => f

/-- The flags after some changes. -/
def after (f : Flags) (changes : FlagChanges) : Flags :=
  changes.foldl (fun f (flag, value) => f.set value flag) f

end Flags

/-! ## §2. Sets of characters -/

/-- The blanks of Unicode. -/
def blankRanges : List (Nat × Nat) :=
  [(0x9, 0xD), (0x20, 0x20), (0x85, 0x85), (0xA0, 0xA0), (0x1680, 0x1680), (0x2000, 0x200A),
    (0x2028, 0x2029), (0x202F, 0x202F), (0x205F, 0x205F), (0x3000, 0x3000)]

/-- The characters of a class of one letter. -/
def Shorthand.set (unicode : Bool) : Shorthand → CharSet
  | .digit => if unicode then ⟨digitRanges⟩ else .range '0' '9'
  | .blank => if unicode then ⟨blankRanges⟩ else .ofRanges [('\t', '\r'), (' ', ' ')]
  | .word =>
    if unicode then ⟨wordRanges⟩ else .ofRanges [('0', '9'), ('A', 'Z'), ('_', '_'), ('a', 'z')]

/-- Adds the capital or small form of each ASCII letter. -/
def ignoringAsciiCase (s : CharSet) : CharSet :=
  let shifted (lo hi target : Nat) := s.imagesUnder [⟨lo, hi, 1, target⟩]
  s.addRanges (shifted 0x41 0x5A 0x61 ++ shifted 0x61 0x7A 0x41)

namespace Flags

/-- A set with the forms of its letters that differ in case, if case does not matter. -/
def fold (f : Flags) (s : CharSet) : CharSet :=
  if !f.ignoreCase then s else if f.unicode then s.ignoringCase else ignoringAsciiCase s

/-- The complement of a set if it is negated, which needs Unicode. -/
def negate? (f : Flags) (negated : Bool) (s : CharSet) : Option CharSet :=
  if !negated then some s else if f.unicode then some s.compl else none

/-- The character of a letter, if it can stand in a match: a byte above 127 breaks a character. -/
def letter? (f : Flags) (l : Letter) : Option Char :=
  if !f.unicode && l.isByte && 128 ≤ l.char.toNat then none else some l.char

/-- The character of a letter, if it can stand in a class. -/
def classLetter? (f : Flags) (l : Letter) : Option Char :=
  if f.unicode || l.char.toNat < 128 then some l.char else none

/-- The characters of a class of one letter. -/
def shorthand? (f : Flags) (s : Shorthand) (negated : Bool) : Option CharSet :=
  f.negate? negated (s.set f.unicode)

/-- The characters that have a property. -/
def property? (f : Flags) (p : PropertyName) (negated : Bool) : Option CharSet :=
  if f.unicode then p.set?.bind fun s => f.negate? negated (f.fold s) else none

end Flags

/-- The result of an operation between two parts of a class. -/
def ClassOperator.apply : ClassOperator → CharSet → CharSet → CharSet
  | .inter => CharSet.inter
  | .diff => CharSet.diff
  | .symmDiff => CharSet.symmDiff

namespace ClassSet

mutual

/-- The characters of the inside of a class. -/
def set? (f : Flags) : ClassSet → Option CharSet
  | empty => some .none
  | letter l => (f.classLetter? l).map CharSet.single
  | range lo hi => (f.classLetter? lo).bind fun lo => (f.classLetter? hi).map (CharSet.range lo)
  | ascii s negated => f.negate? negated (f.fold s)
  | shorthand s negated => f.shorthand? s negated
  | property p negated => f.property? p negated
  | bracket negated inside => (set? f inside).bind fun s => f.negate? negated (f.fold s)
  | union items => setOfAll? f items
  | operation o left right =>
    (set? f left).bind fun a => (set? f right).map fun b => o.apply (f.fold a) (f.fold b)

/-- The characters of some items. -/
def setOfAll? (f : Flags) : List ClassSet → Option CharSet
  | [] => some .none
  | i :: rest => (set? f i).bind fun s => (setOfAll? f rest).map s.union

end

end ClassSet

/-! ## §3. Patterns -/

namespace Flags

/-- The pattern of a letter. -/
def letterPattern (f : Flags) (c : Char) : Pattern := .ofSet (f.fold (.single c))

/-- The pattern of a dot, which needs Unicode. -/
def dot? (f : Flags) : Option Pattern :=
  if !f.unicode then none
  else if f.dotAll then some (.ofSet .all)
  else if f.returnLines then some (.ofSet (CharSet.ofRanges [('\n', '\n'), ('\r', '\r')]).compl)
  else some (.ofSet (CharSet.single '\n').compl)

/-- The condition of an anchor. -/
def assertion (f : Flags) : Anchor → Assertion
  | .caret =>
    if !f.multiLine then .textStart else if f.returnLines then .returnLineStart else .lineStart
  | .dollar =>
    if !f.multiLine then .textEnd else if f.returnLines then .returnLineEnd else .lineEnd
  | .textStart => .textStart
  | .textEnd => .textEnd
  | .wordBoundary => .wordBoundary f.unicode
  | .noWordBoundary => .noWordBoundary f.unicode
  | .wordStart => .wordStart f.unicode
  | .wordEnd => .wordEnd f.unicode
  | .wordStartHalf => .wordStartHalf f.unicode
  | .wordEndHalf => .wordEndHalf f.unicode

end Flags

namespace Expression

mutual

/-- The pattern of an expression, with the flags behind it. -/
def pattern? (f : Flags) : Expression → Option (Pattern × Flags)
  | empty => some (.empty, f)
  | flags changes => some (.empty, f.after changes)
  | letter l => (f.letter? l).map fun c => (f.letterPattern c, f)
  | dot => f.dot?.map (·, f)
  | anchor a => some (.look (f.assertion a), f)
  | shorthand s negated => (f.shorthand? s negated).map fun s => (.ofSet s, f)
  | property p negated => (f.property? p negated).map fun s => (.ofSet s, f)
  | bracket negated inside =>
    ((inside.set? f).bind fun s => f.negate? negated (f.fold s)).map fun s => (.ofSet s, f)
  | loop e least most isLazy =>
    (pattern? f e).map fun (p, g) => (p.times least most (isLazy != f.swapLazy), g)
  | group changes e => (pattern? (f.after changes) e).map fun (p, _) => (p, f)
  | capture index e => (pattern? f e).map fun (p, _) => (.group index p, f)
  | choice es => (patterns? f es).map fun (ps, g) => (.choose ps, g)
  | sequence es => (patterns? f es).map fun (ps, g) => (.join ps, g)

/-- The patterns of some expressions, each with the flags behind the one in front of it. -/
def patterns? (f : Flags) : List Expression → Option (List Pattern × Flags)
  | [] => some ([], f)
  | e :: rest =>
    (pattern? f e).bind fun (p, g) => (patterns? g rest).map fun (ps, h) => (p :: ps, h)

end

end Expression
end CodeAtlas.Pattern
