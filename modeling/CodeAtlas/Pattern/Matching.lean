/-
  CodeAtlas.Pattern.Matching — where patterns match.

  A match starts at a place between two characters and ends at a place behind it.  `Plan.reach` goes
  from a set of places to the set of places where a match that starts in it can end, all starts at
  once: a sequence goes on from the places reached, a choice unites them, and a repetition goes on
  until no place is new.  A set of places is a number, with a bit for each place, and the places at
  which a part of a pattern fits are looked up once for a text.

  * `Pattern.plan`: a pattern for the places of one text.
  * `Plan.reach`: the ends of its matches.
  * `Pattern.isMatch`: whether a match starts somewhere.
-/
import CodeAtlas.Pattern.Basic
import CodeAtlas.Text.WordCharacter

namespace CodeAtlas

/-! ## §1. Places in a text -/

/-- A place in a text: the character in front of it and all that follows. -/
structure Cursor where
  prev : Option Char
  rest : List Char

/-- Every place of a text that follows `prev`. -/
def Cursor.allFrom (prev : Option Char) : List Char → List Cursor
  | [] => [⟨prev, []⟩]
  | c :: rest => ⟨prev, c :: rest⟩ :: allFrom (some c) rest

/-- Letters, digits and the underscore of ASCII. -/
def isAsciiWordChar (c : Char) : Bool := c.isAlphanum || c == '_'

namespace Assertion

/-- Whether a neighbour of a place belongs to a word. -/
def inWord (unicode : Bool) (c : Option Char) : Bool :=
  c.any fun c => if unicode then isWordChar c else isAsciiWordChar c

/-- Whether a condition holds at a place. -/
def holds (a : Assertion) (c : Cursor) : Bool :=
  let next := c.rest.head?
  match a with
  | textStart => c.prev.isNone
  | textEnd => next.isNone
  | lineStart => c.prev.all (· == '\n')
  | lineEnd => next.all (· == '\n')
  | returnLineStart => c.prev.all fun p => p == '\n' || (p == '\r' && next != some '\n')
  | returnLineEnd => next.all fun n => n == '\r' || (n == '\n' && c.prev != some '\r')
  | wordBoundary u => inWord u c.prev != inWord u next
  | noWordBoundary u => inWord u c.prev == inWord u next
  | wordStart u => !inWord u c.prev && inWord u next
  | wordEnd u => inWord u c.prev && !inWord u next
  | wordStartHalf u => !inWord u c.prev
  | wordEndHalf u => !inWord u next

end Assertion

/-! ## §2. Sets of places -/

/-- A set of places, as the bits of a number. -/
abbrev Places : Type := Nat

namespace Places

/-- The places that pass a test. -/
def passing (test : Cursor → Bool) : List Cursor → Places
  | [] => 0
  | c :: rest => (if test c then 1 else 0) ||| passing test rest <<< 1

/-- The places of one set that are not in another. -/
def except (a b : Places) : Places := (a ||| b) ^^^ b

/-- The places after exactly `n` steps.  A set that a step leaves as it is stays so. -/
def after (step : Places → Places) : Nat → Places → Places
  | 0, s => s
  | n + 1, s =>
    let t := step s
    if t = s then s else after step n t

/-- The places within `n` steps of those in `latest`, together with those in `found`. -/
def within (step : Places → Places) : Nat → Places → Places → Places
  | 0, _, found => found
  | n + 1, latest, found =>
    let new := except (step latest) found
    if new = 0 then found else within step n new (found ||| new)

end Places

/-! ## §3. Plans -/

/-- A pattern for the places of one text. -/
inductive Plan where
  /-- From some places on by `width` characters. -/
  | hop (places : Places) (width : Nat)
  | seq (p q : Plan)
  | alt (p q : Plan)
  /-- Exactly `least` times and then at most `more` times. -/
  | loop (p : Plan) (least more : Nat)
  deriving DecidableEq, Repr, Inhabited

/-- The places where a match can end that starts in a set of places. -/
def Plan.reach : Plan → Places → Places
  | hop places width, s => (s &&& places) <<< width
  | seq p q, s => reach q (reach p s)
  | alt p q, s => reach p s ||| reach q s
  | loop p least more, s =>
    let first := Places.after (reach p) least s
    Places.within (reach p) more first first

/-! ## §4. Matching -/

namespace Pattern

/-- The plan of a pattern for some places, which go on to the end of the text.  A repetition without
a bound needs no more steps than there are places. -/
def plan (places : List Cursor) : Pattern → Plan
  | empty => .hop (Places.passing (fun _ => true) places) 0
  | literal l => .hop (Places.passing (fun c => l.isPrefixOf c.rest) places) l.length
  | one s => .hop (Places.passing (fun c => c.rest.head?.any s.mem) places) 1
  | look a => .hop (Places.passing a.holds places) 0
  | group _ p => plan places p
  | seq p q => .seq (plan places p) (plan places q)
  | alt p q => .alt (plan places p) (plan places q)
  | loop p least most _ =>
    .loop (plan places p) least ((most.map (· - least)).getD places.length)

/-- Whether a match starts somewhere in a list of characters. -/
def matchesChars (p : Pattern) (s : List Char) : Bool :=
  let places := Cursor.allFrom none s
  (p.plan places).reach (Places.passing (fun _ => true) places) != 0

/-- Whether a match starts somewhere in a text. -/
def isMatch (p : Pattern) (s : String) : Bool := p.matchesChars s.toList

end Pattern
end CodeAtlas
