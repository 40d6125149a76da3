/-
  CodeAtlas.Pattern.Basic — regular patterns in a simplified form.

  A pattern is built by constructors that simplify as they go: parts that match nothing but the
  empty text vanish, neighbouring literals are joined, a choice between characters is a set, and
  what all alternatives start with is taken out in front of them.  The simplified form decides how
  large the automaton of a pattern is, so the constructors are part of what a pattern means to a
  reader: a pattern that is too large is refused.

  * `Pattern.ofSet`, `Pattern.join`, `Pattern.choose`, `Pattern.times`: the constructors.
  * `Pattern.minLength?`, `Pattern.maxLength?`: bounds on the bytes that a match takes.
-/
import CodeAtlas.Text.CharSet
import CodeAtlas.Text.Utf8

namespace CodeAtlas

/-! ## §1. Patterns -/

/-- A condition on a place in a text.  Words are those of Unicode or those of ASCII. -/
inductive Assertion where
  | textStart
  | textEnd
  | lineStart
  | lineEnd
  /-- Line ends are `\n`, `\r` or both together. -/
  | returnLineStart
  | returnLineEnd
  | wordBoundary (unicode : Bool)
  | noWordBoundary (unicode : Bool)
  | wordStart (unicode : Bool)
  | wordEnd (unicode : Bool)
  | wordStartHalf (unicode : Bool)
  | wordEndHalf (unicode : Bool)
  deriving DecidableEq, Repr, Inhabited

/-- A regular pattern. -/
inductive Pattern where
  | empty
  | literal (cs : List Char)
  | one (s : CharSet)
  | look (a : Assertion)
  /-- A group that a match is remembered for, with its number. -/
  | group (index : Nat) (p : Pattern)
  | seq (p q : Pattern)
  | alt (p q : Pattern)
  /-- At least `least` and at most `most` times, without an upper bound if `most` is none. -/
  | loop (p : Pattern) (least : Nat) (most : Option Nat) (isLazy : Bool)
  deriving DecidableEq, Repr, Inhabited

namespace Pattern

/-! ## §2. Lengths -/

/-- The number of bytes of some characters. -/
def byteLength : List Char → Nat
  | [] => 0
  | c :: rest => Utf8.codeLength c.toNat + byteLength rest

/-- The least number of bytes of a match; none if nothing matches. -/
def minLength? : Pattern → Option Nat
  | empty => some 0
  | literal cs => some (byteLength cs)
  | one s => s.ranges.head?.map fun r => Utf8.codeLength r.1
  | look _ => some 0
  | group _ p => minLength? p
  | seq p q => (minLength? p).bind fun m => (minLength? q).map (m + ·)
  | alt p q => (minLength? p).bind fun m => (minLength? q).map (min m)
  | loop p least _ _ => (minLength? p).map (· * least)

/-- The greatest number of bytes of a match; none if there is no bound. -/
def maxLength? : Pattern → Option Nat
  | empty => some 0
  | literal cs => some (byteLength cs)
  | one s => s.ranges.getLast?.map fun r => Utf8.codeLength r.2
  | look _ => some 0
  | group _ p => maxLength? p
  | seq p q => (maxLength? p).bind fun m => (maxLength? q).map (m + ·)
  | alt p q => (maxLength? p).bind fun m => (maxLength? q).map (max m)
  | loop p _ most _ => most.bind fun n => (maxLength? p).map (· * n)

/-! ## §3. Parts -/

/-- The parts that a pattern is a sequence of. -/
def factors : Pattern → List Pattern
  | empty => []
  | seq p q => factors p ++ factors q
  | p => [p]

/-- The patterns that a pattern is a choice between. -/
def alternatives : Pattern → List Pattern
  | alt p q => alternatives p ++ alternatives q
  | p => [p]

/-- Some parts one behind the other, as they are. -/
def ofFactors : List Pattern → Pattern
  | [] => empty
  | [p] => p
  | p :: rest => seq p (ofFactors rest)

/-- A choice between some patterns, as they are. -/
def ofAlternatives : List Pattern → Pattern
  | [] => one .none
  | [p] => p
  | p :: rest => alt p (ofAlternatives rest)

/-! ## §4. Constructors that simplify -/

/-- One character of a set. -/
def ofSet (s : CharSet) : Pattern :=
  match s.char? with
  | some c => literal [c]
  | none => one s

/-- Joins neighbouring literals. -/
def joinLiterals : List Pattern → List Pattern
  | [] => []
  | literal a :: rest =>
    match joinLiterals rest with
    | literal b :: more => literal (a ++ b) :: more
    | more => literal a :: more
  | p :: rest => p :: joinLiterals rest

/-- Some patterns one behind the other. -/
def join (ps : List Pattern) : Pattern := ofFactors (joinLiterals (ps.flatMap factors))

/-- The set of a pattern that matches single characters. -/
def set? : Pattern → Option CharSet
  | one s => some s
  | literal [c] => some (.single c)
  | _ => none

/-- The set of a choice between single characters. -/
def commonSet? : List Pattern → Option CharSet
  | [] => some .none
  | p :: rest => (set? p).bind fun s => (commonSet? rest).map s.union

/-- The number of parts that two lists start with alike. -/
def sharedLength : List Pattern → List Pattern → Nat
  | p :: ps, q :: qs => if p = q then sharedLength ps qs + 1 else 0
  | _, _ => 0

/-- The number of parts that all of some patterns start with, if all are sequences. -/
def commonLength : List Pattern → Nat
  | [] => 0
  | p :: rest =>
    let parts := p.factors
    if (p :: rest).all fun q => 2 ≤ q.factors.length then
      rest.foldl (fun n q => min n (sharedLength parts q.factors)) parts.length
    else 0

/-- A choice between some patterns.  Each taking out of common parts makes the rest shorter, so the
number of parts bounds the number of steps, given as the first argument. -/
def chooseWithin : Nat → List Pattern → Pattern
  | 0, ps => ofAlternatives ps
  | fuel + 1, ps =>
    match ps.flatMap alternatives with
    | [p] => p
    | ps =>
      match commonSet? ps with
      | some s => ofSet s
      | none =>
        let n := commonLength ps
        match ps with
        | p :: _ =>
          if n = 0 then ofAlternatives ps
          else
            join (p.factors.take n ++ [chooseWithin fuel (ps.map fun q => join (q.factors.drop n))])
        | [] => one .none

/-- A choice between some patterns. -/
def choose (ps : List Pattern) : Pattern :=
  chooseWithin ((ps.flatMap alternatives).foldl (fun n p => n + p.factors.length) 1) ps

/-- A repetition.  What takes no bytes is repeated at most once. -/
def times (p : Pattern) (least : Nat) (most : Option Nat) (isLazy : Bool) : Pattern :=
  let (least, most) :=
    if maxLength? p = some 0 then (min least 1, some ((most.map (min · 1)).getD 1))
    else (least, most)
  if least = 0 && most = some 0 then empty
  else if least = 1 && most = some 1 then p
  else loop p least most isLazy

end Pattern
end CodeAtlas
