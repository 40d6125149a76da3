/-
  CodeAtlas.Pattern.Automaton — how large the automaton of a pattern is.

  A pattern is searched for by an automaton that reads bytes, forwards to find where a match ends
  and backwards to find where it starts.  Neither may take more than `Automaton.limit` bytes: each
  state takes 32, each step of a state that has a list of them 8, and each way out of a fork 4.  The
  states of a counted repetition are laid out again for each count, so the count is where patterns
  grow.

  A set of characters is laid out as steps over the bytes of their encodings.  States that lead on
  alike are shared, as far as a table of recent states remembers them: it has a slot for each hash,
  and a slot holds the latest state only.  Since the hash of a state depends on the numbers of those
  it leads to, the size of a set depends on how many states stand in front of it.

  * `Automaton.size`: the size of the automaton of a pattern.
  * `Automaton.fits`: whether a pattern is small enough.
-/
import CodeAtlas.Pattern.Basic
import CodeAtlas.Text.Utf8Range
import Std.Data.HashMap

namespace CodeAtlas.Automaton

/-! ## §1. Measures -/

/-- Which way an automaton reads. -/
inductive Direction where
  | forwards
  | backwards
  deriving DecidableEq, Repr, Inhabited

/-- The number of states laid out so far, and the bytes that they take. -/
structure Extent where
  states : Nat := 0
  bytes : Nat := 0
  deriving DecidableEq, Repr, Inhabited

/-- No automaton may take more bytes. -/
def limit : Nat := 10485760

namespace Extent

/-- Adds a state with some bytes of its own. -/
def state (e : Extent) (own : Nat) : Extent := ⟨e.states + 1, e.bytes + 32 + own⟩

/-- Adds a state with nothing of its own. -/
def plain (e : Extent) : Extent := e.state 0

/-- Adds some ways out of forks. -/
def ways (e : Extent) (n : Nat) : Extent := { e with bytes := e.bytes + 4 * n }

/-- Adds a way out of a state, which takes room only if the state is a fork. -/
def wayIf (e : Extent) (fork : Bool) : Extent := if fork then e.ways 1 else e

/-- Whether the limit has been passed. -/
def isOver (e : Extent) : Bool := limit < e.bytes

end Extent

/-! ## §2. Tables of recent states -/

/-- One number taken into a hash. -/
def hashStep (h : UInt64) (n : Nat) : UInt64 := (h ^^^ n.toUInt64) * 1099511628211

/-- The slot of some numbers in a table with `slots` slots. -/
def slotOf (slots : Nat) (ns : List Nat) : Nat :=
  (ns.foldl hashStep 14695981039346656037).toNat % slots

/-- A table of recent states: for each slot, what the state does and its number. -/
abbrev Recent : Type := Std.HashMap Nat (List Nat × Nat)

/-- The number of a state that does what is asked, if its slot still holds it. -/
def Recent.find? (t : Recent) (slot : Nat) (key : List Nat) : Option Nat :=
  (t.get? slot).bind fun (held, id) => if held = key then some id else none

/-! ## §3. Sets of characters -/

/-- A step: over a range of bytes to a state. -/
structure Step where
  lo : Nat
  hi : Nat
  next : Nat

/-- A state under construction: its finished steps, latest first, and the bytes of the step whose
end is not known yet. -/
structure OpenState where
  steps : List Step := []
  last : Option (Nat × Nat) := none

/-- Finishes the last step of a state. -/
def OpenState.close (s : OpenState) (next : Nat) : OpenState :=
  match s.last with
  | some (lo, hi) => ⟨⟨lo, hi, next⟩ :: s.steps, none⟩
  | none => s

/-- The states of a set under construction: the state where all ways end, and the states that are
still open, from the first byte on. -/
structure SetLayout where
  extent : Extent
  target : Nat
  recent : Recent := ∅
  opened : List OpenState := [{}]

namespace SetLayout

/-- Lays a state out, or finds one that does the same. -/
def finish (l : SetLayout) (s : OpenState) : SetLayout × Nat :=
  let key := s.steps.reverse.flatMap fun t => [t.lo, t.hi, t.next]
  let slot := slotOf 10000 key
  match l.recent.find? slot key with
  | some id => (l, id)
  | none =>
    let id := l.extent.states
    ({ l with
        extent := l.extent.state (8 * s.steps.length)
        recent := l.recent.insert slot (key, id) }, id)

/-- Finishes the open states below some depth, from the last byte back. -/
def finishBelow (l : SetLayout) (below : List OpenState) : SetLayout × Nat :=
  below.foldr (fun s (l, next) => l.finish (s.close next)) (l, l.target)

/-- The number of open states from the first byte on whose last step is over the same bytes. -/
def sharedDepth : List OpenState → Utf8.ByteRanges → Nat
  | s :: opened, r :: rest => if s.last = some r then sharedDepth opened rest + 1 else 0
  | _, _ => 0

/-- The open states for the bytes behind a shared beginning. -/
def openFor (first : OpenState) : Utf8.ByteRanges → List OpenState
  | [] => [first]
  | r :: rest => { first with last := some r } :: rest.map fun r => { last := some r }

/-- Adds encodings; they come in increasing order. -/
def add (l : SetLayout) (ranges : Utf8.ByteRanges) : SetLayout :=
  let opened := l.opened
  let depth := sharedDepth opened ranges
  let (l, next) := l.finishBelow (opened.drop (depth + 1))
  let first := ((opened[depth]?).getD {}).close next
  { l with opened := opened.take depth ++ openFor first (ranges.drop depth) }

/-- Finishes all states. -/
def done (l : SetLayout) : Extent :=
  let opened := l.opened
  let (l, next) := l.finishBelow (opened.drop 1)
  (l.finish ((opened.headD {}).close next)).1.extent

end SetLayout

/-- Lays out a set for reading forwards. -/
def layForwards (e : Extent) (rows : List Utf8.ByteRanges) : Extent :=
  (rows.foldl SetLayout.add { extent := e.plain, target := e.states }).done

/-- Lays out the bytes of some encodings for reading backwards; `behind` is the state that the
last byte read leads to. -/
def layRow (behind : Nat) (e : Extent) (recent : Recent) : Utf8.ByteRanges → Extent × Recent
  | [] => (e, recent)
  | (lo, hi) :: rest =>
    let key := [behind, lo, hi]
    let slot := slotOf 1000 key
    match recent.find? slot key with
    | some id => layRow id e recent rest
    | none => layRow e.states e.plain (recent.insert slot (key, e.states)) rest

/-- Lays out a set for reading backwards: a fork with a way for each sequence of bytes. -/
def layBackwards (e : Extent) (rows : List Utf8.ByteRanges) : Extent :=
  let target := e.states + 1
  let (e, _) := rows.foldl (fun (e, recent) row =>
    let (e, recent) := layRow target e recent row
    (e.ways 1, recent)) (e.plain.plain, (∅ : Recent))
  e

/-- Lays out a set of characters. -/
def laySet (d : Direction) (e : Extent) (s : CharSet) : Extent :=
  if s.isAscii then e.plain.state (8 * s.ranges.length)
  else
    let rows := s.ranges.flatMap fun r => Utf8.byteRanges r.1 r.2
    match d with
    | .forwards => layForwards e rows
    | .backwards => layBackwards e rows

/-! ## §4. Choices between literals -/

/-- The literals of a choice, if it is between literals only. -/
def literals? : Pattern → Option (List (List Char))
  | .literal cs => some [cs]
  | .alt p q => (literals? p).bind fun a => (literals? q).map (a ++ ·)
  | _ => none

/-- The rests behind each first byte of some rows, in the order in which the bytes come first; rows
without bytes are left out. -/
def byFirst : List (List Nat) → List (Nat × List (List Nat))
  | [] => []
  | [] :: rest => byFirst rest
  | (b :: row) :: rest =>
    let groups := byFirst rest
    (b, row :: (groups.lookup b).getD []) :: groups.filter (·.1 != b)

/-- Cuts rows at those that have no bytes: a row that ends at a state keeps those in front of it
from those behind. -/
def cutAtEnds : List (List Nat) → List (List (List Nat))
  | [] => [[]]
  | [] :: rest => [] :: cutAtEnds rest
  | row :: rest =>
    match cutAtEnds rest with
    | c :: cs => (row :: c) :: cs
    | [] => [[row]]

/-- The chunks of some rows; that a row ends before any goes on counts once. -/
def chunks : List (List Nat) → List (List (List Nat))
  | [] :: rest => cutAtEnds ([] :: rest.dropWhile List.isEmpty)
  | rows => cutAtEnds rows

/-- Lays out the tree of some rows, of at most the given depth.  A state is a fork between its
chunks, with a way out for each row that ends at it. -/
def layTree : Nat → Extent → List (List Nat) → Extent
  | 0, e, _ => e
  | depth + 1, e, rows =>
    let cs := chunks rows
    let (e, used) := cs.foldl (fun (e, used) c =>
      let groups := byFirst c
      let e := groups.foldl (fun e (_, rests) =>
        if rests.all List.isEmpty then e else layTree depth e rests) e
      match groups.length with
      | 0 => (e, used)
      | 1 => (e.plain, used + 1)
      | n => (e.state (8 * n), used + 1)) (e, 0)
    e.state (4 * (used + (cs.length - 1)))

/-- Lays out a choice between literals. -/
def layLiterals (d : Direction) (e : Extent) (ls : List (List Char)) : Extent :=
  let rows := ls.map fun cs =>
    match d with
    | .forwards => Utf8.encode cs
    | .backwards => (Utf8.encode cs).reverse
  layTree (rows.foldl (fun n r => max n r.length) 0 + 1) e.plain rows

/-! ## §5. Patterns -/

/-- Lays something out `n` times in a row, unless the limit is passed; the last component tells
whether what was laid out last ends in a fork. -/
def layTimes (lay : Extent → Extent × Bool) : Nat → Extent × Bool → Extent × Bool
  | 0, acc => acc
  | n + 1, (e, fork) =>
    if e.isOver then (e, fork)
    else
      let (e, fork') := lay e
      layTimes lay n (e.wayIf fork, fork')

/-- Lays something out exactly `n` times. -/
def layExactly (lay : Extent → Extent × Bool) (n : Nat) (e : Extent) : Extent × Bool :=
  if n = 0 then (e.plain, false) else layTimes lay (n - 1) (lay e)

/-- Lays something out `n` times where each time may be the last. -/
def layOptional (lay : Extent → Extent × Bool) : Nat → Extent × Bool → Extent × Bool
  | 0, acc => acc
  | n + 1, (e, fork) =>
    if e.isOver then (e, fork)
    else
      let (e, fork') := lay e.plain
      layOptional lay n ((e.wayIf fork).ways 2, fork')

/-- Lays out a repetition; `takes` tells whether each time takes at least one byte. -/
def layLoop (lay : Extent → Extent × Bool) (takes : Bool) (least : Nat) (most : Option Nat)
    (e : Extent) : Extent × Bool :=
  match least, most with
  | 0, some 1 =>
    let (e, fork) := lay e.plain
    ((e.plain.ways 2).wayIf fork, false)
  | 0, none =>
    if takes then
      let (e, fork) := lay e.plain
      ((e.ways 1).wayIf fork, true)
    else
      let (e, fork) := lay e
      ((e.plain.plain.plain.ways 4).wayIf fork, false)
  | 1, none =>
    let (e, fork) := lay e
    ((e.plain.ways 1).wayIf fork, true)
  | least, none =>
    let (e, fork) := layExactly lay (least - 1) e
    let (e, fork') := lay e
    (((e.plain.wayIf fork).wayIf fork').ways 1, true)
  | least, some most =>
    if least = most then layExactly lay least e
    else
      let (e, fork) := layExactly lay least e
      let (e, fork) := layOptional lay (most - least) (e.plain, fork)
      (e.wayIf fork, false)

mutual

/-- Lays out a pattern, and tells whether it ends in a fork. -/
def lay (d : Direction) : Pattern → Extent → Extent × Bool
  | .empty, e => (e.plain, false)
  | .literal cs, e =>
    let n := Pattern.byteLength cs
    (⟨e.states + n, e.bytes + 32 * n⟩, false)
  | .one s, e => if e.isOver then (e, false) else (laySet d e s, false)
  | .look _, e => (e.plain, false)
  | .group _ p, e =>
    match d with
    | .forwards =>
      let (e, fork) := lay d p e.plain
      (e.plain.wayIf fork, false)
    | .backwards => lay d p e
  | .seq p q, e =>
    match d with
    | .forwards =>
      let (e, fork) := lay d p e
      let (e, fork') := lay d q e
      (e.wayIf fork, fork')
    | .backwards =>
      let (e, fork) := lay d q e
      let (e, fork') := lay d p e
      (e.wayIf fork, fork')
  | .alt p q, e =>
    match literals? (.alt p q) with
    | some ls => (layLiterals d e ls, false)
    | none =>
      let (e, fork) := lay d p e
      (layRest d q true (e.wayIf fork), false)
  | .loop p least most _, e => layLoop (lay d p) (p.minLength?.any (0 < ·)) least most e

/-- Lays out the alternatives behind the first one; the fork and its end come behind the second. -/
def layRest (d : Direction) : Pattern → Bool → Extent → Extent
  | .alt p q, second, e =>
    let (e, fork) := lay d p e
    let e := (e.wayIf fork).ways 1
    layRest d q false (if second then e.plain.plain.ways 1 else e)
  | p, second, e =>
    let (e, fork) := lay d p e
    let e := (e.wayIf fork).ways 1
    if second then e.plain.plain.ways 1 else e

end

/-! ## §6. Whole automata -/

/-- Whether every match starts at the start of the text. -/
def startsText : Pattern → Bool
  | .look a => a == .textStart
  | .group _ p => startsText p
  | .seq p q => startsText p || (p.maxLength? == some 0 && startsText q)
  | .alt p q => startsText p && startsText q
  | .loop p least _ _ => 0 < least && startsText p
  | _ => false

/-- Whether every match ends at the end of the text. -/
def endsText : Pattern → Bool
  | .look a => a == .textEnd
  | .group _ p => endsText p
  | .seq p q => endsText q || (q.maxLength? == some 0 && endsText p)
  | .alt p q => endsText p && endsText q
  | .loop p least _ _ => 0 < least && endsText p
  | _ => false

/-- The states in front of a pattern: those that pass over any bytes, unless a match has to start
where the reading does. -/
def front (anchored : Bool) : Extent :=
  if anchored then Extent.plain {} else (((Extent.plain {}).plain.state 8).ways 2)

/-- The size of the automaton of a pattern in bytes, or some number above the limit. -/
def size (d : Direction) (p : Pattern) : Nat :=
  match d with
  | .forwards =>
    let (e, fork) := lay d p (front (startsText p)).plain
    (e.plain.wayIf fork).plain.bytes
  | .backwards =>
    let (e, fork) := lay d p (front (endsText p))
    (e.plain.wayIf fork).bytes

/-- A bound on the size of a pattern, whichever way it is read, that is quick to compute. -/
def roughSize : Pattern → Nat
  | .empty => 32
  | .literal cs => 64 + 128 * Pattern.byteLength cs
  | .one s => 128 + 4096 * s.ranges.length
  | .look _ => 32
  | .group _ p => roughSize p + 128
  | .seq p q => roughSize p + roughSize q + 8
  | .alt p q => roughSize p + roughSize q + 128
  | .loop p least most _ => (roughSize p + 128) * (max least (most.getD 0) + 1) + 128

/-- Whether the automaton of a pattern is within the limit, both forwards and backwards. -/
def fits (p : Pattern) : Bool :=
  roughSize p + 512 ≤ limit || (size .forwards p ≤ limit && size .backwards p ≤ limit)

end CodeAtlas.Automaton
