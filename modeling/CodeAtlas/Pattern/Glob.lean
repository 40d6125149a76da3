/-
  CodeAtlas.Pattern.Glob — wildcards that describe paths.

  A glob describes a whole path byte by byte: `?` and `*` stand for bytes of one segment, `**`
  between slashes for any number of segments, brackets for classes and braces for alternatives.  A
  bracket that is never closed stands for itself.

  * `Glob.parse?`: reading a glob.
  * `Glob.describes`: whether a path is described.
-/
import CodeAtlas.Pattern.Matching

namespace CodeAtlas

/-! ## §1. Pieces -/

/-- A piece of a glob. -/
inductive GlobPiece where
  | char (c : Char)
  | anyByte
  | star
  /-- Segments in front, with the slash behind them. -/
  | leading
  /-- Segments at the end, with the slash in front of them. -/
  | trailing
  /-- Segments in between, with the slashes around them. -/
  | inner
  | bracket (negated : Bool) (ranges : List (Char × Char))
  | braces (branches : List (List GlobPiece))
  deriving Repr, Inhabited

namespace GlobPiece

/-- A byte as a character, as patterns read it. -/
def ofByte (b : Nat) : Char := Char.ofNat b

/-- The bytes of some characters, as patterns read them. -/
def bytesOf (cs : List Char) : List Char := (Utf8.encode cs).map ofByte

/-- The ranges of bytes of a range of characters as written: only the last byte of the lower end and
the first byte of the upper one are the ends of a range. -/
def byteRanges (lo hi : Char) : List (Char × Char) :=
  let low := bytesOf [lo]
  let high := bytesOf [hi]
  if lo = hi then low.map fun b => (b, b)
  else
    (low.dropLast.map fun b => (b, b)) ++ [(low.getLastD '\x00', high.headD '\x00')] ++
      high.tail.map fun b => (b, b)

/-- One byte of a segment. -/
def inSegment : Pattern := .one (CharSet.single '/').compl

/-- Any bytes. -/
def anything : Pattern := .loop (.one .all) 0 none false

/-- A slash. -/
def slash : Pattern := .literal ['/']

mutual

/-- The patterns of a piece: more than one are tried one behind the other, and none stands for the
empty text. -/
def patterns : GlobPiece → List Pattern
  | char c => [.literal (bytesOf [c])]
  | anyByte => [inSegment]
  | star => [.loop inSegment 0 none false]
  | leading => [.alt (.loop slash 0 (some 1) false) (.seq anything slash)]
  | trailing => [slash, anything]
  | inner => [.alt slash (.seq slash (.seq anything slash))]
  | bracket negated ranges =>
    let set := CharSet.ofRanges (ranges.flatMap fun r => byteRanges r.1 r.2)
    [.one (if negated then set.compl else set)]
  | braces branches =>
    match branchPatterns branches with
    | [] => []
    | ps => [.ofAlternatives ps]

/-- The patterns of some pieces. -/
def patternsOfAll : List GlobPiece → List Pattern
  | [] => []
  | p :: rest => patterns p ++ patternsOfAll rest

/-- The patterns of some branches; empty branches are left out. -/
def branchPatterns : List (List GlobPiece) → List Pattern
  | [] => []
  | b :: rest =>
    match patternsOfAll b with
    | [] => branchPatterns rest
    | ps => .ofFactors ps :: branchPatterns rest

end

/-- The number of parts of some pieces, where each byte of a character is one. -/
def partsOf (pieces : List GlobPiece) : Nat :=
  pieces.foldl (fun n p =>
    match p with
    | char c => n + (bytesOf [c]).length
    | p => n + (patterns p).length) 0

mutual

/-- How deeply the parts of a piece are nested, where repetitions, classes, groups, choices and
sequences of more than one part count. -/
def depth : GlobPiece → Nat
  | char _ => 0
  | anyByte => 1
  | star => 2
  | leading => 4
  | trailing => 1
  | inner => 4
  | bracket _ ranges => if (ranges.flatMap fun r => byteRanges r.1 r.2).length ≤ 1 then 1 else 2
  | braces branches =>
    match branchPatterns branches with
    | [] => 0
    | [_] => depthOfBranches branches + 1
    | _ => depthOfBranches branches + 2

/-- The greatest depth of some pieces. -/
def depthOfAll : List GlobPiece → Nat
  | [] => 0
  | p :: rest => max (depth p) (depthOfAll rest)

/-- The greatest depth of some branches. -/
def depthOfBranches : List (List GlobPiece) → Nat
  | [] => 0
  | b :: rest =>
    let own := depthOfAll b + if partsOf b ≤ 1 then 0 else 1
    max own (depthOfBranches rest)

end

/-- The character of a piece that stands for itself. -/
def char? : GlobPiece → Option Char
  | char c => some c
  | _ => none

end GlobPiece

/-! ## §2. Reading -/

namespace Glob

/-- Takes the next character of a class in; `isOpen` tells whether a minus waits for its end. -/
def addToClass? (ranges : List (Char × Char)) (isOpen : Bool) (c : Char) :
    Option (List (Char × Char) × Bool) :=
  match isOpen, ranges with
  | true, (lo, _) :: rest => if lo ≤ c then some ((lo, c) :: rest, false) else none
  | _, [] => some ([(c, c)], false)
  | _, ranges => if c == '-' then some (ranges, true) else some ((c, c) :: ranges, false)

/-- What became of a class. -/
inductive ClassResult where
  | closed (ranges : List (Char × Char)) (rest : List Char)
  | unclosed
  /-- A range with its ends the wrong way round. -/
  | wrong

/-- Reads a class up to its closing bracket, with its latest ranges first; a bracket in first place
stands for itself. -/
def classFrom (ranges : List (Char × Char)) (isOpen : Bool) : List Char → ClassResult
  | [] => .unclosed
  | c :: rest =>
    if c == ']' && !ranges.isEmpty then
      .closed (if isOpen then ('-', '-') :: ranges else ranges) rest
    else
      match addToClass? ranges isOpen c with
      | some (ranges, isOpen) => classFrom ranges isOpen rest
      | none => .wrong

/-- A group of branches under construction, latest branches and pieces first. -/
structure Level where
  branches : List (List GlobPiece) := []
  pieces : List GlobPiece := []

namespace Level

/-- Adds a piece. -/
def push (l : Level) (p : GlobPiece) : Level := { l with pieces := p :: l.pieces }

/-- The branches of the finished group. -/
def finish (l : Level) : List (List GlobPiece) :=
  ((l.pieces :: l.branches).map List.reverse).reverse

/-- Puts a run of segments in place of the last piece, unless that is a run that takes it in. -/
def pushRun (l : Level) (atEnd : Bool) : Level :=
  match l.pieces with
  | [] => l
  | .leading :: _ => l
  | .trailing :: _ => l
  | _ :: rest => { l with pieces := (if atEnd then .trailing else .inner) :: rest }

/-- Takes two stars in; `prev` is the character in front of them.  They stand for a run of segments
if nothing but slashes or the ends of a branch are next to them, and for two single stars if not.
The result has the character that was read last. -/
def doubleStar (l : Level) (nested : Bool) (prev : Option Char) (rest : List Char) :
    Level × Char × List Char :=
  let plain := ((l.push .star).push .star, '*', rest)
  let isFirst := l.pieces.isEmpty
  let follows := prev == some '/' || (nested && (prev == some ',' || prev == some '{'))
  if isFirst then
    match rest with
    | [] => (l.push .leading, '*', [])
    | '/' :: rest => (l.push .leading, '/', rest)
    | _ => plain
  else if !follows then plain
  else
    match rest with
    | [] => (l.pushRun true, '*', [])
    | '/' :: rest => (l.pushRun false, '/', rest)
    | c :: _ => if nested && (c == ',' || c == '}') then (l.pushRun true, '*', rest) else plain

end Level

/-- Reads the rest of a glob in a group; `outer` are the groups around it, `literal` tells that
brackets stand for themselves, and `prev` is the character read last. -/
def from? : Nat → Level → List Level → Bool → Option Char → List Char → Option (List GlobPiece)
  | 0, _, _, _, _, _ => none
  | _ + 1, level, outer, _, _, [] => if outer.isEmpty then some level.pieces.reverse else none
  | fuel + 1, level, outer, literal, prev, c :: rest =>
    let plain (c : Char) (rest : List Char) :=
      from? fuel (level.push (.char c)) outer literal (some c) rest
    match c, rest with
    | '?', rest => from? fuel (level.push .anyByte) outer literal (some c) rest
    | '*', '*' :: rest =>
      let (level, last, rest) := level.doubleStar (!outer.isEmpty) prev rest
      from? fuel level outer literal (some last) rest
    | '*', rest => from? fuel (level.push .star) outer literal (some c) rest
    | '[', rest =>
      if literal then plain c rest
      else
        let (negated, inside) :=
          match rest with
          | '!' :: inside => (true, inside)
          | '^' :: inside => (true, inside)
          | inside => (false, inside)
        match classFrom [] false inside with
        | .closed ranges rest =>
          from? fuel (level.push (.bracket negated ranges)) outer literal (some ']') rest
        | .unclosed => from? fuel (level.push (.char c)) outer true (some c) rest
        | .wrong => none
    | '{', rest => from? fuel {} (level :: outer) literal (some c) rest
    | '}', rest =>
      match outer with
      | [] => none
      | around :: outer =>
        from? fuel (around.push (.braces level.finish)) outer literal (some c) rest
    | ',', rest =>
      if outer.isEmpty then plain c rest
      else from? fuel { branches := level.pieces :: level.branches } outer literal (some c) rest
    | '\\', d :: rest => plain d rest
    | '\\', [] => none
    | c, rest => plain c rest

end Glob

/-! ## §3. Globs -/

/-- A glob. -/
structure Glob where
  /-- The paths that the glob describes. -/
  pattern : Pattern
  /-- The glob is decided by the name of a path or its ending, which a path with a dot at its end
  has none of. -/
  byName : Bool
  /-- How deeply the parts of the glob are nested. -/
  depth : Nat

namespace Glob

/-- The pattern of some pieces; a run of segments alone describes every path. -/
def patternOf (pieces : List GlobPiece) : Pattern :=
  let body :=
    match pieces with
    | [.leading] => [GlobPiece.anything]
    | pieces => GlobPiece.patternsOfAll pieces
  .ofFactors (.look .textStart :: body ++ [.look .textEnd])

/-- Whether the characters at the end that stand for themselves make up an ending. -/
def hasEnding (pieces : List GlobPiece) : Bool :=
  ((pieces.reverse.map GlobPiece.char?).find? fun c =>
    c.isNone || c == some '/' || c == some '.') == some (some '.')

/-- Whether some pieces are decided by the name of a path or its ending. -/
def isByName (pieces : List GlobPiece) : Bool :=
  match pieces with
  | .leading :: rest =>
    if !rest.isEmpty && rest.all (·.char?.isSome) then !rest.any (·.char? == some '/')
    else hasEnding pieces
  | pieces => !pieces.all (·.char?.isSome) && hasEnding pieces

/-- Reads a glob. -/
def parse? (s : List Char) : Option Glob :=
  (from? (s.length + 1) {} [] false none s).map fun pieces =>
    ⟨patternOf pieces, isByName pieces, GlobPiece.depthOfAll pieces + 1⟩

/-- Whether a glob describes a path. -/
def describes (g : Glob) (path : List Char) : Bool :=
  !(g.byName && path.getLast? == some '.') && g.pattern.matchesChars (GlobPiece.bytesOf path)

end Glob
end CodeAtlas
