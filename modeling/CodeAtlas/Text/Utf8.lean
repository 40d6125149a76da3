/-
  CodeAtlas.Text.Utf8 — reading and writing UTF-8.

  `Utf8.units` cuts a byte sequence into characters and faults.  A fault stands for a maximal run
  of bytes that opens a character without completing it, or for one byte that can open none.  A
  strict reader refuses any fault; a lenient reader puts the replacement character in its place.
-/

namespace CodeAtlas.Utf8

/-! ## §1. One byte at a time -/

/-- A character under way: the bits read so far, the number of bytes still to come, and the range
that the next byte has to lie in. -/
structure Pending where
  bits : Nat
  missing : Nat
  lo : Nat
  hi : Nat

/-- What a byte does to the character under way. -/
inductive Reading where
  | whole (c : Char)
  | part (p : Pending)
  | fault

/-- Reads the first byte of a character. -/
def opening (b : UInt8) : Reading :=
  let n := b.toNat
  if n < 0x80 then .whole (Char.ofNat n)
  else if n < 0xC2 then .fault
  else if n < 0xE0 then .part ⟨n % 32, 1, 0x80, 0xBF⟩
  else if n < 0xF0 then
    .part ⟨n % 16, 2, if n = 0xE0 then 0xA0 else 0x80, if n = 0xED then 0x9F else 0xBF⟩
  else if n < 0xF5 then
    .part ⟨n % 8, 3, if n = 0xF0 then 0x90 else 0x80, if n = 0xF4 then 0x8F else 0xBF⟩
  else .fault

/-- Reads a further byte of a character. -/
def Pending.next (p : Pending) (b : UInt8) : Reading :=
  if p.lo ≤ b.toNat && b.toNat ≤ p.hi then
    let bits := p.bits * 64 + b.toNat % 64
    if p.missing = 1 then .whole (Char.ofNat bits) else .part ⟨bits, p.missing - 1, 0x80, 0xBF⟩
  else .fault

/-! ## §2. Byte sequences -/

/-- Characters and faults (`none`) of a byte sequence in front of which no character is under
way, or the given one is. -/
def unitsFrom : Option Pending → List UInt8 → List (Option Char)
  | none, [] => []
  | some _, [] => [none]
  | none, b :: rest =>
    match opening b with
    | .whole c => some c :: unitsFrom none rest
    | .part p => unitsFrom (some p) rest
    | .fault => none :: unitsFrom none rest
  | some p, b :: rest =>
    match p.next b with
    | .whole c => some c :: unitsFrom none rest
    | .part q => unitsFrom (some q) rest
    | .fault =>
      match opening b with
      | .whole c => none :: some c :: unitsFrom none rest
      | .part q => none :: unitsFrom (some q) rest
      | .fault => none :: none :: unitsFrom none rest

/-- Characters and faults of a byte sequence, in order. -/
def units (bytes : List UInt8) : List (Option Char) := unitsFrom none bytes

/-- Reads bytes, each fault as the replacement character. -/
def decodeLenient (bytes : ByteArray) : String :=
  String.ofList ((units bytes.toList).map (·.getD (Char.ofNat 0xFFFD)))

/-- Reads bytes without a fault. -/
def decode? (bytes : ByteArray) : Option String :=
  ((units bytes.toList).mapM id).map String.ofList

/-! ## §3. The bytes of characters -/

/-- The number of bytes of a code point. -/
def codeLength (n : Nat) : Nat :=
  if n < 0x80 then 1 else if n < 0x800 then 2 else if n < 0x10000 then 3 else 4

/-- The bytes of a code point. -/
def encodeCode (n : Nat) : List Nat :=
  let tail (shift : Nat) : Nat := 0x80 + (n >>> shift) % 64
  if n < 0x80 then [n]
  else if n < 0x800 then [0xC0 + n >>> 6, tail 0]
  else if n < 0x10000 then [0xE0 + n >>> 12, tail 6, tail 0]
  else [0xF0 + n >>> 18, tail 12, tail 6, tail 0]

/-- The bytes of some characters. -/
def encode (cs : List Char) : List Nat := cs.flatMap fun c => encodeCode c.toNat

end CodeAtlas.Utf8
