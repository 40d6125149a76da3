/-
  CodeAtlas.Toml.Number — numbers and date-times.

  Integers have 64 bits and a sign.  A floating-point number must not be too large for 64 bits.
  Dates must exist.  Underscores may stand between two digits.
-/
import CodeAtlas.Text.Digit
import CodeAtlas.Toml.Value

namespace CodeAtlas.Toml

/-! ## §1. Digits -/

/-- Further digits of a number, an underscore allowed in front of each. -/
def moreDigits (base : Nat) : List Char → List Char × List Char
  | [] => ([], [])
  | [c] => if isDigitIn base c then ([c], []) else ([], [c])
  | c :: d :: rest =>
    if isDigitIn base c then
      let (digits, rest) := moreDigits base (d :: rest)
      (c :: digits, rest)
    else if c == '_' && isDigitIn base d then
      let (digits, rest) := moreDigits base rest
      (d :: digits, rest)
    else ([], c :: d :: rest)

/-- Reads digits, the first of them a digit indeed. -/
def digits? (base : Nat) : List Char → Option (List Char × List Char)
  | [] => none
  | c :: rest =>
    if isDigitIn base c then
      let (digits, rest) := moreDigits base rest
      some (c :: digits, rest)
    else none

/-- Reads a sign; true for a minus. -/
def sign : List Char → Bool × List Char
  | '-' :: rest => (true, rest)
  | '+' :: rest => (false, rest)
  | s => (false, s)

/-- Reads decimal digits without a leading zero, or a single digit. -/
def decimal? : List Char → Option (List Char × List Char)
  | '0' :: rest => some (['0'], rest)
  | s => digits? 10 s

/-! ## §2. Integers -/

/-- An integer, if it fits 64 bits. -/
def integerOf? (negative : Bool) (n : Nat) : Option Value :=
  if negative then if n ≤ 0x8000000000000000 then some (.integer (-n)) else none
  else if n < 0x8000000000000000 then some (.integer n) else none

/-- Reads an integer. -/
def integer? (s : List Char) : Option (Value × List Char) :=
  let inBase (base : Nat) (s : List Char) :=
    (digits? base s).bind fun (digits, rest) =>
      (integerOf? false (Chars.valueIn base digits)).map (·, rest)
  match s with
  | '0' :: 'x' :: rest => inBase 16 rest
  | '0' :: 'o' :: rest => inBase 8 rest
  | '0' :: 'b' :: rest => inBase 2 rest
  | s =>
    let (negative, rest) := sign s
    (decimal? rest).bind fun (digits, rest) =>
      (integerOf? negative (Chars.valueIn 10 digits)).map (·, rest)

/-! ## §3. Floating-point numbers -/

/-- Reads digits behind a dot. -/
def fraction? : List Char → Option (List Char × List Char)
  | '.' :: rest => digits? 10 rest
  | _ => none

/-- Reads an exponent. -/
def exponent? : List Char → Option (Int × List Char)
  | c :: rest =>
    if c == 'e' || c == 'E' then
      let (negative, rest) := sign rest
      (digits? 10 rest).map fun (digits, rest) =>
        (if negative then -(Chars.valueIn 10 digits : Int) else Chars.valueIn 10 digits, rest)
    else none
  | [] => none

/-- Whether `m * 10 ^ e` rounds to more than the largest number of 64 bits.  The size of the
exponent decides unless it is near the limit. -/
def isTooLarge (m : Nat) (e : Int) : Bool :=
  if m = 0 then false
  else
    let size : Int := (Nat.toDigits 10 m).length + e
    if 400 < size then true
    else if size < 300 then false
    else
      let limit := Nat.pow 2 1024 - Nat.pow 2 970
      if 0 ≤ e then limit ≤ m * Nat.pow 10 e.toNat else limit * Nat.pow 10 (-e).toNat ≤ m

/-- Reads a number with a fraction, an exponent or both. -/
def finite? (s : List Char) : Option (Value × List Char) :=
  let (negative, rest) := sign s
  (decimal? rest).bind fun (whole, rest) =>
    let result (digits : List Char) (places : Nat) (e : Int) (rest : List Char) :=
      if !negative && isTooLarge (Chars.valueIn 10 digits) (e - places) then none
      else some (Value.float, rest)
    match fraction? rest with
    | some (fraction, rest) =>
      let (e, rest) := (exponent? rest).getD (0, rest)
      result (whole ++ fraction) fraction.length e rest
    | none => (exponent? rest).bind fun (e, rest) => result whole 0 e rest

/-- Reads a floating-point number. -/
def float? (s : List Char) : Option (Value × List Char) :=
  match (sign s).2 with
  | 'i' :: 'n' :: 'f' :: rest => some (.float, rest)
  | 'n' :: 'a' :: 'n' :: rest => some (.float, rest)
  | _ => finite? s

/-! ## §4. Date-times -/

/-- Reads a number of exactly `count` digits between two bounds. -/
def field? (count low high : Nat) (s : List Char) : Option (Nat × List Char) :=
  let digits := s.take count
  let value := Chars.valueIn 10 digits
  if digits.length = count && digits.all Char.isDigit && low ≤ value && value ≤ high then
    some (value, s.drop count)
  else none

/-- What follows a given character. -/
def mark? (c : Char) : List Char → Option (List Char)
  | d :: rest => if c == d then some rest else none
  | [] => none

/-- Number of days of a month. -/
def daysIn (year month : Nat) : Nat :=
  if month = 2 then
    if year % 4 = 0 && (year % 100 ≠ 0 || year % 400 = 0) then 29 else 28
  else if month = 4 || month = 6 || month = 9 || month = 11 then 30
  else 31

/-- What follows a date. -/
def date? (s : List Char) : Option (List Char) := do
  let (year, s) ← field? 4 0 9999 s
  let (month, s) ← (mark? '-' s).bind (field? 2 1 12)
  let (_, s) ← (mark? '-' s).bind (field? 2 1 (daysIn year month))
  return s

/-- What follows a time of day. -/
def time? (s : List Char) : Option (List Char) := do
  let (_, s) ← field? 2 0 23 s
  let (_, s) ← (mark? ':' s).bind (field? 2 0 59)
  let (_, s) ← (mark? ':' s).bind (field? 2 0 60)
  match mark? '.' s with
  | none => return s
  | some rest => if rest.head?.any Char.isDigit then return rest.dropWhile Char.isDigit else none

/-- What follows an offset from universal time, if there is one. -/
def offset? (s : List Char) : Option (List Char) :=
  match s with
  | c :: rest =>
    if c == 'Z' || c == 'z' then some rest
    else if c == '+' || c == '-' then do
      let (_, s) ← field? 2 0 23 rest
      let (_, s) ← (mark? ':' s).bind (field? 2 0 59)
      return s
    else some s
  | [] => some s

/-- What follows a date-time: a date, a time, or both with an optional offset. -/
def dateTime? (s : List Char) : Option (List Char) :=
  match date? s with
  | none => time? s
  | some rest =>
    match rest with
    | c :: after =>
      if c == 'T' || c == 't' || c == ' ' then
        match time? after with
        | some rest => offset? rest
        | none => some (c :: after)
      else some (c :: after)
    | [] => some []

/-- Reads a date-time or a number. -/
def number? (s : List Char) : Option (Value × List Char) :=
  ((dateTime? s).map (Value.dateTime, ·)).or ((float? s).or (integer? s))

end CodeAtlas.Toml
