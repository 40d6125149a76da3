/-
  CodeAtlas.Json — JSON values and their two written forms.

  Objects keep their fields in the order given.  The compact form has no blanks; the pretty form
  indents by two spaces, puts every item on a line of its own and writes empty containers as `[]`
  and `{}`.  Both leave characters beyond ASCII as they are.
-/

namespace CodeAtlas

/-- A JSON value; numbers are the natural numbers that this program counts with. -/
inductive Json where
  | null
  | bool (b : Bool)
  | num (n : Nat)
  | str (s : String)
  | arr (items : List Json)
  | obj (fields : List (String × Json))
  deriving Inhabited

namespace Json

/-! ## §1. Scalars -/

/-- A character inside quotes: quotes, backslashes and control characters are escaped. -/
def escape (c : Char) : String :=
  match c with
  | '\x22' => "\\\""
  | '\\' => "\\\\"
  | '\n' => "\\n"
  | '\r' => "\\r"
  | '\t' => "\\t"
  | c =>
    let n := c.toNat
    if n = 8 then "\\b"
    else if n = 12 then "\\f"
    else if n < 32 then
      "\\u00" ++ String.ofList [Nat.digitChar (n / 16), Nat.digitChar (n % 16)]
    else c.toString

/-- A quoted string. -/
def quote (s : String) : String :=
  s.toList.foldl (fun out c => out ++ escape c) "\"" ++ "\""

/-! ## §2. The compact form -/

mutual

/-- The form without blanks. -/
def compact : Json → String
  | null => "null"
  | bool b => if b then "true" else "false"
  | num n => toString n
  | str s => quote s
  | arr items => "[" ++ ",".intercalate (compactItems items) ++ "]"
  | obj fields => "\x7b" ++ ",".intercalate (compactFields fields) ++ "\x7d"

/-- The compact forms of some values. -/
def compactItems : List Json → List String
  | [] => []
  | j :: rest => compact j :: compactItems rest

/-- The compact forms of some fields. -/
def compactFields : List (String × Json) → List String
  | [] => []
  | (k, j) :: rest => (quote k ++ ":" ++ compact j) :: compactFields rest

end

/-! ## §3. The pretty form -/

/-- Two spaces for each level. -/
def indent (level : Nat) : String := String.ofList (List.replicate (2 * level) ' ')

/-- Items of a container, each on a line of its own, between two brackets. -/
def block (level : Nat) (opening closing : String) (items : List String) : String :=
  if items.isEmpty then opening ++ closing
  else
    opening ++ "\n" ++ ",\n".intercalate (items.map (indent (level + 1) ++ ·)) ++ "\n"
      ++ indent level ++ closing

mutual

/-- The indented form of a value that stands at a level. -/
def prettyAt (level : Nat) : Json → String
  | null => "null"
  | bool b => if b then "true" else "false"
  | num n => toString n
  | str s => quote s
  | arr items => block level "[" "]" (prettyItems (level + 1) items)
  | obj fields => block level "\x7b" "\x7d" (prettyFields (level + 1) fields)

/-- The indented forms of some values. -/
def prettyItems (level : Nat) : List Json → List String
  | [] => []
  | j :: rest => prettyAt level j :: prettyItems level rest

/-- The indented forms of some fields. -/
def prettyFields (level : Nat) : List (String × Json) → List String
  | [] => []
  | (k, j) :: rest => (quote k ++ ": " ++ prettyAt level j) :: prettyFields level rest

end

/-- The indented form. -/
def pretty (j : Json) : String := prettyAt 0 j

/-! ## §4. Building values -/

/-- An optional value, null if it is none. -/
def ofOption {α : Type} (f : α → Json) : Option α → Json
  | some a => f a
  | none => null

/-- A list of values. -/
def ofList {α : Type} (f : α → Json) (l : List α) : Json := arr (l.map f)

end Json
end CodeAtlas
