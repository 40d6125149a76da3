/-
  CodeAtlas.Toml.Table — tables under construction.

  A table may be written in several places, within limits.  A header may open a table once; a table
  that only stands on the way to another one is implicit and may still be opened.  Dotted keys
  extend tables that dotted keys made, and no others.  A table written in braces is closed.

  * `Branch.assign?`: one key and its value.
  * `Branch.openTable?`, `Branch.openElement?`: headers in single and double brackets.
-/
import CodeAtlas.Toml.Value

namespace CodeAtlas.Toml

/-! ## §1. Items -/

/-- What a key holds while its table is under construction. -/
inductive Item where
  | value (v : Value)
  | table (implicit dotted : Bool) (fields : List (String × Item))
  /-- Tables opened by headers in double brackets, latest first. -/
  | tables (elements : List (List (String × Item)))
  deriving Inhabited

/-- A table under construction. -/
structure Branch where
  /-- Only stands on the way to another table. -/
  implicit : Bool := false
  /-- Made by dotted keys. -/
  dotted : Bool := false
  fields : List (String × Item) := []
  deriving Inhabited

namespace Branch

/-- The table as an item. -/
def item (b : Branch) : Item := .table b.implicit b.dotted b.fields

/-- The item of a key. -/
def get? (b : Branch) (key : String) : Option Item := b.fields.lookup key

/-- Sets a key, in its place if it is there. -/
def put (b : Branch) (key : String) (i : Item) : Branch :=
  if b.fields.any (·.1 == key) then
    { b with fields := b.fields.map fun f => if f.1 == key then (key, i) else f }
  else { b with fields := b.fields ++ [(key, i)] }

/-! ## §2. Reaching tables -/

/-- Changes the table at a path.  Missing tables are made on the way; dotted keys may not pass
through a table that was opened, headers enter the latest of several tables. -/
def change? (dotted : Bool) (f : Branch → Option Branch) : List String → Branch → Option Branch
  | [], b => f b
  | key :: path, b =>
    match b.get? key with
    | none =>
      (change? dotted f path { implicit := true, dotted := dotted }).map fun t => b.put key t.item
    | some (.value _) => none
    | some (.table implicit isDotted fields) =>
      if dotted && !implicit then none
      else (change? dotted f path ⟨implicit, isDotted, fields⟩).map fun t => b.put key t.item
    | some (.tables []) => none
    | some (.tables (last :: earlier)) =>
      (change? dotted f path { fields := last }).map fun t =>
        b.put key (.tables (t.fields :: earlier))

/-- Sets a new key of a table.  With a dotted key, the table must be one that dotted keys made. -/
def add? (isDotted : Bool) (key : String) (v : Value) (b : Branch) : Option Branch :=
  if b.dotted != isDotted || (b.get? key).isSome then none else some (b.put key (.value v))

/-- The last part of a key and the parts in front of it. -/
def splitLast? : List String → Option (List String × String)
  | [] => none
  | [key] => some ([], key)
  | key :: rest => (splitLast? rest).map fun (path, last) => (key :: path, last)

/-- Sets a key, which may be dotted. -/
def assign? (key : List String) (v : Value) (b : Branch) : Option Branch :=
  (splitLast? key).bind fun (path, last) => b.change? true (add? (!path.isEmpty) last v) path

/-! ## §3. Headers -/

/-- Opens a table that is new or implicit. -/
def openTable? (key : List String) (b : Branch) : Option Branch :=
  (splitLast? key).bind fun (path, last) =>
    b.change? false (fun t =>
      match t.get? last with
      | none => some (t.put last (item {}))
      | some (.table true false fields) => some (t.put last (item { fields }))
      | _ => none) path

/-- Opens one more table of several. -/
def openElement? (key : List String) (b : Branch) : Option Branch :=
  (splitLast? key).bind fun (path, last) =>
    b.change? false (fun t =>
      match t.get? last with
      | none => some (t.put last (.tables [[]]))
      | some (.tables elements) => some (t.put last (.tables ([] :: elements)))
      | _ => none) path

end Branch

/-! ## §4. Finished tables -/

mutual

/-- The value of an item. -/
def Item.toValue : Item → Value
  | .value v => v
  | .table _ _ fields => .table (fieldValues fields)
  | .tables elements => .array (elementValues elements).reverse

/-- The values of some fields. -/
def fieldValues : List (String × Item) → List (String × Value)
  | [] => []
  | (key, i) :: rest => (key, i.toValue) :: fieldValues rest

/-- The values of some tables. -/
def elementValues : List (List (String × Item)) → List Value
  | [] => []
  | fields :: rest => .table (fieldValues fields) :: elementValues rest

end

end CodeAtlas.Toml
