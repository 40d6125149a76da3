/-
  CodeAtlas.Table — finite maps in increasing key order.

  A `Table κ α` holds at most one value per key and lists its entries in strictly increasing key
  order.  The order is part of the type, so a table depends only on what it maps, not on the order
  in which it was filled.

  * `Table.get?`, `Table.insert`, `Table.upsert`: look-up, replacement, update of one entry.
  * `Table.keys`, `Table.values`, `Table.toList`: the view in key order.
-/

namespace CodeAtlas

/-- Keys are strictly and totally ordered. -/
class Key (κ : Type) [LT κ] : Prop where
  irrefl : ∀ a : κ, ¬ a < a
  trans : ∀ {a b c : κ}, a < b → b < c → a < c
  connex : ∀ {a b : κ}, ¬ a < b → a ≠ b → b < a

instance : Key String where
  irrefl := String.lt_irrefl
  trans := String.lt_trans
  connex h hne := by
    rcases String.le_total _ _ with hle | hle
    · exact absurd (String.le_antisymm hle h) hne
    · exact Decidable.byContradiction fun hlt => hne (String.le_antisymm hlt h)

instance : Key Nat where
  irrefl := Nat.lt_irrefl
  trans := Nat.lt_trans
  connex h hne := by omega

instance : Key (List String) where
  irrefl := List.lt_irrefl
  trans := List.lt_trans
  connex h hne := Decidable.byContradiction fun hlt =>
    hne (List.le_antisymm (List.not_lt.mp hlt) (List.not_lt.mp h))

variable {κ α β : Type} [LT κ] [DecidableLT κ] [DecidableEq κ]

/-! ## §1. Entry lists -/

namespace Entries

/-- Strictly increasing keys. -/
abbrev Ordered (l : List (κ × α)) : Prop := l.Pairwise (fun a b => a.1 < b.1)

/-- Puts an entry at its place, over an entry of the same key. -/
def insert (k : κ) (v : α) : List (κ × α) → List (κ × α)
  | [] => [(k, v)]
  | e :: rest =>
    if k < e.1 then (k, v) :: e :: rest
    else if k = e.1 then (k, v) :: rest
    else e :: insert k v rest

/-- The value under a key. -/
def get? (k : κ) : List (κ × α) → Option α
  | [] => none
  | e :: rest => if k = e.1 then some e.2 else get? k rest

theorem mem_insert {k : κ} {v : α} {e : κ × α} {l : List (κ × α)} :
    e ∈ insert k v l → e = (k, v) ∨ e ∈ l := by
  induction l with
  | nil => simp [insert]
  | cons a rest ih => rw [insert]; split <;> (try split) <;> grind

theorem ordered_insert [Key κ] (k : κ) (v : α) {l : List (κ × α)} (h : Ordered l) :
    Ordered (insert k v l) := by
  induction l with
  | nil => simp [insert]
  | cons e rest ih =>
    obtain ⟨first, tail⟩ := List.pairwise_cons.mp h
    rw [insert]
    split
    next lt =>
      refine List.pairwise_cons.mpr ⟨fun a ha => ?_, h⟩
      rcases List.mem_cons.mp ha with rfl | ha
      · exact lt
      · exact Key.trans lt (first a ha)
    next nlt =>
      split
      next eq => exact List.pairwise_cons.mpr ⟨fun a ha => eq ▸ first a ha, tail⟩
      next ne =>
        refine List.pairwise_cons.mpr ⟨fun a ha => ?_, ih tail⟩
        rcases mem_insert ha with rfl | ha
        · exact Key.connex nlt ne
        · exact first a ha

end Entries

/-! ## §2. Tables -/

/-- A finite map whose entries stand in increasing key order. -/
structure Table (κ α : Type) [LT κ] where
  entries : List (κ × α)
  ordered : Entries.Ordered entries

namespace Table

/-- The table without entries. -/
def empty : Table κ α := ⟨[], List.Pairwise.nil⟩

instance : EmptyCollection (Table κ α) := ⟨empty⟩
instance : Inhabited (Table κ α) := ⟨empty⟩

omit [DecidableLT κ] [DecidableEq κ] in
/-- Equal entry lists make equal tables. -/
theorem ext {s t : Table κ α} (h : s.entries = t.entries) : s = t := by
  cases s; cases t; cases h; rfl

instance [DecidableEq α] : DecidableEq (Table κ α) := fun s t =>
  decidable_of_iff (s.entries = t.entries) ⟨ext, fun h => h ▸ rfl⟩

/-- The value under a key. -/
def get? (t : Table κ α) (k : κ) : Option α := Entries.get? k t.entries

/-- Whether a key has a value. -/
def contains (t : Table κ α) (k : κ) : Bool := (t.get? k).isSome

/-- Sets the value of a key. -/
def insert [Key κ] (t : Table κ α) (k : κ) (v : α) : Table κ α :=
  ⟨Entries.insert k v t.entries, Entries.ordered_insert k v t.ordered⟩

/-- Sets the value of a key from the value it has so far. -/
def upsert [Key κ] (t : Table κ α) (k : κ) (f : Option α → α) : Table κ α :=
  t.insert k (f (t.get? k))

/-- Entries in key order. -/
def toList (t : Table κ α) : List (κ × α) := t.entries

/-- Keys in increasing order. -/
def keys (t : Table κ α) : List κ := t.entries.map (·.1)

/-- Values in key order. -/
def values (t : Table κ α) : List α := t.entries.map (·.2)

/-- Number of entries. -/
def size (t : Table κ α) : Nat := t.entries.length

/-- Fills a table from the left; a later entry replaces an earlier one of the same key. -/
def ofList [Key κ] (l : List (κ × α)) : Table κ α :=
  l.foldl (fun t e => t.insert e.1 e.2) empty

/-- Changes every value. -/
def map (f : α → β) (t : Table κ α) : Table κ β where
  entries := t.entries.map fun e => (e.1, f e.2)
  ordered := List.pairwise_map.mpr t.ordered

end Table
end CodeAtlas
