/-
  CodeAtlas.Search — finding declarations by name, whatever the case.

  Every declaration is filed under its lower-cased qualified name (its primary key) and, where that
  differs, under its lower-cased unqualified name.  Under one key primary entries come first;
  entries are then in name order.
-/
import CodeAtlas.Model
import CodeAtlas.Name

namespace CodeAtlas

namespace Search

/-- A declaration filed under a key. -/
structure Hit where
  qualifiedName : String
  kind : Kind
  /-- The key is the qualified name and not just the local one. -/
  primary : Bool
  deriving DecidableEq, Repr, Inhabited

/-- Primary hits come first, then hits are in name order. -/
def Hit.order : Hit → Hit → Ordering :=
  compareLex (compareOn fun h => if h.primary then 0 else 1) (compareOn (·.qualifiedName))

/-- Hits by lower-cased key. -/
abbrev Index : Type := Table String (List Hit)

/-- Files a hit under a key. -/
def file (index : Index) (key : String) (hit : Hit) : Index :=
  index.upsert key fun hits => hits.getD [] ++ [hit]

/-- Files a declaration. -/
def add (index : Index) (d : Declaration) : Index :=
  let full := Text.lower d.qualifiedName
  let short := Text.lower (Name.unqualified d.qualifiedName)
  let index := if short = full then index else file index short ⟨d.qualifiedName, d.kind, false⟩
  file index full ⟨d.qualifiedName, d.kind, true⟩

/-- The index of a model. -/
def ofModel (m : Model) : Index :=
  (m.declarations.values.foldl add ∅).map (sortBy Hit.order)

/-- The hits filed under exactly a query. -/
def exact (index : Index) (query : String) : List Hit := (index.get? (Text.lower query)).getD []

/-- Keeps the first hit of each declaration. -/
def firstHits : List String → List Hit → List Hit
  | _, [] => []
  | seen, h :: rest =>
    if seen.contains h.qualifiedName then firstHits seen rest
    else h :: firstHits (h.qualifiedName :: seen) rest

/-- The hits of every key that starts with a query, in key order, each declaration once. -/
def startingWith (index : Index) (query : String) : List Hit :=
  let query := Text.lower query
  let tail := index.toList.dropWhile fun e => e.1 < query
  let matching := tail.takeWhile fun e => Text.startsWith query e.1
  firstHits [] (matching.flatMap (·.2))

end Search
end CodeAtlas
