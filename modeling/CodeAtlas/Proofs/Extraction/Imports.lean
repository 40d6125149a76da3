/-
  CodeAtlas.Proofs.Extraction.Imports — what `use` declarations import.

  A clause imports its path under an alias, the last segment of the path if none is written.  Its
  tree is described here by what is left of it when the words, signs and comments are taken out: a
  path, and behind it an alias in one of three shapes.  A group puts a common path in front of the
  paths of its clauses, and nothing else: it imports what its clauses import one by one.

  Main results:
    * `expand_of_split` — what a written name stands for, segment by segment.
    * `read?_of_spelled` — a clause is read off each of its shapes.
    * `afterUse_of_grouped`, `afterUse_of_flat` — the scope after a `use` declaration.
    * `afterUse_grouped_eq_flat` — grouped and flat declarations import the same.
-/
import Mathlib.Data.List.Forall2
import CodeAtlas.Extraction.Imports
import CodeAtlas.Proofs.Path
import CodeAtlas.Proofs.Segment
import CodeAtlas.Proofs.Table
import CodeAtlas.Proofs.Tree

namespace CodeAtlas

/-! ## §1. Written names -/

namespace Chars

/-- The cut at the first separator, by the parts between all of them. -/
theorem splitOnce_of_split {sep : Char} {s first : List Char} {rest : List (List Char)}
    (h : split sep s = first :: rest) :
    splitOnce sep s = if rest = [] then none else some (first, [sep].intercalate rest) := by
  induction s generalizing first with
  | nil =>
    unfold split at h
    obtain ⟨-, rfl⟩ := List.cons.inj h
    rfl
  | cons c s ih =>
    unfold split at h
    unfold splitOnce
    by_cases hc : c = sep
    · rw [if_pos hc] at h ⊢
      obtain ⟨rfl, rfl⟩ := List.cons.inj h
      rw [if_neg (split_ne_nil sep s), intercalate_split]
    · rw [if_neg hc] at h ⊢
      cases hparts : split sep s with
      | nil => exact absurd hparts (split_ne_nil sep s)
      | cons w ws =>
        rw [hparts] at h
        obtain ⟨rfl, rfl⟩ := List.cons.inj h
        rw [ih hparts]
        by_cases hws : ws = []
        · simp [hws]
        · simp [hws]

end Chars

namespace Text

/-- A text that does not start with a backslash has another first character, if it has one. -/
theorem head_ne_of_unrooted {s : String} (h : startsWith "\\" s = false) {c : Char}
    {rest : List Char} (hchars : s.toList = c :: rest) : c ≠ '\\' := by
  intro hc
  have hroot : startsWith "\\" s = true := by
    refine startsWith_iff.mpr ⟨String.ofList rest, ?_⟩
    apply String.toList_inj.mp
    simp [hchars, hc]
  rw [hroot] at h
  exact absurd h (by decide)

end Text

namespace Scope

theorem expand_rooted (s : Scope) (rest : String) : s.expand ("\\" ++ rest) = some rest := by
  unfold expand
  simp

theorem expand_relative (s : Scope) (rest : String) :
    s.expand ("namespace\\" ++ rest) = some (s.qualify rest) := by
  have hrest : Text.dropPrefix? "namespace\\" ("namespace\\" ++ rest) = some rest :=
    Text.dropPrefix?_eq_some_iff.mpr rfl
  unfold expand
  simp [hrest]

/-- **What a written name stands for.**  A first segment that is an alias is replaced by the import;
any other name lies in the namespace in force. -/
theorem expand_of_split (s : Scope) {written first : String} {rest : List String}
    (unrooted : Text.startsWith "\\" written = false)
    (absolute : Text.startsWith "namespace\\" written = false)
    (hsplit : Text.split '\\' written = first :: rest) :
    s.expand written = ((s.imports.get? (Text.lowerAscii first)).map
      fun path => "\\".intercalate (path :: rest)).or
        (if s.current.isEmpty then none else some (s.qualify written)) := by
  obtain ⟨head, tail, hparts, rfl, rfl⟩ : ∃ head tail,
      Chars.split '\\' written.toList = head :: tail ∧ String.ofList head = first ∧
        tail.map String.ofList = rest := by
    unfold Text.split at hsplit
    exact List.map_eq_cons_iff.mp hsplit
  have hnot : Text.dropPrefix? "namespace\\" written = none := by
    unfold Text.startsWith at absolute
    simpa using absolute
  unfold expand
  split
  next tail hchars => exact absurd rfl (Text.head_ne_of_unrooted unrooted hchars)
  next =>
    rw [hnot, Chars.splitOnce_of_split hparts]
    cases tail with
    | nil =>
      -- there is no backslash, and the only segment is the whole name
      have hwhole : String.ofList head = written := by
        have hjoined := Chars.intercalate_split '\\' written.toList
        rw [hparts, List.intercalate_singleton] at hjoined
        rw [hjoined, String.ofList_toList]
      rw [hwhole]
      cases himport : s.imports.get? (Text.lowerAscii written) <;> simp [himport]
    | cons second tail =>
      have hjoined : ∀ path : String,
          path ++ "\\" ++ String.ofList (['\\'].intercalate (second :: tail)) =
            "\\".intercalate (path :: (second :: tail).map String.ofList) := by
        intro path
        apply String.toList_inj.mp
        rw [String.toList_intercalate]
        simp [List.intercalate_cons_of_ne_nil, Function.comp_def]
      cases himport : s.imports.get? (Text.lowerAscii (String.ofList head)) with
      | none => simp [himport]
      | some path =>
        simp only [himport, reduceCtorEq, if_false, Option.map_some, Option.some_or, hjoined]

end Scope

/-! ## §2. Paths and aliases -/

namespace Name

theorem dropRoot_of_unrooted {name : String} (h : Text.startsWith "\\" name = false) :
    dropRoot name = name := by
  apply String.toList_inj.mp
  unfold dropRoot Text.mapChars
  rw [String.toList_ofList]
  cases hchars : name.toList with
  | nil => rfl
  | cons c rest =>
    simp [Text.head_ne_of_unrooted h hchars]

theorem dropRoot_root (name : String) : dropRoot ("\\" ++ name) = dropRoot name := by
  unfold dropRoot Text.mapChars
  simp

theorem lastPart_append (front path : String) :
    lastPart (front ++ "\\" ++ path) = lastPart path := by
  have hchars : (front ++ "\\" ++ path).toList = front.toList ++ '\\' :: path.toList := by simp
  unfold lastPart Text.mapChars
  rw [hchars, Chars.afterLast_append_cons (by decide)]

end Name

namespace Text

theorem unrooted_append {s : String} (nonempty : s ≠ "") (h : startsWith "\\" s = false)
    (rest : String) : startsWith "\\" (s ++ rest) = false := by
  cases hchars : s.toList with
  | nil => exact absurd (String.toList_eq_nil_iff.mp hchars) nonempty
  | cons c cs =>
    apply Bool.eq_false_iff.mpr
    intro hroot
    obtain ⟨tail, htail⟩ := startsWith_iff.mp hroot
    have hfirst : c :: (cs ++ rest.toList) = '\\' :: tail.toList := by
      rw [← List.cons_append, ← hchars, ← String.toList_append, htail]
      simp
    exact head_ne_of_unrooted h hchars (List.cons.inj hfirst).1

end Text

namespace ImportClause

/-- The alias of a clause, the last segment of its path if none is written. -/
def called (c : ImportClause) : String := c.shortName.getD (Name.lastPart c.path)

/-- The clause that writes a longer path and the same alias. -/
def below (front : String) (c : ImportClause) : ImportClause :=
  ⟨front ++ "\\" ++ c.path, c.shortName⟩

variable {group : String}

theorem fullPath_of_group (nonempty : group ≠ "") (unrooted : Text.startsWith "\\" group = false)
    (c : ImportClause) : c.fullPath group = group ++ "\\" ++ c.path := by
  unfold fullPath
  rw [if_neg (by simpa using nonempty), Name.dropRoot_of_unrooted unrooted]

/-- A leading backslash makes no difference to a path that is written in full. -/
theorem fullPath_below (nonempty : group ≠ "") (unrooted : Text.startsWith "\\" group = false)
    (c : ImportClause) {front : String} (hfront : front = group ∨ front = "\\" ++ group) :
    (c.below front).fullPath "" = group ++ "\\" ++ c.path := by
  have hkept : Name.dropRoot (group ++ "\\" ++ c.path) = group ++ "\\" ++ c.path := by
    apply Name.dropRoot_of_unrooted
    rw [String.append_assoc]
    exact Text.unrooted_append nonempty unrooted _
  show Name.dropRoot (front ++ "\\" ++ c.path) = _
  rcases hfront with rfl | rfl
  · exact hkept
  · rw [String.append_assoc, String.append_assoc, Name.dropRoot_root, ← String.append_assoc, hkept]

end ImportClause

namespace Scope

/-- Imports a clause whose path lies below another. -/
def importBelow (group : String) (s : Scope) (c : ImportClause) : Scope :=
  s.importAs c.called (group ++ "\\" ++ c.path)

variable {group : String}

/-- Clauses with the same full path and the same written alias import the same. -/
theorem importClause_of_fullPath (s : Scope) {c c' : ImportClause} {front : String}
    (hpath : c'.fullPath front = group ++ "\\" ++ c.path) (hshort : c'.shortName = c.shortName) :
    s.importClause front c' = s.importBelow group c := by
  unfold importClause importBelow ImportClause.called
  dsimp only
  rw [hpath, hshort, Name.lastPart_append]

/-- An import is found under its alias. -/
theorem get?_importBelow_self (group : String) (s : Scope) {c : ImportClause} (h : c.called ≠ "") :
    (s.importBelow group c).imports.get? (Text.lowerAscii c.called) =
      some (group ++ "\\" ++ c.path) := by
  have hfilled : ((group ++ "\\" ++ c.path).isEmpty || c.called.isEmpty) = false := by
    simp [h]
  unfold importBelow importAs
  rw [if_neg (by simp [hfilled])]
  simp

/-- An import leaves other aliases alone. -/
theorem get?_importBelow_of_ne (group : String) (s : Scope) {c : ImportClause} {k : String}
    (h : Text.lowerAscii c.called ≠ k) :
    (s.importBelow group c).imports.get? k = s.imports.get? k := by
  unfold importBelow importAs
  split
  next => rfl
  next => simp [Ne.symm h]

theorem get?_foldl_importBelow_of_ne (group : String) (s : Scope) {cs : List ImportClause}
    {k : String} (h : ∀ c ∈ cs, Text.lowerAscii c.called ≠ k) :
    (cs.foldl (importBelow group) s).imports.get? k = s.imports.get? k := by
  induction cs generalizing s with
  | nil => rfl
  | cons c cs ih =>
    obtain ⟨hc, hcs⟩ := List.forall_mem_cons.mp h
    rw [List.foldl_cons, ih _ hcs, get?_importBelow_of_ne group s hc]

/-- The last import of an alias counts. -/
theorem get?_foldl_importBelow_last (group : String) (s : Scope) (before : List ImportClause)
    {c : ImportClause} {after : List ImportClause} (h : c.called ≠ "")
    (last : ∀ d ∈ after, Text.lowerAscii d.called ≠ Text.lowerAscii c.called) :
    ((before ++ c :: after).foldl (importBelow group) s).imports.get? (Text.lowerAscii c.called) =
      some (group ++ "\\" ++ c.path) := by
  rw [List.foldl_append, List.foldl_cons, get?_foldl_importBelow_of_ne group _ last,
    get?_importBelow_self group _ h]

end Scope

/-! ## §3. Trees of clauses -/

namespace Node

/-- Whether a node is a word or sign of a `use` declaration, or a comment.  The word `as` is not
among them: it tells an alias from a path. -/
def isFiller (n : Node) : Bool :=
  ["use", "\\", "\x7b", ",", "\x7d", ";", "comment"].contains n.kind && n.field.isEmpty &&
    n.children.isEmpty

/-- The children that carry the contents of a `use` declaration or a clause. -/
def parts (n : Node) : List Node := n.children.filter (!·.isFiller)

/-- What no filler has is looked for among the parts. -/
theorem filter_children {p : Node → Bool} (h : ∀ k : Node, k.isFiller = true → p k = false)
    (n : Node) : n.children.filter p = n.parts.filter p := by
  unfold parts
  rw [List.filter_filter]
  congr 1
  funext k
  cases hk : k.isFiller with
  | true => simp [h k hk]
  | false => simp

theorem find?_children {p : Node → Bool} (h : ∀ k : Node, k.isFiller = true → p k = false)
    (n : Node) : n.children.find? p = n.parts.find? p := by
  rw [← List.head?_filter, filter_children h, List.head?_filter]

/-- The same behind the first node that `q` stops at. -/
theorem find?_dropWhile_children {p q : Node → Bool}
    (h : ∀ k : Node, k.isFiller = true → p k = false ∧ q k = true) (n : Node) :
    (n.children.dropWhile q).find? p = (n.parts.dropWhile q).find? p := by
  unfold parts
  induction n.children with
  | nil => rfl
  | cons k rest ih =>
    cases hk : k.isFiller with
    | true =>
      rw [List.dropWhile_cons_of_pos (h k hk).2, ih, List.filter_cons_of_neg (by simp [hk])]
    | false =>
      rw [List.filter_cons_of_pos (by simp [hk])]
      by_cases hq : q k = true
      · rw [List.dropWhile_cons_of_pos hq, List.dropWhile_cons_of_pos hq, ih]
      · -- all of the rest is searched
        have hrest : rest.find? p = (rest.filter (!·.isFiller)).find? p :=
          find?_children (fun j hj => (h j hj).1) (.mk default rest)
        rw [List.dropWhile_cons_of_neg hq, List.dropWhile_cons_of_neg hq, List.find?_cons,
          List.find?_cons, hrest]

theorem isFiller_kind {k : Node} (h : k.isFiller = true) {kind : String}
    (hkind : kind ∉ ["use", "\\", "\x7b", ",", "\x7d", ";", "comment"]) : k.kind ≠ kind := by
  intro heq
  unfold isFiller at h
  simp only [Bool.and_eq_true, List.contains_iff_mem] at h
  rw [heq] at h
  exact hkind h.1.1

theorem isFiller_field {k : Node} (h : k.isFiller = true) : k.field = "" := by
  unfold isFiller at h
  simp only [Bool.and_eq_true, String.isEmpty_iff] at h
  exact h.1.2

/-- Whether a node writes a path. -/
def isPath (n : Node) : Bool := n.isName || n.kind == "namespace_name"

theorem isPath_of_filler {k : Node} (h : k.isFiller = true) : k.isPath = false := by
  simp [isPath, isName, isFiller_kind h]

end Node

namespace ImportClause

/-- How an alias is written behind a path: not at all, behind the word `as`, in a field of its own
or not, or in a node that holds the word and the alias. -/
inductive SpelledAlias (r : Reader) : List Node → Option String → Prop where
  | absent : SpelledAlias r [] none
  | behindAs {word short : Node} (hword : word.kind = "as") (hfield : word.field = "")
      (hshort : short.kind = "name") : SpelledAlias r [word, short] (some (r.text short))
  | inClause {holder word short : Node} (hholder : holder.kind = "namespace_aliasing_clause")
      (hfield : holder.field = "") (hparts : holder.parts = [word, short])
      (hword : word.kind = "as") (hshort : short.kind = "name") :
      SpelledAlias r [holder] (some (r.text short))

/-- A node is the tree of a clause: a path, and behind it the alias. -/
structure Spelled (r : Reader) (n : Node) (c : ImportClause) : Prop where
  clause : isClause n = true
  contents : ∃ path rest, n.parts = path :: rest ∧ path.isPath = true ∧ path.field = "" ∧
    r.text path = c.path ∧ SpelledAlias r rest c.shortName

/-- The alias is found in each of its shapes. -/
theorem aliasNode?_of_spelled {r : Reader} {n path : Node} {rest : List Node}
    {short : Option String} (hparts : n.parts = path :: rest) (hpath : path.isPath = true)
    (hfield : path.field = "") (h : SpelledAlias r rest short) :
    (aliasNode? n).map r.text = short := by
  have hchild : n.child? "alias" = n.parts.find? (·.field == "alias") :=
    Node.find?_children (fun k hk => by simp [Node.isFiller_field hk]) n
  have hheld : n.children.find? (·.kind == "namespace_aliasing_clause") =
      n.parts.find? (·.kind == "namespace_aliasing_clause") :=
    Node.find?_children (fun k hk => by simp [Node.isFiller_kind hk]) n
  have hbehind : (n.children.dropWhile (·.kind != "as")).find? (·.kind == "name") =
      (n.parts.dropWhile (·.kind != "as")).find? (·.kind == "name") :=
    Node.find?_dropWhile_children (fun k hk => by simp [Node.isFiller_kind hk]) n
  have hkind : path.kind ≠ "namespace_aliasing_clause" ∧ path.kind ≠ "as" := by
    unfold Node.isPath Node.isName at hpath
    simp only [Bool.or_eq_true, beq_iff_eq] at hpath
    rcases hpath with (h | h) | h <;> simp [h]
  unfold aliasNode?
  rw [hchild, hheld, hbehind, hparts]
  cases h with
  | absent => simp [hfield, hkind]
  | @behindAs word name hword hnofield hname =>
    by_cases hown : name.field = "alias"
    · simp [hfield, hnofield, hown]
    · simp [hfield, hnofield, hown, hkind, hword, hname]
  | @inClause holder word name hholder hnofield hheldparts hword hname =>
    have hinner : holder.children.find? (·.kind == "name") = some name := by
      rw [Node.find?_children (fun k hk => by simp [Node.isFiller_kind hk]) holder, hheldparts]
      simp [hword, hname]
    simp [hfield, hnofield, hkind, hholder, hinner]

/-- A clause is read off its tree. -/
theorem read?_of_spelled {r : Reader} {n : Node} {c : ImportClause} (h : Spelled r n c) :
    read? r n = some c := by
  obtain ⟨path, rest, hparts, hpath, hfield, htext, halias⟩ := h.contents
  have hfound : n.children.find? Node.isPath = some path := by
    rw [Node.find?_children (fun k hk => Node.isPath_of_filler hk) n, hparts]
    simp [hpath]
  unfold read?
  show (n.children.find? Node.isPath).map _ = some c
  rw [hfound, Option.map_some, aliasNode?_of_spelled hparts hpath hfield halias, htext]

end ImportClause

/-! ## §4. Trees of declarations -/

namespace Node

open ImportClause

/-- Fillers hold no clauses. -/
theorem outermostAll_children (n : Node) :
    outermostAll isClause n.children = n.parts.flatMap (outermost isClause) := by
  rw [outermostAll_eq]
  unfold parts
  induction n.children with
  | nil => rfl
  | cons k rest ih =>
    cases hk : k.isFiller with
    | false => rw [List.filter_cons_of_pos (by simp [hk]), List.flatMap_cons, List.flatMap_cons, ih]
    | true =>
      have hnone : outermost isClause k = [] := by
        have hclause : isClause k = false := by simp [isClause, isFiller_kind hk]
        have hleaf : k.children = [] := by
          unfold isFiller at hk
          simp only [Bool.and_eq_true, List.isEmpty_iff] at hk
          exact hk.2
        cases k with
        | mk tag children =>
          rw [show children = [] from hleaf] at hclause ⊢
          rw [outermost, if_neg (by simp [hclause]), outermostAll]
      rw [List.filter_cons_of_neg (by simp [hk]), List.flatMap_cons, hnone, List.nil_append, ih]

theorem outermost_of_clause {n : Node} (h : isClause n = true) : n.outermost isClause = [n] := by
  cases n with
  | mk tag children => rw [outermost, if_pos h]

theorem outermost_of_not_clause {n : Node} (h : isClause n = false) :
    n.outermost isClause = n.parts.flatMap (outermost isClause) := by
  cases n with
  | mk tag children =>
    rw [outermost, if_neg (by simp [h])]
    exact outermostAll_children (.mk tag children)

theorem outermost_eq_nil {n : Node} (h : ∀ k ∈ n.preorder, isClause k = false) :
    n.outermost isClause = [] := by
  induction n using induction_children with
  | node n ih =>
    rw [outermost_of_not_clause (h n (mem_preorder_self n)), List.flatMap_eq_nil_iff]
    intro c hc
    have hchild : c ∈ n.children := List.mem_of_mem_filter hc
    exact ih c hchild fun k hk => h k (mem_preorder_of_child hchild hk)

end Node

namespace ImportClause

/-- A node is the tree of the clauses of a group: its path and the clauses in its body. -/
structure Grouped (r : Reader) (decl : Node) (group : String) (cs : List ImportClause) : Prop where
  kind : decl.kind = "namespace_use_declaration"
  contents : ∃ base body, decl.parts = [base, body] ∧ base.kind = "namespace_name" ∧
    (∀ k ∈ base.preorder, isClause k = false) ∧ r.text base = group ∧
      body.kind = "namespace_use_group" ∧ List.Forall₂ (Spelled r) body.parts cs

/-- A node is the tree of a declaration that imports one class. -/
structure Flat (r : Reader) (decl : Node) (c : ImportClause) : Prop where
  kind : decl.kind = "namespace_use_declaration"
  contents : ∃ clause, decl.parts = [clause] ∧ Spelled r clause c

theorem outermost_parts_of_spelled {r : Reader} {ns : List Node} {cs : List ImportClause}
    (h : List.Forall₂ (Spelled r) ns cs) :
    (ns.flatMap (Node.outermost isClause)).filterMap (read? r) = cs := by
  induction h with
  | nil => rfl
  | cons hspelled _ ih =>
    rw [List.flatMap_cons, Node.outermost_of_clause hspelled.clause, List.singleton_append,
      List.filterMap_cons, read?_of_spelled hspelled, ih]

end ImportClause

namespace Scope

open ImportClause

/-- The scope after a declaration, by its parts. -/
theorem afterUse_of_parts {r : Reader} {decl : Node} {group : String} {cs : List ImportClause}
    (unmarked : ∀ k ∈ decl.parts, k.kind ≠ "function" ∧ k.kind ≠ "const")
    (hgroup : ((decl.parts.filter (·.kind == "namespace_name")).getLast?.map r.text).getD "" =
      group)
    (hclauses : (decl.parts.flatMap (Node.outermost isClause)).filterMap (read? r) = cs)
    (s : Scope) : s.afterUse r decl = cs.foldl (importClause group) s := by
  have hmarks : (decl.children.any fun n => n.kind == "function" || n.kind == "const") = false := by
    rw [List.any_eq_false]
    intro k hk
    cases hfiller : k.isFiller with
    | true => simp [Node.isFiller_kind hfiller]
    | false =>
      have hpart : k ∈ decl.parts := List.mem_filter.mpr ⟨hk, by simp [hfiller]⟩
      simp [unmarked k hpart]
  have hnames : decl.children.filter (·.kind == "namespace_name") =
      decl.parts.filter (·.kind == "namespace_name") :=
    Node.filter_children (fun k hk => by simp [Node.isFiller_kind hk]) decl
  unfold afterUse
  rw [if_neg (by simp [hmarks]), hnames, hgroup, Node.outermostAll_children]
  dsimp only
  rw [hclauses]

theorem afterUse_of_grouped {r : Reader} {decl : Node} {group : String} {cs : List ImportClause}
    (h : Grouped r decl group cs) (s : Scope) :
    s.afterUse r decl = cs.foldl (importClause group) s := by
  obtain ⟨base, body, hparts, hbase, hplain, htext, hbody, hspelled⟩ := h.contents
  apply afterUse_of_parts
  · rw [hparts]
    simp [hbase, hbody]
  · rw [hparts]
    simp [hbase, hbody, htext]
  · have hclauses : body.outermost isClause = body.parts.flatMap (Node.outermost isClause) :=
      Node.outermost_of_not_clause (by simp [isClause, hbody])
    rw [hparts, List.flatMap_cons, Node.outermost_eq_nil hplain, List.nil_append, List.flatMap_cons,
      List.flatMap_nil, List.append_nil, hclauses, outermost_parts_of_spelled hspelled]

theorem afterUse_of_flat {r : Reader} {decl : Node} {c : ImportClause} (h : Flat r decl c)
    (s : Scope) : s.afterUse r decl = s.importClause "" c := by
  obtain ⟨clause, hparts, hspelled⟩ := h.contents
  have hkind : clause.kind = "namespace_use_clause" ∨
      clause.kind = "namespace_use_group_clause" := by
    have hclause := hspelled.clause
    unfold isClause at hclause
    simpa using hclause
  have hrun : s.afterUse r decl = [c].foldl (importClause "") s := by
    apply afterUse_of_parts
    · rw [hparts]
      rcases hkind with h | h <;> simp [h]
    · rw [hparts]
      rcases hkind with h | h <;> simp [h]
    · rw [hparts]
      exact outermost_parts_of_spelled (.cons hspelled .nil)
  rw [hrun]
  rfl

/-! ## §5. Groups -/

/-- What a scope has gained by the clauses of a group: the last clause of each alias, whatever the
scope had there, and nothing else.  Names are expanded by it. -/
structure Imported (group : String) (cs : List ImportClause) (s s' : Scope) : Prop where
  last : ∀ before c after, cs = before ++ c :: after → c.called ≠ "" →
    (∀ d ∈ after, ¬ Text.sameAscii d.called c.called) →
      s'.imports.get? (Text.lowerAscii c.called) = some (group ++ "\\" ++ c.path)
  others : ∀ short, (∀ c ∈ cs, ¬ Text.sameAscii c.called short) →
    s'.imports.get? (Text.lowerAscii short) = s.imports.get? (Text.lowerAscii short)
  expands : ∀ written first rest short path, Text.startsWith "\\" written = false →
    Text.startsWith "namespace\\" written = false → Text.split '\\' written = first :: rest →
      Text.sameAscii first short → s'.imports.get? (Text.lowerAscii short) = some path →
        s'.expand written = some ("\\".intercalate (path :: rest))

theorem imported_foldl (group : String) (cs : List ImportClause) (s : Scope) :
    Imported group cs s (cs.foldl (importBelow group) s) where
  last := by
    intro before c after hcs hcalled hlast
    rw [hcs]
    apply get?_foldl_importBelow_last group s before hcalled
    intro d hd
    simpa [Text.sameAscii] using hlast d hd
  others := by
    intro short hothers
    apply get?_foldl_importBelow_of_ne
    intro c hc
    simpa [Text.sameAscii] using hothers c hc
  expands := by
    intro written first rest short path hroot hrelative hsplit hshort himport
    have hkey : Text.lowerAscii first = Text.lowerAscii short := by
      simpa [Text.sameAscii] using hshort
    rw [expand_of_split _ hroot hrelative hsplit, hkey, himport]
    rfl

/-- **Grouped and flat imports agree.**  A group imports what its clauses import one after the
other when each writes its path in full, with a leading backslash or without. -/
theorem afterUse_grouped_eq_flat (r r' : Reader) (s : Scope) {decl : Node} {group : String}
    {cs : List ImportClause} {flats : List Node} (nonempty : group ≠ "")
    (unrooted : Text.startsWith "\\" group = false) (hgrouped : Grouped r decl group cs)
    (hflats : List.Forall₂ (fun n c => Flat r' n (c.below group) ∨
      Flat r' n (c.below ("\\" ++ group))) flats cs) :
    s.afterUse r decl = flats.foldl (afterUse r') s ∧ Imported group cs s (s.afterUse r decl) := by
  have hdecl : s.afterUse r decl = cs.foldl (importBelow group) s := by
    have hstep : importClause group = importBelow group := by
      funext s c
      exact importClause_of_fullPath s (c.fullPath_of_group nonempty unrooted) rfl
    rw [afterUse_of_grouped hgrouped, hstep]
  have hrun : flats.foldl (afterUse r') s = cs.foldl (importBelow group) s := by
    clear hdecl hgrouped
    induction hflats generalizing s with
    | nil => rfl
    | @cons n c flats cs hflat _ ih =>
      have hstep : s.afterUse r' n = s.importBelow group c := by
        rcases hflat with h | h
        · rw [afterUse_of_flat h,
            importClause_of_fullPath s (c.fullPath_below nonempty unrooted (.inl rfl)) rfl]
        · rw [afterUse_of_flat h,
            importClause_of_fullPath s (c.fullPath_below nonempty unrooted (.inr rfl)) rfl]
      rw [List.foldl_cons, List.foldl_cons, hstep, ih]
  rw [hrun, hdecl]
  exact ⟨rfl, imported_foldl group cs s⟩

/-- A group whose second alias is the first up to case, and its clauses one by one. -/
def groupReader : Reader :=
  ⟨"src/Test.php", "<?php\nuse A\\\x7bB, C\\D as b\x7d;\n".toList ++
    "use A\\B;\nuse \\A\\C\\D as b;\n".toList, false⟩

/-- The tree of the group. -/
def groupedTree : Node :=
  .mk ⟨"namespace_use_declaration", true, false, "", 6, 26, 1, 1⟩ [
    .mk ⟨"use", false, false, "", 6, 9, 1, 1⟩ [],
    .mk ⟨"namespace_name", true, false, "", 10, 11, 1, 1⟩ [
      .mk ⟨"name", true, false, "", 10, 11, 1, 1⟩ []],
    .mk ⟨"\\", false, false, "", 11, 12, 1, 1⟩ [],
    .mk ⟨"namespace_use_group", true, false, "body", 12, 25, 1, 1⟩ [
      .mk ⟨"\x7b", false, false, "", 12, 13, 1, 1⟩ [],
      .mk ⟨"namespace_use_clause", true, false, "", 13, 14, 1, 1⟩ [
        .mk ⟨"name", true, false, "", 13, 14, 1, 1⟩ []],
      .mk ⟨",", false, false, "", 14, 15, 1, 1⟩ [],
      .mk ⟨"namespace_use_clause", true, false, "", 16, 24, 1, 1⟩ [
        .mk ⟨"qualified_name", true, false, "", 16, 19, 1, 1⟩ [
          .mk ⟨"namespace_name", true, false, "prefix", 16, 17, 1, 1⟩ [
            .mk ⟨"name", true, false, "", 16, 17, 1, 1⟩ []],
          .mk ⟨"\\", false, false, "prefix", 17, 18, 1, 1⟩ [],
          .mk ⟨"name", true, false, "", 18, 19, 1, 1⟩ []],
        .mk ⟨"as", false, false, "", 20, 22, 1, 1⟩ [],
        .mk ⟨"name", true, false, "alias", 23, 24, 1, 1⟩ []],
      .mk ⟨"\x7d", false, false, "", 24, 25, 1, 1⟩ []],
    .mk ⟨";", false, false, "", 25, 26, 1, 1⟩ []]

/-- The trees of its clauses, the second with a leading backslash. -/
def flatTrees : List Node := [
  .mk ⟨"namespace_use_declaration", true, false, "", 27, 35, 2, 2⟩ [
    .mk ⟨"use", false, false, "", 27, 30, 2, 2⟩ [],
    .mk ⟨"namespace_use_clause", true, false, "", 31, 34, 2, 2⟩ [
      .mk ⟨"qualified_name", true, false, "", 31, 34, 2, 2⟩ [
        .mk ⟨"namespace_name", true, false, "prefix", 31, 32, 2, 2⟩ [
          .mk ⟨"name", true, false, "", 31, 32, 2, 2⟩ []],
        .mk ⟨"\\", false, false, "prefix", 32, 33, 2, 2⟩ [],
        .mk ⟨"name", true, false, "", 33, 34, 2, 2⟩ []]],
    .mk ⟨";", false, false, "", 34, 35, 2, 2⟩ []],
  .mk ⟨"namespace_use_declaration", true, false, "", 36, 52, 3, 3⟩ [
    .mk ⟨"use", false, false, "", 36, 39, 3, 3⟩ [],
    .mk ⟨"namespace_use_clause", true, false, "", 40, 51, 3, 3⟩ [
      .mk ⟨"qualified_name", true, false, "", 40, 46, 3, 3⟩ [
        .mk ⟨"\\", false, false, "prefix", 40, 41, 3, 3⟩ [],
        .mk ⟨"namespace_name", true, false, "prefix", 41, 44, 3, 3⟩ [
          .mk ⟨"name", true, false, "", 41, 42, 3, 3⟩ [],
          .mk ⟨"\\", false, false, "", 42, 43, 3, 3⟩ [],
          .mk ⟨"name", true, false, "", 43, 44, 3, 3⟩ []],
        .mk ⟨"\\", false, false, "prefix", 44, 45, 3, 3⟩ [],
        .mk ⟨"name", true, false, "", 45, 46, 3, 3⟩ []],
      .mk ⟨"as", false, false, "", 47, 49, 3, 3⟩ [],
      .mk ⟨"name", true, false, "alias", 50, 51, 3, 3⟩ []],
    .mk ⟨";", false, false, "", 51, 52, 3, 3⟩ []]]

theorem afterUse_grouped_eq_flat_case :
    Grouped groupReader groupedTree "A" [⟨"B", none⟩, ⟨"C\\D", some "b"⟩] ∧
      ({} : Scope).afterUse groupReader groupedTree =
        flatTrees.foldl (afterUse groupReader) {} ∧
      (({} : Scope).afterUse groupReader groupedTree).expand "B\\E" = some "A\\C\\D\\E" := by
  have hgrouped : Grouped groupReader groupedTree "A" [⟨"B", none⟩, ⟨"C\\D", some "b"⟩] := by
    refine ⟨by decide +kernel, _, _, rfl, by decide +kernel, by decide +kernel, by decide +kernel,
      by decide +kernel, ?_⟩
    refine .cons ⟨by decide +kernel, _, _, rfl, by decide +kernel, by decide +kernel,
      by decide +kernel, .absent⟩ (.cons ⟨by decide +kernel, _, _, rfl, by decide +kernel,
        by decide +kernel, by decide +kernel, ?_⟩ .nil)
    exact .behindAs rfl rfl rfl
  have hflats : List.Forall₂ (fun n c => Flat groupReader n (ImportClause.below "A" c) ∨
      Flat groupReader n (ImportClause.below ("\\" ++ "A") c)) flatTrees
        [⟨"B", none⟩, ⟨"C\\D", some "b"⟩] := by
    refine .cons (.inl ⟨by decide +kernel, _, rfl, by decide +kernel, _, _, rfl, by decide +kernel,
      by decide +kernel, by decide +kernel, .absent⟩) (.cons (.inr ⟨by decide +kernel, _, rfl,
        by decide +kernel, _, _, rfl, by decide +kernel, by decide +kernel, by decide +kernel, ?_⟩)
          .nil)
    exact .behindAs rfl rfl rfl
  obtain ⟨hsame, himported⟩ := afterUse_grouped_eq_flat groupReader groupReader {} (by decide)
    (by decide +kernel) hgrouped hflats
  -- the second clause has taken the place of the first
  have hlast := himported.last [⟨"B", none⟩] ⟨"C\\D", some "b"⟩ [] rfl (by decide)
    (fun _ h => absurd h List.not_mem_nil)
  refine ⟨hgrouped, hsame, ?_⟩
  rw [himported.expands "B\\E" "B" ["E"] "b" _ (by decide +kernel) (by decide +kernel)
    (by decide +kernel) (by decide +kernel) hlast]
  decide +kernel

end Scope
end CodeAtlas
