/-
  CodeAtlas.Proofs.Extraction.DocAttachment — which comment documents a declaration.

  The comments that a declaration can have are found by stepping back over comments, as long as each
  ends on the row where the next item starts or on the row above.  The first of them that opens with
  `/**` is taken.  For a closed comment this comes to the same as being a block, `/**` and `*/` with
  something or nothing between them, with one exception: in `/**/` the two delimiters share a star.
  It is taken for documentation, and what is left without the opening is the text `/`.

  Main results:
    * `documents_attached` — ONE induction over the comments in front of an item: the nearest one
      that opens with `/**`, or none.
    * `Opens.isBlock_or_eq_hollow` — the closed comments that open with `/**`.
    * `sited_statement` — every declaration stands at a place of the tree, with the siblings that
      are in front of it there.
    * `documented_ofTree` — the documentation of ALL declarations of a tree.
-/
import CodeAtlas.Proofs.Extraction.Origin
import CodeAtlas.Proofs.Segment

namespace CodeAtlas

/-! ## §1. Blocks -/

/-- A text with an opening and a closing that do not overlap. -/
def Enclosed (opening closing text : String) : Prop := ∃ inside, text = opening ++ inside ++ closing

theorem enclosed_iff {opening closing text : String} : Enclosed opening closing text ↔
    opening.toList <+: text.toList ∧ closing.toList <:+ text.toList.drop opening.toList.length := by
  constructor
  · rintro ⟨inside, rfl⟩
    rw [String.toList_append, String.toList_append, List.append_assoc, List.drop_left]
    exact ⟨List.prefix_append _ _, List.suffix_append _ _⟩
  · rintro ⟨⟨rest, hrest⟩, inside, hinside⟩
    rw [← hrest, List.drop_left] at hinside
    refine ⟨String.ofList inside, ?_⟩
    rw [← String.toList_inj, String.toList_append, String.toList_append, String.toList_ofList,
      List.append_assoc, hinside, hrest]

instance (opening closing text : String) : Decidable (Enclosed opening closing text) :=
  decidable_of_iff _ enclosed_iff.symm

namespace PhpDoc

/-- A documentation block. -/
def IsBlock (text : String) : Prop := Enclosed "/**" "*/" text

instance (text : String) : Decidable (IsBlock text) :=
  inferInstanceAs (Decidable (Enclosed "/**" "*/" text))

/-- The comment whose delimiters overlap: it opens as a block does, and then only a slash is
left. -/
def hollow : String := "/**/"

/-- A text opens as documentation does. -/
def Opens (text : String) : Prop := Text.startsWith "/**" text = true

theorem IsBlock.opens {text : String} (h : IsBlock text) : Opens text := by
  obtain ⟨inside, rfl⟩ := h
  exact Text.startsWith_iff.mpr ⟨inside ++ "*/", String.append_assoc⟩

/-- A closed comment that opens as documentation does is a block or hollow. -/
theorem Opens.isBlock_or_eq_hollow {text : String} (opens : Opens text)
    (closed : Enclosed "/*" "*/" text) : IsBlock text ∨ text = hollow := by
  obtain ⟨rest, rfl⟩ := Text.startsWith_iff.mp opens
  obtain ⟨inside, hinside⟩ := closed
  have hchars : '*' :: rest.toList = inside.toList ++ ['*', '/'] := by
    have h := congrArg String.toList hinside
    rw [String.toList_append, String.toList_append, String.toList_append, List.append_assoc] at h
    have hsplit :
        ['/', '*'] ++ ('*' :: rest.toList) = ['/', '*'] ++ (inside.toList ++ ['*', '/']) := h
    exact List.append_cancel_left hsplit
  -- the star behind `/*` is the first character inside, or that of the closing
  cases hcs : inside.toList with
  | nil =>
    rw [hcs] at hchars
    have hrest : rest = "/" := String.toList_inj.mp (List.cons.inj hchars).2
    right
    rw [hrest]
    rfl
  | cons c cs =>
    rw [hcs] at hchars
    have hrest : rest = String.ofList cs ++ "*/" := by
      rw [← String.toList_inj, String.toList_append, String.toList_ofList]
      exact (List.cons.inj hchars).2
    left
    exact ⟨String.ofList cs, by rw [hrest, String.append_assoc]⟩

end PhpDoc

/-! ## §2. Stepping back over comments -/

/-- A node ends on the row where the next item starts, or on the row above. -/
def Node.Adjoins (n : Node) (row : Nat) : Prop := n.endRow = row ∨ n.endRow + 1 = row

namespace PhpDoc

/-- Comments in front of an item that starts at a row, nearest first, none of them apart from the
next. -/
inductive Leads : Nat → List Node → Prop
  | nil {row : Nat} : Leads row []
  | cons {row : Nat} {s : Node} {rest : List Node} (comment : s.kind = "comment")
      (adjoins : s.Adjoins row) (further : Leads s.startRow rest) : Leads row (s :: rest)

theorem leads_cons_iff {row : Nat} {s : Node} {rest : List Node} :
    Leads row (s :: rest) ↔ s.kind = "comment" ∧ s.Adjoins row ∧ Leads s.startRow rest := by
  constructor
  · rintro (_ | ⟨hcomment, hadjoins, hfurther⟩)
    exact ⟨hcomment, hadjoins, hfurther⟩
  · rintro ⟨hcomment, hadjoins, hfurther⟩
    exact .cons hcomment hadjoins hfurther

/-- Stepping back from `row` over `passed` leads to `s`. -/
def LeadsTo (row : Nat) (before passed : List Node) (s : Node) : Prop :=
  ∃ rest, before = passed ++ s :: rest ∧ Leads row (passed ++ [s])

/-- A comment can be reached by stepping back over comments. -/
def Reaches (row : Nat) (before : List Node) (s : Node) : Prop :=
  ∃ passed, LeadsTo row before passed s

/-- The first comment of a sort that is reached. -/
def Nearest (sort : Node → Prop) (row : Nat) (before : List Node) (s : Node) : Prop :=
  ∃ passed, LeadsTo row before passed s ∧ (∀ p ∈ passed, ¬ sort p) ∧ sort s

/-- The documentation of an item that starts at a row, if comments of a sort are documentation: the
text of the nearest one, and none if no such comment is reached. -/
def Documents (sort : Node → Prop) (textOf : Node → String) (row : Nat) (before : List Node)
    (doc : String) : Prop :=
  (∃ s, Nearest sort row before s ∧ doc = clean (textOf s)) ∨
    (∀ s, Reaches row before s → ¬ sort s) ∧ doc = ""

section Step

variable {row : Nat} {s t : Node} {rest passed before : List Node}

theorem leadsTo_cons_iff : LeadsTo row (s :: rest) passed t ↔
    s.kind = "comment" ∧ s.Adjoins row ∧
      (passed = [] ∧ t = s ∨
        ∃ further, passed = s :: further ∧ LeadsTo s.startRow rest further t) := by
  constructor
  · rintro ⟨behind, hsplit, hleads⟩
    cases passed with
    | nil =>
      obtain ⟨rfl, _⟩ := List.cons.inj hsplit
      obtain ⟨hcomment, hadjoins, _⟩ := leads_cons_iff.mp hleads
      exact ⟨hcomment, hadjoins, .inl ⟨rfl, rfl⟩⟩
    | cons p further =>
      obtain ⟨rfl, hrest⟩ := List.cons.inj hsplit
      obtain ⟨hcomment, hadjoins, hfurther⟩ := leads_cons_iff.mp hleads
      exact ⟨hcomment, hadjoins, .inr ⟨further, rfl, behind, hrest, hfurther⟩⟩
  · rintro ⟨hcomment, hadjoins, ⟨rfl, rfl⟩ | ⟨further, rfl, behind, rfl, hleads⟩⟩
    · exact ⟨rest, rfl, .cons hcomment hadjoins .nil⟩
    · exact ⟨behind, rfl, .cons hcomment hadjoins hleads⟩

theorem not_reaches_nil : ¬ Reaches row [] s := by
  rintro ⟨passed, rest, hsplit, _⟩
  exact absurd hsplit.symm (by simp)

theorem reaches_cons_iff : Reaches row (s :: rest) t ↔
    s.kind = "comment" ∧ s.Adjoins row ∧ (t = s ∨ Reaches s.startRow rest t) := by
  constructor
  · rintro ⟨passed, hleads⟩
    obtain ⟨hcomment, hadjoins, ⟨_, rfl⟩ | ⟨further, _, hfurther⟩⟩ := leadsTo_cons_iff.mp hleads
    · exact ⟨hcomment, hadjoins, .inl rfl⟩
    · exact ⟨hcomment, hadjoins, .inr ⟨further, hfurther⟩⟩
  · rintro ⟨hcomment, hadjoins, rfl | ⟨further, hfurther⟩⟩
    · exact ⟨[], leadsTo_cons_iff.mpr ⟨hcomment, hadjoins, .inl ⟨rfl, rfl⟩⟩⟩
    · exact ⟨s :: further, leadsTo_cons_iff.mpr ⟨hcomment, hadjoins, .inr ⟨further, rfl, hfurther⟩⟩⟩

theorem Reaches.comment (h : Reaches row before s) : s ∈ before ∧ s.kind = "comment" := by
  induction before generalizing row with
  | nil => exact absurd h not_reaches_nil
  | cons b before ih =>
    obtain ⟨hcomment, _, rfl | hfurther⟩ := reaches_cons_iff.mp h
    · exact ⟨List.mem_cons_self, hcomment⟩
    · exact ⟨List.mem_cons_of_mem b (ih hfurther).1, (ih hfurther).2⟩

end Step

/-! ## §3. The comment that is taken -/

section Documents

variable {sort : Node → Prop} {textOf : Node → String} {row : Nat} {s : Node}
  {before rest : List Node} {doc : String}

/-- There is one nearest comment. -/
theorem Nearest.unique {t : Node} (hs : Nearest sort row before s)
    (ht : Nearest sort row before t) : s = t := by
  obtain ⟨passed, ⟨rest, hsplit, _⟩, hothers, hsort⟩ := hs
  obtain ⟨passed', ⟨rest', hsplit', _⟩, hothers', hsort'⟩ := ht
  rw [hsplit] at hsplit'
  -- the comment further back would have passed the other one
  rcases List.append_eq_append_iff.mp hsplit' with ⟨more, rfl, hmore⟩ | ⟨more, rfl, hmore⟩
  · cases more with
    | nil => exact (List.cons.inj hmore).1
    | cons m more =>
      have hm : s = m := (List.cons.inj hmore).1
      exact absurd hsort (hothers' s (by simp [hm]))
  · cases more with
    | nil => exact (List.cons.inj hmore).1.symm
    | cons m more =>
      have hm : t = m := (List.cons.inj hmore).1
      exact absurd hsort' (hothers t (by simp [hm]))

theorem Nearest.reaches (h : Nearest sort row before s) : Reaches row before s := by
  obtain ⟨passed, hleads, _⟩ := h
  exact ⟨passed, hleads⟩

/-- What is documented is the text of the nearest comment. -/
theorem Documents.eq_of_nearest (h : Documents sort textOf row before doc)
    (hs : Nearest sort row before s) : doc = clean (textOf s) := by
  rcases h with ⟨t, ht, hdoc⟩ | ⟨hnone, _⟩
  · rw [hdoc, hs.unique ht]
  · have hnot : ¬ sort s := hnone s hs.reaches
    obtain ⟨_, _, _, hsort⟩ := hs
    exact absurd hsort hnot

/-- Behind something that is no comment, or is apart, nothing is reached. -/
theorem documents_apart (apart : ¬ (s.kind = "comment" ∧ s.Adjoins row)) :
    Documents sort textOf row (s :: rest) "" := by
  refine .inr ⟨?_, rfl⟩
  intro t ht
  obtain ⟨hcomment, hadjoins, _⟩ := reaches_cons_iff.mp ht
  exact absurd ⟨hcomment, hadjoins⟩ apart

theorem documents_here (comment : s.kind = "comment") (adjoins : s.Adjoins row) (hs : sort s) :
    Documents sort textOf row (s :: rest) (clean (textOf s)) :=
  .inl ⟨s, ⟨[], leadsTo_cons_iff.mpr ⟨comment, adjoins, .inl ⟨rfl, rfl⟩⟩, by simp, hs⟩, rfl⟩

/-- A comment of another sort is passed. -/
theorem Documents.further (comment : s.kind = "comment") (adjoins : s.Adjoins row) (hs : ¬ sort s)
    (h : Documents sort textOf s.startRow rest doc) :
    Documents sort textOf row (s :: rest) doc := by
  rcases h with ⟨t, ⟨passed, hleads, hothers, ht⟩, hdoc⟩ | ⟨hnone, hdoc⟩
  · refine .inl ⟨t, ⟨s :: passed, ?_, ?_, ht⟩, hdoc⟩
    · exact leadsTo_cons_iff.mpr ⟨comment, adjoins, .inr ⟨passed, rfl, hleads⟩⟩
    · intro p hp
      rcases List.mem_cons.mp hp with rfl | hp
      · exact hs
      · exact hothers p hp
  · refine .inr ⟨?_, hdoc⟩
    intro t ht
    obtain ⟨_, _, rfl | hfurther⟩ := reaches_cons_iff.mp ht
    · exact hs
    · exact hnone t hfurther

/-- **The comment that is taken is the nearest that opens with `/**`.**  The loop looks at one side
of the rows only; that a sibling does not end below the next item is the order of siblings. -/
theorem documents_attached (above : ∀ s ∈ before, s.endRow ≤ row)
    (order : before.Pairwise fun a b => b.endRow ≤ a.startRow) :
    Documents (fun s => Opens (textOf s)) textOf row before (attached textOf row before) := by
  induction before generalizing row with
  | nil => exact .inr ⟨fun s hs => absurd hs not_reaches_nil, rfl⟩
  | cons s rest ih =>
    have hrow : s.endRow ≤ row := above s List.mem_cons_self
    obtain ⟨hfirst, hrest⟩ := List.pairwise_cons.mp order
    unfold attached
    split
    next hstop =>
      -- a comment that adjoins would not have stopped the loop
      apply documents_apart
      rintro ⟨hcomment, hadjoins⟩
      simp only [hcomment, bne_self_eq_false, Bool.false_or, decide_eq_true_eq] at hstop
      unfold Node.Adjoins at hadjoins
      omega
    next hgoes =>
      simp only [Bool.or_eq_true, bne_iff_ne, ne_eq, decide_eq_true_eq, not_or, not_not,
        not_lt] at hgoes
      have hadjoins : s.Adjoins row := by
        unfold Node.Adjoins
        omega
      split
      next hopens => exact documents_here hgoes.1 hadjoins hopens
      next hopens => exact (ih hfirst hrest).further hgoes.1 hadjoins hopens

end Documents

end PhpDoc

/-! ## §4. Places of a tree -/

/-- A place of a tree: a child of one of its nodes, behind the earlier children. -/
def Site.In (site : Site) (tree : Node) : Prop :=
  ∃ parent ∈ tree.preorder, ∃ after, parent.children = site.before.reverse ++ site.node :: after

namespace Site

variable {site : Site} {tree : Node}

theorem In.node_mem (h : site.In tree) : site.node ∈ tree.preorder := by
  obtain ⟨parent, hparent, after, hchildren⟩ := h
  refine Node.mem_preorder_below ?_ hparent
  rw [hchildren]
  simp

theorem In.before_mem (h : site.In tree) {s : Node} (hs : s ∈ site.before) : s ∈ tree.preorder := by
  obtain ⟨parent, hparent, after, hchildren⟩ := h
  refine Node.mem_preorder_below ?_ hparent
  rw [hchildren]
  simp [hs]

/-- Earlier siblings do not end below the row where a node starts. -/
theorem In.above (h : site.In tree) (laid : tree.LaidOut) :
    ∀ s ∈ site.before, s.endRow ≤ site.node.startRow := by
  obtain ⟨parent, hparent, after, hchildren⟩ := h
  have hsiblings := (laid parent hparent).siblings
  rw [hchildren, List.pairwise_append] at hsiblings
  intro s hs
  exact hsiblings.2.2 s (List.mem_reverse.mpr hs) site.node List.mem_cons_self

theorem In.order (h : site.In tree) (laid : tree.LaidOut) :
    site.before.Pairwise fun a b => b.endRow ≤ a.startRow := by
  obtain ⟨parent, hparent, after, hchildren⟩ := h
  have hsiblings := (laid parent hparent).siblings
  rw [hchildren, List.pairwise_append, List.pairwise_reverse] at hsiblings
  exact hsiblings.1

end Site

namespace Setting

/-- The head of a loose keyword stands where the keyword and its modifiers do. -/
theorem Loose.head_in {l : Loose} {tree region : Node} (hregion : region ∈ tree.preorder)
    (split : region.children = l.before.reverse ++ l.token :: l.after) : l.head.In tree := by
  -- the modifiers are the end of what stands in front of the keyword
  have hbefore : l.before.reverse = l.head.before.reverse ++ l.modifiers := by
    unfold head modifiers
    rw [← List.reverse_append, List.takeWhile_append_dropWhile]
  rw [hbefore, List.append_assoc] at split
  unfold head at split ⊢
  cases hmodifiers : l.modifiers with
  | nil =>
    rw [hmodifiers] at split
    exact ⟨region, hregion, l.after, split⟩
  | cons m more =>
    rw [hmodifiers] at split
    exact ⟨region, hregion, more ++ l.token :: l.after, split⟩

mutual

/-- The items of a body stand among its nodes, or among those of an unreadable region. -/
theorem in_of_mem_itemSites {tree parent : Node} (hparent : parent ∈ tree.preorder)
    (before ns : List Node) (split : parent.children = before.reverse ++ ns) :
    ∀ site ∈ itemSites before ns, site.In tree := by
  match ns with
  | [] =>
    intro site hsite
    unfold itemSites at hsite
    exact absurd hsite List.not_mem_nil
  | n :: rest =>
    intro site hsite
    unfold itemSites at hsite
    rcases List.mem_append.mp hsite with hfirst | hrest
    · exact in_of_mem_itemSite before n ⟨parent, hparent, rest, split⟩ site hfirst
    · refine in_of_mem_itemSites hparent (n :: before) rest ?_ site hrest
      rw [split, List.reverse_cons, List.append_assoc]
      rfl

theorem in_of_mem_itemSite {tree : Node} (before : List Node) (n : Node)
    (place : Site.In ⟨before, n⟩ tree) : ∀ site ∈ itemSite before n, site.In tree := by
  match n with
  | .mk tag children =>
    intro site hsite
    unfold itemSite at hsite
    split at hsite
    · -- the region is the parent of what it stands for
      exact in_of_mem_itemSites place.node_mem [] children rfl site hsite
    · rw [List.mem_singleton.mp hsite]
      exact place

end

end Setting

/-! ## §5. Where declarations stand -/

/-- Where a declaration stands in a tree. -/
inductive StandsAt (r : Reader) (tree : Node) (d : Declaration) : Site → Prop
  /-- The node there spells it, or one of the elements of that node does. -/
  | spelled {site : Site} {n : Node} (place : site.In tree)
      (element : n = site.node ∨ n ∈ site.node.children)
      (construct : Construct.ofKind? n.kind = some d.construct)
      (name : r.spelling? n.kind n = some d.name) (first : d.lineStart = site.node.line)
      (last : d.lineEnd = site.node.endRow + 1) : StandsAt r tree d site
  /-- A keyword in an unreadable region declares it, behind its modifiers. -/
  | loose {region nameNode : Node} {l : Setting.Loose} {container : Option String}
      (inside : region ∈ tree.preorder)
      (children : region.children = l.before.reverse ++ l.token :: l.after)
      (construct : Setting.looseConstruct? l.token.kind container = some d.construct)
      (named : l.nameNode? = some nameNode) (name : r.identifier? nameNode = some d.name)
      (first : d.lineStart = l.head.node.line) (last : d.lineEnd = region.endRow + 1) :
      StandsAt r tree d l.head

theorem StandsAt.place {r : Reader} {tree : Node} {d : Declaration} {site : Site}
    (h : StandsAt r tree d site) : site.In tree := by
  cases h with
  | spelled place => exact place
  | loose inside children => exact Setting.Loose.head_in inside children

/-- A declaration has the comment of the place where it stands. -/
def Sited (r : Reader) (tree : Node) (d : Declaration) : Prop :=
  ∃ site, StandsAt r tree d site ∧
    d.documentation = PhpDoc.attached r.text site.node.startRow site.before

/-- All declarations of an extraction have a property. -/
def Extraction.All (P : Declaration → Prop) (x : Extraction) : Prop := ∀ d ∈ x.declarations, P d

namespace Extraction.All

variable {P p : Declaration → Prop} {x y : Extraction} {d : Declaration}

/-- Warnings and mentions do not matter. -/
theorem of_same (hx : x.All P) (same : y.declarations = x.declarations) : y.All P := by
  unfold All
  rw [same]
  exact hx

theorem push (hx : x.All P) (hd : P d) : (x.push d).All P := by
  intro e he
  rcases List.mem_append.mp he with hold | hnew
  · exact hx e hold
  · rw [List.mem_singleton.mp hnew]
    exact hd

theorem of_takes (hx : x.All P) (h : x.Takes p y) (lift : ∀ d, p d → P d) : y.All P := by
  rcases h with hsame | ⟨d, hone, hd⟩
  · exact hx.of_same hsame
  · exact (hx.push (lift d hd)).of_same hone

theorem foldl {α : Type} {f : Extraction → α → Extraction} {l : List α} (hx : x.All P)
    (round : ∀ a ∈ l, ∀ x : Extraction, x.All P → (f x a).All P) : (l.foldl f x).All P := by
  induction l generalizing x with
  | nil => exact hx
  | cons a l ih =>
    refine ih (round a List.mem_cons_self x hx) ?_
    intro b hb
    exact round b (List.mem_cons_of_mem a hb)

end Extraction.All

namespace Setting

variable {s : Setting} {tree : Node} {x : Extraction} {site : Site}

/-- What is spelled at a place, or by an element there, is sited. -/
theorem sited_of_shows {n : Node} {d : Declaration} {kind : String} {construct : Construct}
    (place : site.In tree) (element : n = site.node ∨ n ∈ site.node.children)
    (hkind : n.kind = kind) (hof : Construct.ofKind? kind = some construct)
    (hconstruct : d.construct = construct)
    (hname : s.reader.spelling? kind n = some d.name) (shows : site.Shows s.reader d) :
    Sited s.reader tree d := by
  subst hkind
  subst hconstruct
  exact ⟨site, .spelled place element hof hname shows.first shows.last, shows.documentation⟩

theorem sited_callable {container : Option String} {construct : Construct} {kind : String}
    (place : site.In tree) (hkind : site.node.kind = kind)
    (hof : Construct.ofKind? kind = some construct)
    (hspelling : s.reader.spelling? kind site.node = s.reader.name? site.node)
    (hx : x.All (Sited s.reader tree)) :
    (s.callable container construct site x).All (Sited s.reader tree) := by
  apply hx.of_takes (takes_callable container construct site)
  rintro d ⟨_, hconstruct, hname, shows⟩
  exact sited_of_shows place (.inl rfl) hkind hof hconstruct (hspelling.trans hname) shows

theorem sited_properties {container : String} (place : site.In tree)
    (hx : x.All (Sited s.reader tree)) :
    (s.properties container site x).All (Sited s.reader tree) := by
  unfold properties
  dsimp only
  split
  next =>
    apply hx.foldl
    intro c hc x hx
    obtain ⟨hchild, hbeq⟩ := List.mem_filter.mp hc
    have hkind : c.kind = "property_element" := eq_of_beq hbeq
    apply hx.of_takes (takes_property container site _ c)
    rintro d ⟨_, hconstruct, hname, shows⟩
    exact sited_of_shows place (.inr hchild) hkind rfl hconstruct hname shows
  next => exact hx

theorem sited_constants {container : Option String} (place : site.In tree)
    (hx : x.All (Sited s.reader tree)) :
    (s.constants container site x).All (Sited s.reader tree) := by
  unfold constants
  dsimp only
  split
  next =>
    apply hx.foldl
    intro c hc x hx
    obtain ⟨hchild, hbeq⟩ := List.mem_filter.mp hc
    have hkind : c.kind = "const_element" := eq_of_beq hbeq
    apply hx.of_takes (takes_constant container site _ c)
    rintro d ⟨_, hconstruct, hname, shows⟩
    exact sited_of_shows place (.inr hchild) hkind rfl hconstruct hname shows
  next => exact hx

theorem sited_member {container : String} (place : site.In tree)
    (hx : x.All (Sited s.reader tree)) :
    (s.member container x site).All (Sited s.reader tree) := by
  unfold member
  split
  next hkind => exact sited_callable place hkind rfl rfl hx
  next => exact sited_properties place hx
  next => exact sited_constants place hx
  next hkind =>
    apply hx.of_takes (takes_enumCase container site)
    rintro d ⟨_, hconstruct, hname, shows⟩
    exact sited_of_shows place (.inl rfl) hkind rfl hconstruct hname shows
  next => exact hx.of_same (Extraction.declarations_mentionAll _ _)
  next => exact hx

theorem sited_members {container : String} {parent : Node} (hparent : parent ∈ tree.preorder)
    (hx : x.All (Sited s.reader tree)) :
    (s.members container parent.children x).All (Sited s.reader tree) := by
  apply hx.foldl
  intro site hsite x hx
  exact sited_member (in_of_mem_itemSites hparent [] parent.children rfl site hsite) hx

theorem spelling_of_typeConstruct? {kind : String} {construct : Construct}
    (h : Walk.typeConstruct? kind = some construct) (r : Reader) (n : Node) :
    Construct.ofKind? kind = some construct ∧ r.spelling? kind n = r.name? n := by
  unfold Walk.typeConstruct? at h
  split at h
  · exact ⟨h, rfl⟩
  · exact ⟨h, rfl⟩
  · exact ⟨h, rfl⟩
  · exact ⟨h, rfl⟩
  · exact absurd h (by simp)

theorem sited_typeDeclaration {construct : Construct} (place : site.In tree)
    (hconstruct : Walk.typeConstruct? site.node.kind = some construct)
    (hx : x.All (Sited s.reader tree)) :
    (s.typeDeclaration construct site x).All (Sited s.reader tree) := by
  unfold typeDeclaration
  split
  next => exact hx.of_same rfl
  next name hname =>
    obtain ⟨hof, hspelling⟩ := spelling_of_typeConstruct? hconstruct s.reader site.node
    have hsited : Sited s.reader tree (s.reader.declaration site construct name
        (s.scope.qualify name) none .publicAccess) :=
      sited_of_shows place (.inl rfl) rfl hof rfl (hspelling.trans hname)
        (Site.shows_declaration ..)
    dsimp only
    generalize s.reader.declaration site construct name (s.scope.qualify name) none
      .publicAccess = d at hsited
    have hhead := (hx.push hsited).of_same (Extraction.declarations_mentionAll (x.push d)
      ((s.mentioning (s.scope.qualify name) none).inTypeHead site.node))
    unfold Extraction.declare
    by_cases htaken : x.declares d.qualifiedName = true
    · rw [if_pos htaken]
      exact hx.of_same rfl
    · rw [if_neg htaken]
      cases hbody : site.node.child? "body" with
      | none => exact hhead
      | some body =>
        exact sited_members
          (Node.mem_preorder_below (Node.mem_of_child? hbody) place.node_mem) hhead

/-- What a loose keyword declares stands at its head. -/
theorem sited_of_loose? {region : Node} {container : Option String} {l : Loose} {d : Declaration}
    (inside : region ∈ tree.preorder)
    (children : region.children = l.before.reverse ++ l.token :: l.after)
    (h : s.loose? region.endRow container l = some d) : Sited s.reader tree d := by
  simp only [loose?, Option.bind_eq_bind, Option.bind_eq_some_iff] at h
  obtain ⟨construct, hconstruct, h⟩ := h
  simp only [Option.bind_none, Option.ite_none_left_eq_some, Option.bind_eq_some_iff,
    Option.ite_none_right_eq_some, Option.some.injEq] at h
  obtain ⟨_, nameNode, hnamed, name, hname, _, rfl⟩ := h
  exact ⟨l.head, .loose inside children hconstruct hnamed hname rfl rfl, rfl⟩

theorem sited_recoverFrom {region : Node} (inside : region ∈ tree.preorder)
    (before after : List Node) (container : Option String) (x : Extraction)
    (children : region.children = before.reverse ++ after) (hx : x.All (Sited s.reader tree)) :
    (s.recoverFrom region.endRow region.children before after container x).All
      (Sited s.reader tree) := by
  induction after generalizing before container x with
  | nil =>
    unfold recoverFrom
    exact hx
  | cons token after ih =>
    have hnext : region.children = (token :: before).reverse ++ after := by
      rw [children, List.reverse_cons, List.append_assoc]
      rfl
    unfold recoverFrom
    split
    next => exact ih _ _ _ hnext hx
    next d hloose =>
      have hsited : Sited s.reader tree d := sited_of_loose? inside children hloose
      split
      next => exact ih _ _ _ hnext (hx.of_same rfl)
      next =>
        have hpush : ∀ message, ((x.push d).warn s.reader d.lineStart message).All
            (Sited s.reader tree) := fun _ => (hx.push hsited).of_same rfl
        dsimp only
        split
        -- the members of the first type are those of the whole region, at their own places
        next => exact ih _ _ _ hnext (sited_members inside (hpush _))
        next => exact ih _ _ _ hnext (hpush _)

end Setting

namespace Walk

theorem sited_statements {r : Reader} {tree parent : Node} (hparent : parent ∈ tree.preorder)
    (before ns : List Node) (w : Walk) (children : parent.children = before.reverse ++ ns)
    (each : ∀ n ∈ ns, ∀ before w, Site.In ⟨before, n⟩ tree → w.found.All (Sited r tree) →
      (statement r before n w).found.All (Sited r tree))
    (hw : w.found.All (Sited r tree)) :
    (statements r before ns w).found.All (Sited r tree) := by
  induction ns generalizing before w with
  | nil =>
    unfold statements
    exact hw
  | cons n rest ih =>
    unfold statements
    apply ih
    · rw [children, List.reverse_cons, List.append_assoc]
      rfl
    · intro c hc
      exact each c (List.mem_cons_of_mem n hc)
    · exact each n List.mem_cons_self before w ⟨parent, hparent, rest, children⟩ hw

/-- **Every declaration stands at a place of the tree.**  The second half is about the children of a
node as statements, which a block needs of its body. -/
theorem sited_statement (r : Reader) (tree n : Node) :
    (∀ before w, Site.In ⟨before, n⟩ tree → w.found.All (Sited r tree) →
      (statement r before n w).found.All (Sited r tree)) ∧
    (n ∈ tree.preorder → ∀ w : Walk, w.found.All (Sited r tree) →
      (statements r [] n.children w).found.All (Sited r tree)) := by
  induction n using Node.induction_children with
  | node n ih =>
    have hinner : n ∈ tree.preorder → ∀ w : Walk, w.found.All (Sited r tree) →
        (statements r [] n.children w).found.All (Sited r tree) := by
      intro hn w hw
      exact sited_statements hn [] n.children w rfl (fun c hc => (ih c hc).1) hw
    refine ⟨?_, hinner⟩
    intro before w place hw
    have hn : n ∈ tree.preorder := place.node_mem
    rw [statement_eq]
    cases hrole : n.role with
    | type construct =>
      exact Setting.sited_typeDeclaration (s := w.setting r) place (Role.construct_of_type hrole) hw
    | scope =>
      dsimp only [statementAs]
      rw [blockOf_eq]
      cases hbody : n.child? "body" with
      | none => exact hw
      | some b =>
        have hb : b ∈ n.children := Node.mem_of_child? hbody
        exact (ih b hb).2 (Node.mem_preorder_below hb hn) (w.enter (namespaceName r n.children)) hw
    | imports => exact hw
    | function =>
      exact Setting.sited_callable (s := w.setting r) place (Node.kind_of_role hrole rfl) rfl rfl hw
    | constants => exact Setting.sited_constants (s := w.setting r) place hw
    | region =>
      have hstatements := hinner hn w hw
      exact Setting.sited_recoverFrom (s := (statements r [] n.children w).setting r) hn
        [] n.children none _ rfl hstatements
    | inert => exact hw
    | passage => exact hinner hn w hw

end Walk

/-! ## §6. The documentation of a tree -/

namespace PhpDoc

/-- If the nearest comment that opens as documentation is a block, it is the nearest block. -/
theorem Documents.blocks {textOf : Node → String} {row : Nat} {before : List Node} {doc : String}
    (h : Documents (fun s => Opens (textOf s)) textOf row before doc)
    (block : ∀ s, Nearest (fun s => Opens (textOf s)) row before s → IsBlock (textOf s)) :
    Documents (fun s => IsBlock (textOf s)) textOf row before doc := by
  rcases h with ⟨s, hnearest, hdoc⟩ | ⟨hnone, hdoc⟩
  · have hblock : IsBlock (textOf s) := block s hnearest
    obtain ⟨passed, hleads, hothers, _⟩ := hnearest
    refine .inl ⟨s, ⟨passed, hleads, ?_, hblock⟩, hdoc⟩
    intro p hp hother
    exact hothers p hp hother.opens
  · refine .inr ⟨?_, hdoc⟩
    intro s hs hblock
    exact hnone s hs hblock.opens

theorem clean_hollow : clean hollow = "/" := by decide +kernel

/-- What the comments in front of a declaration make of it. -/
structure Documented (r : Reader) (tree : Node) (d : Declaration) (site : Site) : Prop where
  stands : StandsAt r tree d site
  /-- The documentation is that of the nearest comment that opens with `/**`. -/
  taken : Documents (fun s => Opens (r.text s)) r.text site.node.startRow site.before
    d.documentation
  /-- Where that comment is a block, it is that of the nearest block. -/
  blocks : (∀ s, Nearest (fun s => Opens (r.text s)) site.node.startRow site.before s →
      IsBlock (r.text s)) →
    Documents (fun s => IsBlock (r.text s)) r.text site.node.startRow site.before d.documentation
  /-- A closed comment that is no block is hollow, and its slash is the documentation. -/
  slash : ∀ s, Nearest (fun s => Opens (r.text s)) site.node.startRow site.before s →
    Enclosed "/*" "*/" (r.text s) → ¬ IsBlock (r.text s) →
      r.text s = hollow ∧ d.documentation = "/"

/-- **Every declaration has the documentation of the nearest comment that opens with `/**`**, be it
a block or not. -/
theorem documented_ofTree {r : Reader} {tree : Node} (laid : tree.LaidOut) :
    ∀ d ∈ (Extraction.ofTree r tree).declarations, ∃ site, Documented r tree d site := by
  intro d hd
  have hempty : ({} : Walk).found.All (Sited r tree) := by
    intro e he
    exact absurd he List.not_mem_nil
  obtain ⟨site, hstands, hdoc⟩ :=
    (Walk.sited_statement r tree tree).2 tree.mem_preorder_self {} hempty d hd
  have hplace := hstands.place
  have htaken : Documents (fun s => Opens (r.text s)) r.text site.node.startRow site.before
      d.documentation := by
    rw [hdoc]
    exact documents_attached (hplace.above laid) (hplace.order laid)
  refine ⟨site, hstands, htaken, htaken.blocks, ?_⟩
  intro s hs hclosed hother
  have hopens : Opens (r.text s) := by
    obtain ⟨_, _, _, hopens⟩ := hs
    exact hopens
  have hhollow : r.text s = hollow := (hopens.isBlock_or_eq_hollow hclosed).resolve_left hother
  refine ⟨hhollow, ?_⟩
  rw [htaken.eq_of_nearest hs, hhollow, clean_hollow]

/-- A function behind a block and a line comment, and a class behind a hollow comment. -/
def hollowReader : Reader :=
  ⟨"src/Test.php", "<?php\n/** Adds. */\n// fast\nfunction add() \x7b\x7d\n".toList ++
    "/**/\nclass A \x7b\x7d\n".toList, true⟩

/-- The tree of that file. -/
def hollowTree : Node :=
  .mk ⟨"program", true, false, "", 0, 61, 0, 6⟩ [
    .mk ⟨"php_tag", true, false, "", 0, 5, 0, 0⟩ [],
    .mk ⟨"comment", true, false, "", 6, 18, 1, 1⟩ [],
    .mk ⟨"comment", true, false, "", 19, 26, 2, 2⟩ [],
    .mk ⟨"function_definition", true, false, "", 27, 44, 3, 3⟩ [
      .mk ⟨"function", false, false, "", 27, 35, 3, 3⟩ [],
      .mk ⟨"name", true, false, "name", 36, 39, 3, 3⟩ [],
      .mk ⟨"formal_parameters", true, false, "parameters", 39, 41, 3, 3⟩ [
        .mk ⟨"(", false, false, "", 39, 40, 3, 3⟩ [],
        .mk ⟨")", false, false, "", 40, 41, 3, 3⟩ []],
      .mk ⟨"compound_statement", true, false, "body", 42, 44, 3, 3⟩ [
        .mk ⟨"\x7b", false, false, "", 42, 43, 3, 3⟩ [],
        .mk ⟨"\x7d", false, false, "", 43, 44, 3, 3⟩ []]],
    .mk ⟨"comment", true, false, "", 45, 49, 4, 4⟩ [],
    .mk ⟨"class_declaration", true, false, "", 50, 60, 5, 5⟩ [
      .mk ⟨"class", false, false, "", 50, 55, 5, 5⟩ [],
      .mk ⟨"name", true, false, "name", 56, 57, 5, 5⟩ [],
      .mk ⟨"declaration_list", true, false, "body", 58, 60, 5, 5⟩ [
        .mk ⟨"\x7b", false, false, "", 58, 59, 5, 5⟩ [],
        .mk ⟨"\x7d", false, false, "", 59, 60, 5, 5⟩ []]]]

/-- The function has its block across the line comment, the class the slash of the hollow
comment. -/
theorem documented_ofTree_hollow :
    hollowTree.LaidOut ∧
      (Extraction.ofTree hollowReader hollowTree).declarations.map
          (fun d => (d.name, d.documentation)) = [("add", "Adds."), ("A", "/")] ∧
      ∀ d ∈ (Extraction.ofTree hollowReader hollowTree).declarations,
        ∃ site, Documented hollowReader hollowTree d site := by
  have laid : hollowTree.LaidOut := by decide +kernel
  exact ⟨laid, by decide +kernel, documented_ofTree laid⟩

/-- The only block of that file does not read `/`, and yet this is the documentation of the
class. -/
theorem hollow_documents :
    ¬ ∀ d ∈ (Extraction.ofTree hollowReader hollowTree).declarations,
      ∃ site, StandsAt hollowReader hollowTree d site ∧
        Documents (fun s => IsBlock (hollowReader.text s)) hollowReader.text site.node.startRow
          site.before d.documentation := by
  have hslash : ∃ d ∈ (Extraction.ofTree hollowReader hollowTree).declarations,
      d.documentation = "/" := by decide +kernel
  have hblocks : ∀ n ∈ hollowTree.preorder, n.kind = "comment" → IsBlock (hollowReader.text n) →
      clean (hollowReader.text n) ≠ "/" := by decide +kernel
  intro h
  obtain ⟨d, hd, hdoc⟩ := hslash
  obtain ⟨site, hstands, ⟨s, hnearest, hclean⟩ | ⟨_, hnone⟩⟩ := h d hd
  · obtain ⟨hmem, hcomment⟩ := hnearest.reaches.comment
    obtain ⟨_, _, _, hblock⟩ := hnearest
    exact hblocks s (hstands.place.before_mem hmem) hcomment hblock (hclean.symm.trans hdoc)
  · rw [hdoc] at hnone
    exact absurd hnone (by decide)

end PhpDoc
end CodeAtlas
