/-
  CodeAtlas.Proofs.Extraction.Layout — where declarations and mentions lie.

  In a readable tree the walk goes down the rows of the file and never back.  Everything declared so
  far starts at or above the row that the walk has reached, what a type contains lies between the
  first and the last row of the type, and the names that a declaration mentions stand in its own
  rows.  Property and constant declarations give their own rows to each of their elements.

  Main results:
    * `startsAt_inCallable` and its kin — a mention stands where some node of the declaration
      starts.
    * `LaidTo` — the state of the walk at a row; `laidTo_callable`, `laidTo_typeDeclaration`: what
      one declaration does to it.
    * `laid_ofTree` — the extraction of a readable tree follows the lines of its file.
-/
import CodeAtlas.Proofs.Extraction.Steps
import CodeAtlas.Proofs.Tree

namespace CodeAtlas

/-! ## §1. The line of a mention -/

namespace Mentioning

variable {w : Mentioning} {kind : ReferenceKind} {m : Mention} {n : Node}

theorem startsAt_ofClass (h : w.ofClass kind n = some m) : n.StartsAt m.line := by
  unfold ofClass at h
  simp only [Option.ite_none_left_eq_some, Option.some.injEq] at h
  rw [← h.2]
  exact n.startsAt_self

theorem startsAt_ofNames {nodes : List Node} (h : m ∈ w.ofNames kind nodes) :
    ∃ n ∈ nodes, n.StartsAt m.line := by
  obtain ⟨n, hn, hm⟩ := List.mem_filterMap.mp h
  exact ⟨n, (List.mem_filter.mp hn).1, startsAt_ofClass hm⟩

theorem startsAt_ofChildren (h : m ∈ w.ofNames kind n.children) : n.StartsAt m.line := by
  obtain ⟨c, hc, hline⟩ := startsAt_ofNames h
  exact hline.of_child hc

theorem startsAt_ofType {type : Node} (h : m ∈ w.ofType kind type) : type.StartsAt m.line := by
  obtain ⟨n, hn, hline⟩ := startsAt_ofNames h
  exact hline.of_mem (Node.mem_preorder_of_outermost hn)

theorem startsAt_inTypeHead (h : m ∈ w.inTypeHead n) : n.StartsAt m.line := by
  obtain ⟨c, hc, hm⟩ := List.mem_flatMap.mp h
  apply Node.StartsAt.of_child _ hc
  split at hm
  · exact startsAt_ofChildren hm
  · exact startsAt_ofChildren hm
  · exact absurd hm (by simp)

theorem startsAt_ofFunctionCall (h : w.ofFunctionCall n = some m) : n.StartsAt m.line := by
  obtain ⟨f, hchild, hf⟩ := Option.bind_eq_some_iff.mp h
  split at hf
  · rw [← Option.some.inj hf]
    exact f.startsAt_self.of_child (Node.mem_of_child? hchild)
  · exact absurd hf (by simp)

theorem startsAt_ofScopedCall (h : w.ofScopedCall n = some m) : n.StartsAt m.line := by
  unfold ofScopedCall at h
  split at h
  next scope member hscope _ =>
    simp only [Option.ite_none_right_eq_some, Option.some.injEq] at h
    rw [← h.2]
    exact scope.startsAt_self.of_child (Node.mem_of_child? hscope)
  next => exact absurd h (by simp)

theorem startsAt_ofMemberCall (h : w.ofMemberCall n = some m) : n.StartsAt m.line := by
  unfold ofMemberCall at h
  split at h
  next object member container _ hmember _ =>
    simp only [Option.ite_none_right_eq_some, Option.some.injEq] at h
    rw [← h.2]
    exact member.startsAt_self.of_child (Node.mem_of_child? hmember)
  next => exact absurd h (by simp)

theorem startsAt_ofBodyNode (h : w.ofBodyNode n = some m) : n.StartsAt m.line := by
  unfold ofBodyNode at h
  split at h
  · exact startsAt_ofFunctionCall h
  · exact startsAt_ofScopedCall h
  · exact startsAt_ofMemberCall h
  · obtain ⟨c, hc, hm⟩ := Option.bind_eq_some_iff.mp h
    exact (startsAt_ofClass hm).of_child (List.mem_of_find?_eq_some hc)
  · exact absurd h (by simp)

theorem startsAt_inBody {body : Node} (h : m ∈ w.inBody body) : body.StartsAt m.line := by
  obtain ⟨n, hn, hm⟩ := List.mem_filterMap.mp h
  exact (startsAt_ofBodyNode hm).of_mem hn

theorem startsAt_inCallable (h : m ∈ w.inCallable n) : n.StartsAt m.line := by
  unfold inCallable at h
  rcases List.mem_append.mp h with h | hbody
  · rcases List.mem_append.mp h with hparameter | hreturn
    · -- a type of a parameter, two levels below the callable
      obtain ⟨type, htype, hm⟩ := List.mem_flatMap.mp hparameter
      obtain ⟨parameter, hmem, hchild⟩ := List.mem_filterMap.mp htype
      have hparameter := (startsAt_ofType hm).of_child (Node.mem_of_child? hchild)
      cases hlist : n.child? "parameters" with
      | none => rw [hlist] at hmem; exact absurd hmem (by simp)
      | some list =>
        rw [hlist] at hmem
        have hlisted : parameter ∈ list.children := hmem
        exact (hparameter.of_child hlisted).of_child (Node.mem_of_child? hlist)
    · cases hr : n.child? "return_type" with
      | none => rw [hr] at hreturn; exact absurd hreturn (by simp)
      | some type =>
        rw [hr] at hreturn
        exact (startsAt_ofType hreturn).of_child (Node.mem_of_child? hr)
  · cases hb : n.child? "body" with
    | none => rw [hb] at hbody; exact absurd hbody (by simp)
    | some body =>
      rw [hb] at hbody
      exact (startsAt_inBody hbody).of_child (Node.mem_of_child? hb)

end Mentioning

/-! ## §2. The state of the walk -/

/-- A declaration reaches from one row to another, or further. -/
def Declaration.Covers (d : Declaration) (lo hi : Nat) : Prop :=
  d.lineStart ≤ lo + 1 ∧ hi + 1 ≤ d.lineEnd

theorem Declaration.Covers.spans {d : Declaration} {n : Node} (h : d.Covers n.startRow n.endRow)
    (laid : n.LaidOut) {line : Nat} (hline : n.StartsAt line) : d.spans line = true := by
  have hbounds := laid.bounds_of_startsAt hline
  unfold Covers at h
  unfold Declaration.spans
  rw [Bool.and_eq_true, decide_eq_true_eq, decide_eq_true_eq]
  omega

namespace Extraction

/-- Declarations and mentions follow the lines of a file. -/
structure Laid (x : Extraction) : Prop where
  /-- Declarations come in the order of their first lines. -/
  sorted : x.declarations.Pairwise fun d e => d.lineStart ≤ e.lineStart
  /-- No declaration ends above its first line. -/
  range : ∀ d ∈ x.declarations, d.lineStart ≤ d.lineEnd
  /-- A nested declaration lies within the lines of its parent. -/
  within : ∀ d ∈ x.declarations, ∀ p, d.parent = some p →
    ∃ e ∈ x.declarations, e.qualifiedName = p ∧ e.lineStart ≤ d.lineStart ∧ d.lineEnd ≤ e.lineEnd
  /-- A mention stands on a line of its source. -/
  lines : ∀ m ∈ x.references,
    ∃ d ∈ x.declarations, d.qualifiedName = m.source ∧ d.spans m.line = true

/-- The walk has reached a row: nothing that was declared starts below it. -/
structure LaidTo (row : Nat) (x : Extraction) : Prop extends Laid x where
  reached : ∀ d ∈ x.declarations, d.lineStart ≤ row + 1

/-- A container, if there is one, is a top-level type that reaches from one row to another. -/
def Encloses (x : Extraction) (container : Option String) (lo hi : Nat) : Prop :=
  ∀ c, container = some c → ∃ e ∈ x.declarations,
    e.qualifiedName = c ∧ (e.parent = none ∧ e.kind = .type) ∧ e.Covers lo hi

variable {r : Reader} {x y : Extraction} {d : Declaration} {row : Nat}

section Encloses

variable {container : Option String} {lo hi : Nat}

theorem encloses_none (x : Extraction) (lo hi : Nat) : x.Encloses none lo hi := by
  intro c hc
  exact absurd hc (by simp)

theorem Encloses.holdsType (h : x.Encloses container lo hi) :
    ∀ c, container = some c → x.HoldsType c := by
  intro c hc
  obtain ⟨e, he, hname, htop, _⟩ := h c hc
  exact ⟨e, he, hname, htop⟩

theorem Encloses.mono {lo' hi' : Nat} (h : x.Encloses container lo hi) (hlo : lo ≤ lo')
    (hhi : hi' ≤ hi) : x.Encloses container lo' hi' := by
  intro c hc
  obtain ⟨e, he, hname, htop, hcovers⟩ := h c hc
  refine ⟨e, he, hname, htop, ?_⟩
  unfold Declaration.Covers at hcovers ⊢
  omega

theorem Steps.encloses (h : Steps r x y) (henclosed : x.Encloses container lo hi) :
    y.Encloses container lo hi := by
  intro c hc
  obtain ⟨e, he, hrest⟩ := henclosed c hc
  exact ⟨e, h.mem he, hrest⟩

end Encloses

namespace LaidTo

theorem empty (row : Nat) : LaidTo row {} where
  sorted := List.Pairwise.nil
  range := by simp
  within := by simp
  lines := by simp
  reached := by simp

theorem mono (h : x.LaidTo row) {row' : Nat} (hrow : row ≤ row') : x.LaidTo row' where
  toLaid := h.toLaid
  reached d hd := by
    have hd := h.reached d hd
    omega

theorem warn (h : x.LaidTo row) (line : Nat) (message : String) :
    (x.warn r line message).LaidTo row :=
  ⟨⟨h.sorted, h.range, h.within, h.lines⟩, h.reached⟩

/-- A declaration that starts on the row that the walk has reached. -/
theorem push {lo hi : Nat} (h : x.LaidTo lo) (start : d.lineStart = lo + 1)
    (stop : d.lineEnd = hi + 1) (range : lo ≤ hi)
    (inside : x.Encloses d.parent lo hi) : (x.push d).LaidTo lo where
  sorted := by
    refine List.pairwise_append.mpr ⟨h.sorted, List.pairwise_singleton _ d, ?_⟩
    intro e he d' hd'
    rw [List.mem_singleton.mp hd', start]
    exact h.reached e he
  range := by
    intro e he
    rcases List.mem_append.mp he with hold | hnew
    · exact h.range e hold
    · rw [List.mem_singleton.mp hnew]
      omega
  within := by
    intro e he p hp
    rcases List.mem_append.mp he with hold | hnew
    · obtain ⟨f, hf, hrest⟩ := h.within e hold p hp
      exact ⟨f, List.mem_append_left _ hf, hrest⟩
    · rw [List.mem_singleton.mp hnew] at hp ⊢
      obtain ⟨f, hf, hname, _, hcovers⟩ := inside p hp
      unfold Declaration.Covers at hcovers
      exact ⟨f, List.mem_append_left _ hf, hname, by omega, by omega⟩
  lines := by
    intro m hm
    obtain ⟨e, he, hrest⟩ := h.lines m hm
    exact ⟨e, List.mem_append_left _ he, hrest⟩
  reached := by
    intro e he
    rcases List.mem_append.mp he with hold | hnew
    · exact h.reached e hold
    · rw [List.mem_singleton.mp hnew]
      omega

theorem mention (h : x.LaidTo row) {m : Mention}
    (source : ∃ d ∈ x.declarations, d.qualifiedName = m.source ∧ d.spans m.line = true) :
    (x.mention m).LaidTo row := by
  unfold Extraction.mention
  split
  next => exact h
  next =>
    refine ⟨⟨h.sorted, h.range, h.within, ?_⟩, h.reached⟩
    intro m' hm'
    rcases List.mem_append.mp hm' with hold | hnew
    · exact h.lines m' hold
    · rw [List.mem_singleton.mp hnew]
      exact source

/-- Mentions on the lines of their source. -/
theorem mentionAll (h : x.LaidTo row) (hd : d ∈ x.declarations) {ms : List Mention}
    (hms : ∀ m ∈ ms, m.source = d.qualifiedName ∧ d.spans m.line = true) :
    (x.mentionAll ms).LaidTo row := by
  unfold Extraction.mentionAll
  induction ms generalizing x with
  | nil => exact h
  | cons m ms ih =>
    obtain ⟨hsource, hspans⟩ := hms m List.mem_cons_self
    have hfirst : (x.mention m).LaidTo row := h.mention ⟨d, hd, hsource.symm, hspans⟩
    rw [List.foldl_cons]
    apply ih hfirst
    · rw [declarations_mention]
      exact hd
    · intro m' hm'
      exact hms m' (List.mem_cons_of_mem m hm')

/-- Declaring something on the row that the walk has reached.  Nothing happens if its name is taken,
and otherwise `next` goes on from there. -/
theorem declare {lo hi : Nat} {place : Node} {next : Extraction → Extraction} (h : x.LaidTo lo)
    (start : d.lineStart = lo + 1) (stop : d.lineEnd = hi + 1) (range : lo ≤ hi)
    (inside : x.Encloses d.parent lo hi) (hrow : lo ≤ row)
    (rest : (x.push d).LaidTo lo → (next (x.push d)).LaidTo row) :
    (x.declare r place d next).LaidTo row := by
  unfold Extraction.declare
  split
  next => exact (h.warn _ _).mono hrow
  next => exact rest (h.push start stop range inside)

/-- A loop whose rounds stay on one row, inside a container. -/
theorem foldl {α : Type} {f : Extraction → α → Extraction} {container : Option String} {lo hi : Nat}
    (steps : ∀ x a, x.Encloses container lo hi → Steps r x (f x a))
    (round : ∀ x a, x.Encloses container lo hi → x.LaidTo row → (f x a).LaidTo row) (l : List α)
    (inside : x.Encloses container lo hi) (h : x.LaidTo row) : (l.foldl f x).LaidTo row := by
  induction l generalizing x with
  | nil => exact h
  | cons a l ih => exact ih ((steps x a inside).encloses inside) (round x a inside h)

end LaidTo
end Extraction

/-! ## §3. Single declarations -/

namespace Setting

open Extraction

/-- The lines of a declaration are the rows of its node. -/
theorem covers_declaration (r : Reader) (site : Site) (construct : Construct)
    (name qualified : String) (parent : Option String) (visibility : Visibility) :
    (r.declaration site construct name qualified parent visibility).Covers
      site.node.startRow site.node.endRow := ⟨Nat.le_refl _, Nat.le_refl _⟩

variable {s : Setting} {x : Extraction}

section Site

variable (site : Site) (laid : site.node.LaidOut)
include laid

theorem laidTo_callable {container : Option String} {construct : Construct}
    (inside : x.Encloses container site.node.startRow site.node.endRow)
    (h : x.LaidTo site.node.startRow) :
    (s.callable container construct site x).LaidTo site.node.startRow := by
  unfold callable
  split
  next => exact h.warn _ _
  next name _ =>
    dsimp only
    split
    next =>
      apply h.declare rfl rfl laid.inOrder.range inside (Nat.le_refl _)
      intro hpushed
      apply hpushed.mentionAll (List.mem_append_right _ (List.mem_singleton_self _))
      intro m hm
      have hline := Mentioning.startsAt_inCallable hm
      exact ⟨Mentioning.source_inCallable hm, (covers_declaration ..).spans laid hline⟩
    next => exact h

theorem laidTo_property {container : String} {visibility : Visibility} {element : Node}
    (inside : x.Encloses (some container) site.node.startRow site.node.endRow)
    (h : x.LaidTo site.node.startRow) :
    (s.property container site visibility x element).LaidTo site.node.startRow := by
  unfold property
  split
  next => exact h.warn _ _
  next name _ =>
    apply h.declare rfl rfl laid.inOrder.range inside (Nat.le_refl _)
    intro hpushed
    split
    next type htype =>
      apply hpushed.mentionAll (List.mem_append_right _ (List.mem_singleton_self _))
      intro m hm
      have hline := (Mentioning.startsAt_ofType hm).of_child (Node.mem_of_child? htype)
      exact ⟨Mentioning.source_ofType hm, (covers_declaration ..).spans laid hline⟩
    next => exact hpushed

/-- All properties of a declaration have its rows. -/
theorem laidTo_properties {container : String}
    (inside : x.Encloses (some container) site.node.startRow site.node.endRow)
    (h : x.LaidTo site.node.startRow) :
    (s.properties container site x).LaidTo site.node.startRow := by
  unfold properties
  dsimp only
  split
  next hshow =>
    refine LaidTo.foldl (r := s.reader) ?_ ?_ _ inside h
    · intro x element hinside
      exact steps_property hshow (hinside.holdsType container rfl)
    · intro x element hinside hx
      exact laidTo_property site laid hinside hx
  next => exact h

theorem laidTo_constant {container : Option String} {visibility : Visibility} {element : Node}
    (inside : x.Encloses container site.node.startRow site.node.endRow)
    (h : x.LaidTo site.node.startRow) :
    (s.constant container site visibility x element).LaidTo site.node.startRow := by
  unfold constant
  split
  next => exact h.warn _ _
  next name _ => exact h.declare rfl rfl laid.inOrder.range inside (Nat.le_refl _) id

/-- All constants of a declaration have its rows. -/
theorem laidTo_constants {container : Option String}
    (inside : x.Encloses container site.node.startRow site.node.endRow)
    (h : x.LaidTo site.node.startRow) :
    (s.constants container site x).LaidTo site.node.startRow := by
  unfold constants
  dsimp only
  split
  next hshow =>
    refine LaidTo.foldl (r := s.reader) ?_ ?_ _ inside h
    · intro x element hinside
      exact steps_constant hshow hinside.holdsType
    · intro x element hinside hx
      exact laidTo_constant site laid hinside hx
  next => exact h

theorem laidTo_enumCase {container : String}
    (inside : x.Encloses (some container) site.node.startRow site.node.endRow)
    (h : x.LaidTo site.node.startRow) :
    (s.enumCase container site x).LaidTo site.node.startRow := by
  unfold enumCase
  split
  next => exact h.warn _ _
  next name _ => exact h.declare rfl rfl laid.inOrder.range inside (Nat.le_refl _) id

theorem laidTo_member {container : String}
    (inside : x.Encloses (some container) site.node.startRow site.node.endRow)
    (h : x.LaidTo site.node.startRow) :
    (s.member container x site).LaidTo site.node.startRow := by
  unfold member
  split
  · exact laidTo_callable site laid inside h
  · exact laidTo_properties site laid inside h
  · exact laidTo_constants site laid inside h
  · exact laidTo_enumCase site laid inside h
  · -- a trait is used by the type itself, which reaches over all of its body
    obtain ⟨e, he, hname, _, hcovers⟩ := inside container rfl
    apply h.mentionAll he
    intro m hm
    have hline := Mentioning.startsAt_ofChildren hm
    exact ⟨(Mentioning.source_ofNames hm).trans hname.symm, hcovers.spans laid hline⟩
  · exact h

end Site

/-! ## §4. Types -/

theorem itemSite_of_kind {n : Node} (hkind : n.kind ≠ "ERROR") (before : List Node) :
    itemSite before n = [⟨before, n⟩] := by
  cases n with
  | mk tag children =>
    have htag : tag.kind ≠ "ERROR" := hkind
    unfold itemSite
    simp [htag]

/-- A readable node of a body is an item of its own. -/
theorem itemSite_eq {n : Node} (readable : n.Readable) (before : List Node) :
    itemSite before n = [⟨before, n⟩] := itemSite_of_kind readable.kind_ne before

/-- **The items of a body**: the walk goes down their rows. -/
theorem laidTo_items {container : String} {lo hi : Nat} {body : List Node}
    (stretch : Node.Stretch lo hi body) (before : List Node)
    (inside : x.Encloses (some container) lo hi) (h : x.LaidTo lo) :
    ((itemSites before body).foldl (s.member container) x).LaidTo hi := by
  induction body generalizing before lo x with
  | nil =>
    unfold itemSites
    exact h.mono stretch.nonneg
  | cons n rest ih =>
    have hmem : n ∈ n :: rest := List.mem_cons_self
    have hlaid := stretch.laid n hmem
    have hrange := hlaid.inOrder.range
    obtain ⟨hlo, hhi⟩ := stretch.bounds n hmem
    have hsteps : Steps s.reader x (s.member container x ⟨before, n⟩) :=
      steps_member (inside.holdsType container rfl)
    have hmember : (s.member container x ⟨before, n⟩).LaidTo n.startRow :=
      laidTo_member ⟨before, n⟩ hlaid (inside.mono hlo hhi) (h.mono hlo)
    unfold itemSites
    rw [itemSite_eq (stretch.readable n hmem), List.foldl_append, List.foldl_cons, List.foldl_nil]
    apply ih stretch.tail
    · exact (hsteps.encloses inside).mono (Nat.le_trans hlo hrange) (Nat.le_refl hi)
    · exact hmember.mono hrange

/-- A type and its members end on the last row of the type. -/
theorem laidTo_typeDeclaration (site : Site) (laid : site.node.LaidOut)
    (readable : site.node.Readable) {construct : Construct} (htype : construct.kind = .type)
    (h : x.LaidTo site.node.startRow) :
    (s.typeDeclaration construct site x).LaidTo site.node.endRow := by
  have hrange := laid.inOrder.range
  unfold typeDeclaration
  split
  next => exact (h.warn _ _).mono hrange
  next name _ =>
    dsimp only
    generalize hd : s.reader.declaration site construct name (s.scope.qualify name) none
      .publicAccess = d
    have hcovers : d.Covers site.node.startRow site.node.endRow := hd ▸ covers_declaration ..
    have hname : d.qualifiedName = s.scope.qualify name := hd ▸ rfl
    have htop : d.parent = none ∧ d.kind = .type := hd ▸ ⟨rfl, htype⟩
    refine h.declare (hd ▸ rfl) (hd ▸ rfl) hrange (htop.1 ▸ encloses_none x _ _) hrange ?_
    intro hpushed
    have hself : d ∈ (x.push d).declarations :=
      List.mem_append_right _ (List.mem_singleton_self _)
    -- first the head, then the body
    generalize hms : (s.mentioning (s.scope.qualify name) none).inTypeHead site.node = ms
    have hhead : ((x.push d).mentionAll ms).LaidTo site.node.startRow := by
      apply hpushed.mentionAll hself
      intro m hm
      rw [← hms] at hm
      have hline := Mentioning.startsAt_inTypeHead hm
      exact ⟨(Mentioning.source_inTypeHead hm).trans hname.symm, hcovers.spans laid hline⟩
    have hsteps : Steps s.reader (x.push d) ((x.push d).mentionAll ms) := by
      apply steps_mentionAll (declares_push x d)
      intro m hm
      rw [← hms] at hm
      exact (Mentioning.source_inTypeHead hm).trans hname.symm
    split
    next body hbody =>
      have hchild := Node.mem_of_child? hbody
      obtain ⟨hlo, hhi⟩ := laid.inOrder.within body hchild
      have hinside : ((x.push d).mentionAll ms).Encloses (some (s.scope.qualify name))
          site.node.startRow site.node.endRow := by
        rintro c ⟨⟩
        exact ⟨d, hsteps.mem hself, hname, htop, hcovers⟩
      exact (laidTo_items (Node.stretch_children (laid.child hchild) (readable.child hchild)) []
        (hinside.mono hlo hhi) (hhead.mono hlo)).mono hhi
    next => exact hhead.mono hrange

end Setting

/-! ## §5. Trees -/

namespace Walk

open Extraction

mutual

theorem laidTo_statements (r : Reader) (before : List Node) (ns : List Node) (w : Walk)
    {lo hi : Nat} (stretch : Node.Stretch lo hi ns) (h : w.found.LaidTo lo) :
    (statements r before ns w).found.LaidTo hi := by
  match ns with
  | [] =>
    unfold statements
    exact h.mono stretch.nonneg
  | n :: rest =>
    have hmem : n ∈ n :: rest := List.mem_cons_self
    have hfirst := laidTo_statement r before n w (stretch.laid n hmem) (stretch.readable n hmem)
      (h.mono (stretch.bounds n hmem).1)
    unfold statements
    exact laidTo_statements r (n :: before) rest _ stretch.tail hfirst

theorem laidTo_statement (r : Reader) (before : List Node) (n : Node) (w : Walk) (laid : n.LaidOut)
    (readable : n.Readable) (h : w.found.LaidTo n.startRow) :
    (statement r before n w).found.LaidTo n.endRow := by
  match n with
  | .mk tag children =>
    have hrange : tag.startRow ≤ tag.endRow := laid.inOrder.range
    have hchildren := Node.stretch_children laid readable
    unfold statement
    cases hconstruct : typeConstruct? tag.kind with
    | some construct =>
      exact Setting.laidTo_typeDeclaration ⟨before, .mk tag children⟩ laid readable
        (kind_of_typeConstruct? hconstruct) h
    | none =>
      have hnone := encloses_none w.found tag.startRow tag.endRow
      dsimp only
      split
      · have hblock := laidTo_blockOf r children (w.enter (namespaceName r children)) hchildren h
        split
        next inner hinner => exact hblock inner hinner
        next => exact h.mono hrange
      · exact h.mono hrange
      · exact (Setting.laidTo_callable ⟨before, .mk tag children⟩ laid hnone h).mono hrange
      · exact (Setting.laidTo_constants ⟨before, .mk tag children⟩ laid hnone h).mono hrange
      · -- no node of the tree is unreadable
        next herror => exact absurd herror readable.kind_ne
      · split
        next => exact h.mono hrange
        next => exact laidTo_statements r [] children w hchildren h

theorem laidTo_blockOf (r : Reader) (ns : List Node) (w : Walk) {lo hi : Nat}
    (stretch : Node.Stretch lo hi ns) (h : w.found.LaidTo lo) :
    ∀ inner, blockOf r ns w = some inner → inner.found.LaidTo hi := by
  match ns with
  | [] =>
    intro inner hinner
    unfold blockOf at hinner
    exact absurd hinner (by simp)
  | .mk tag children :: rest =>
    intro inner hinner
    have hmem : Node.mk tag children ∈ Node.mk tag children :: rest := List.mem_cons_self
    obtain ⟨hlo, hhi⟩ := stretch.bounds _ hmem
    have hlaid := stretch.laid _ hmem
    unfold blockOf at hinner
    split at hinner
    · rw [← Option.some.inj hinner]
      exact (laidTo_statements r [] children w
        (Node.stretch_children hlaid (stretch.readable _ hmem)) (h.mono hlo)).mono hhi
    · exact laidTo_blockOf r rest w stretch.tail
        (h.mono (Nat.le_trans hlo hlaid.inOrder.range)) inner hinner

end

end Walk

namespace Extraction

/-- **The extraction of a readable tree follows the lines of its file.** -/
theorem laid_ofTree (r : Reader) {tree : Node} (laid : tree.LaidOut) (readable : tree.Readable) :
    (ofTree r tree).Laid :=
  (Walk.laidTo_statements r [] tree.children {} (Node.stretch_children laid readable)
    (LaidTo.empty _)).toLaid

end Extraction
end CodeAtlas
