/-
  CodeAtlas.Proofs.Extraction.WellFormed — the shape of everything that is read from a file.

  Declarations come from seven places of the walk, and broken trees reach all of them in any order.
  None of that matters here: an extraction is reached by steps, and each step keeps its shape.  A
  declaration comes in only under a free name and, if it is nested, only when its type is there; a
  mention comes in only when its source is there and has not made it before.

  Main results:
    * `WellFormed.push`, `WellFormed.append_mention` — what one step keeps.
    * `wellFormed_ofTree` — the extraction of ANY tree is well formed.
-/
import Mathlib.Data.List.Nodup
import CodeAtlas.Proofs.Extraction.Steps
import CodeAtlas.Proofs.Segment

namespace CodeAtlas

/-! ## §1. The shape -/

/-- The place of an element in a list that was extended at its end: it is the new one, or it has the
place it had. -/
theorem split_concat {α : Type} {l before after : List α} {a b : α}
    (h : l ++ [b] = before ++ a :: after) :
    before = l ∧ a = b ∨ ∃ rest, l = before ++ a :: rest := by
  rcases List.eq_nil_or_concat after with rfl | ⟨rest, c, rfl⟩
  · obtain ⟨hl, hb⟩ := List.append_inj' h rfl
    exact .inl ⟨hl.symm, (List.cons.inj hb).1.symm⟩
  · rw [List.concat_eq_append, ← List.cons_append, ← List.append_assoc] at h
    exact .inr ⟨rest, (List.append_inj' h rfl).1⟩

/-- A list stays without repeats when something new is put at its end. -/
theorem nodup_map_concat {α β : Type} {f : α → β} {l : List α} {a : α} (h : (l.map f).Nodup)
    (new : ∀ b ∈ l, f b ≠ f a) : ((l ++ [a]).map f).Nodup := by
  rw [List.map_append, List.map_singleton, List.nodup_append]
  refine ⟨h, List.nodup_singleton _, ?_⟩
  intro c hc c' hc'
  obtain ⟨b, hb, rfl⟩ := List.mem_map.mp hc
  rw [List.mem_singleton.mp hc']
  exact new b hb

/-- What a mention says, its place apart. -/
def Mention.triple (m : Mention) : String × ReferenceKind × String := (m.source, m.kind, m.name)

namespace Extraction

/-- The shape of an extraction. -/
structure WellFormed (x : Extraction) : Prop where
  /-- No qualified name is declared twice. -/
  distinct : (x.declarations.map (·.qualifiedName)).Nodup
  /-- The name of a declaration is the last segment of its qualified name. -/
  named : ∀ d ∈ x.declarations, Name.unqualified d.qualifiedName = d.name
  /-- The kind of a declaration is that of its construct. -/
  kind : ∀ d ∈ x.declarations, d.kind = d.construct.kind
  /-- A nested declaration stands behind the top-level type that it is nested in and has its name
  in front of its own. -/
  nested : ∀ before d after p, x.declarations = before ++ d :: after → d.parent = some p →
    d.qualifiedName = p ++ "." ++ d.name ∧
      ∃ e ∈ before, e.qualifiedName = p ∧ e.parent = none ∧ e.kind = .type
  /-- The source of a mention is declared. -/
  sources : ∀ m ∈ x.references, ∃ d ∈ x.declarations, d.qualifiedName = m.source
  /-- No source mentions a name in one role twice. -/
  once : (x.references.map Mention.triple).Nodup

namespace WellFormed

variable {r : Reader} {x y : Extraction} {d : Declaration} {m : Mention}

theorem empty : WellFormed {} where
  distinct := List.nodup_nil
  named := by simp
  kind := by simp
  nested := by simp
  sources := by simp
  once := List.nodup_nil

/-! ## §2. One step -/

/-- The name of an admitted declaration follows from the name it was read with. -/
theorem unqualified_of_admits (next : Admits r x d) :
    Name.unqualified d.qualifiedName = d.name := by
  cases hp : d.parent with
  | none =>
    obtain ⟨scope, hname⟩ := next.top hp
    rw [hname]
    exact Name.unqualified_qualify scope next.plain
  | some p =>
    rw [(next.nested p hp).1]
    exact Name.unqualified_member p next.plain

theorem push (h : x.WellFormed) (next : Admits r x d) : (x.push d).WellFormed where
  distinct := by
    apply nodup_map_concat h.distinct
    intro e he heq
    -- the name is free, so nothing that is there has it
    have htaken : x.declares d.qualifiedName = true := declares_iff.mpr ⟨e, he, heq⟩
    rw [next.fresh] at htaken
    exact absurd htaken (by simp)
  named := by
    intro e he
    rcases List.mem_append.mp he with hold | hnew
    · exact h.named e hold
    · rw [List.mem_singleton.mp hnew]
      exact unqualified_of_admits next
  kind := by
    intro e he
    rcases List.mem_append.mp he with hold | hnew
    · exact h.kind e hold
    · rw [List.mem_singleton.mp hnew]
      exact next.kind
  nested := by
    intro before e after p hsplit hp
    rcases split_concat hsplit with ⟨rfl, rfl⟩ | ⟨rest, hrest⟩
    · obtain ⟨hname, container, hmem, hcontainer⟩ := next.nested p hp
      exact ⟨hname, container, hmem, hcontainer⟩
    · exact h.nested before e rest p hrest hp
  sources := by
    intro m hm
    obtain ⟨e, he, hname⟩ := h.sources m hm
    exact ⟨e, List.mem_append_left _ he, hname⟩
  once := h.once

theorem append_mention (h : x.WellFormed) (source : x.declares m.source = true)
    (fresh : x.mentions m = false) :
    WellFormed { x with references := x.references ++ [m] } where
  distinct := h.distinct
  named := h.named
  kind := h.kind
  nested := h.nested
  sources := by
    intro m' hm'
    rcases List.mem_append.mp hm' with hold | hnew
    · exact h.sources m' hold
    · rw [List.mem_singleton.mp hnew]
      exact declares_iff.mp source
  once := by
    apply nodup_map_concat h.once
    intro m' hm' heq
    obtain ⟨hsource, hkind, hname⟩ :
        m'.source = m.source ∧ m'.kind = m.kind ∧ m'.name = m.name := by
      simpa [Mention.triple] using heq
    -- a mention that says the same would have been noticed
    have hmade : x.mentions m = true := by
      unfold mentions
      rw [List.any_eq_true]
      exact ⟨m', hm', by simp [hsource, hkind, hname]⟩
    rw [fresh] at hmade
    exact absurd hmade (by simp)

/-- **One step keeps the shape.** -/
theorem step (h : x.WellFormed) (change : Step r x y) : y.WellFormed := by
  cases change with
  | warned => exact ⟨h.distinct, h.named, h.kind, h.nested, h.sources, h.once⟩
  | declared next => exact h.push next
  | mentioned source fresh => exact h.append_mention source fresh

end WellFormed

/-! ## §3. Whole trees -/

/-- Any number of steps keeps the shape. -/
theorem wellFormed_of_steps {r : Reader} {x y : Extraction} (h : x.WellFormed)
    (run : Steps r x y) : y.WellFormed := by
  induction run with
  | refl => exact h
  | tail _ change ih => exact ih.step change

/-- **Everything that is read is well formed**, whatever the tree looks like. -/
theorem wellFormed_ofTree (r : Reader) (tree : Node) : (ofTree r tree).WellFormed :=
  wellFormed_of_steps .empty (steps_ofTree r tree)

end Extraction
end CodeAtlas
