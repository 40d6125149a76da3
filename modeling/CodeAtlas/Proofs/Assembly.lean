/-
  CodeAtlas.Proofs.Assembly — what joining parsed units guarantees.

  Nothing is assumed about the units: names and paths may repeat, ranges may be inverted, parents
  may be unknown, come later, lie in another file or run in a circle.  `Model.ofUnits` still yields
  a coherent model.  That parents run in no circle is checked nowhere; it follows from the order in
  which declarations come in, since a parent has to be there before its child.

  Main results:
    * `Assembly.added_add` — all that taking in one declaration can do.
    * `Assembly.Grown` — a table filled by fresh declarations that fit; every invariant is an
      induction over it.
    * `coherent_ofUnits` — the model of ANY units is coherent.
-/
import CodeAtlas.Proofs.Lineage
import CodeAtlas.Proofs.Order

namespace CodeAtlas.Model

/-! ## §1. Taking in one declaration -/

/-- What is said about a declaration whose name `e` has already. -/
def duplicateMessage (d e : Declaration) : String :=
  "`" ++ d.qualifiedName ++ "` is already declared in " ++ e.filePath ++ ":"
    ++ toString e.lineStart ++ "; dropped"

/-- What is said about a declaration that does not fit. -/
def misfitMessage (d : Declaration) : String :=
  "`" ++ d.qualifiedName ++ "` has an inconsistent range; dropped"

/-- A declaration lies within its parent, if it has one, and has a range. -/
structure FitsIn (t : Table String Declaration) (d : Declaration) : Prop where
  within : ∀ p, d.parent = some p → ∃ e, t.get? p = some e ∧ e.contains d = true
  range : d.lineStart ≤ d.lineEnd

namespace Assembly

theorem fits_iff (a : Assembly) (d : Declaration) : a.fits d = true ↔ FitsIn a.declarations d := by
  unfold fits
  rw [Bool.and_eq_true, decide_eq_true_eq]
  constructor
  · rintro ⟨hwithin, hrange⟩
    refine ⟨?_, hrange⟩
    intro p hp
    rw [hp] at hwithin
    exact (Option.any_eq_true _ _).mp hwithin
  · rintro ⟨hwithin, hrange⟩
    refine ⟨?_, hrange⟩
    cases hp : d.parent with
    | none => rfl
    | some p => exact (Option.any_eq_true _ _).mpr (hwithin p hp)

/-- The outcomes of taking a declaration in. -/
inductive Added (a : Assembly) (d : Declaration) : Assembly → Prop
  /-- Its parent was dropped, and it goes with it. -/
  | orphaned {p : String} (up : d.parent = some p) (lost : p ∈ a.dropped) :
      Added a d { a with dropped := d.qualifiedName :: a.dropped }
  /-- Its name is taken. -/
  | duplicate {e : Declaration} (whole : ∀ p, d.parent = some p → p ∉ a.dropped)
      (taken : a.declarations.get? d.qualifiedName = some e) :
      Added a d (a.reject d (duplicateMessage d e))
  /-- It does not fit. -/
  | misfit (whole : ∀ p, d.parent = some p → p ∉ a.dropped)
      (free : a.declarations.get? d.qualifiedName = none) (bad : ¬ FitsIn a.declarations d) :
      Added a d (a.reject d (misfitMessage d))
  /-- It is kept. -/
  | kept (whole : ∀ p, d.parent = some p → p ∉ a.dropped)
      (free : a.declarations.get? d.qualifiedName = none) (good : FitsIn a.declarations d) :
      Added a d
        { a with declarations := a.declarations.insert d.qualifiedName d, kept := a.kept + 1 }

theorem added_add (a : Assembly) (d : Declaration) : Added a d (a.add d) := by
  unfold add
  split
  next hlost =>
    obtain ⟨p, hp, hmem⟩ := (Option.any_eq_true _ _).mp hlost
    exact .orphaned hp (by simpa using hmem)
  next hwhole =>
    have whole : ∀ p, d.parent = some p → p ∉ a.dropped := by
      intro p hp hmem
      apply hwhole
      rw [hp]
      simpa using hmem
    split
    next e htaken => exact .duplicate whole htaken
    next hfree =>
      split
      next hfits => exact .kept whole hfree ((a.fits_iff d).mp hfits)
      next hbad => exact .misfit whole hfree (fun h => hbad ((a.fits_iff d).mpr h))

/-! ## §2. Tables of declarations that fit -/

/-- A table filled by fresh declarations, each of which fits what is there already. -/
inductive Grown : Table String Declaration → Prop
  | empty : Grown ∅
  | insert {t : Table String Declaration} {d : Declaration} (rest : Grown t)
      (free : t.get? d.qualifiedName = none) (good : FitsIn t d) :
      Grown (t.insert d.qualifiedName d)

namespace Grown

variable {t : Table String Declaration}

theorem keyed (h : Grown t) {n : String} {d : Declaration} (hn : t.get? n = some d) :
    d.qualifiedName = n := by
  induction h with
  | empty => exact absurd hn (by simp)
  | insert _ _ _ ih =>
    rw [Table.get?_insert] at hn
    split at hn
    next heq =>
      injection hn with hd
      rw [← hd, heq]
    next => exact ih hn

/-- What fits once fits forever: declarations are never taken out or replaced. -/
theorem fitsIn (h : Grown t) {n : String} {d : Declaration} (hn : t.get? n = some d) :
    FitsIn t d := by
  induction h with
  | empty => exact absurd hn (by simp)
  | @insert t e _ free good ih =>
    have old : FitsIn t d := by
      rw [Table.get?_insert] at hn
      split at hn
      next =>
        injection hn with hd
        rw [← hd]
        exact good
      next => exact ih hn
    refine ⟨?_, old.range⟩
    intro p hp
    obtain ⟨f, hf, hc⟩ := old.within p hp
    exact ⟨f, Table.get?_insert_of_some free hf, hc⟩

end Grown

/-- **Acyclicity.**  The parent of a declaration was there before it, so the way upwards goes back
in time and has to end. -/
theorem Grown.lineage {t : Table String Declaration} (h : Grown t) :
    ∀ {m : Model}, m.declarations = t →
      ∀ {n : String} {d : Declaration}, m.get? n = some d → ∃ l, m.Lineage d l := by
  induction h with
  | empty =>
    intro m hm n d hn
    unfold Model.get? at hn
    rw [hm] at hn
    exact absurd hn (by simp)
  | @insert t e rest free good ih =>
    intro m hm n d hn
    -- the model before `e` came in
    have hbefore : ∀ {k : String} {x : Declaration}, t.get? k = some x → ∃ l, m.Lineage x l := by
      intro k x hk
      obtain ⟨l, hl⟩ := ih (m := { m with declarations := t }) rfl hk
      refine ⟨l, hl.mono ?_⟩
      intro k' x' hk'
      show m.declarations.get? k' = some x'
      rw [hm]
      exact Table.get?_insert_of_some free hk'
    unfold Model.get? at hn
    rw [hm, Table.get?_insert] at hn
    split at hn
    next =>
      injection hn with hd
      subst hd
      cases hp : e.parent with
      | none => exact ⟨[e], .root hp⟩
      | some p =>
        obtain ⟨f, hf, _⟩ := good.within p hp
        obtain ⟨l, hl⟩ := hbefore hf
        refine ⟨e :: l, .step hp ?_ hl⟩
        show m.declarations.get? p = some f
        rw [hm]
        exact Table.get?_insert_of_some free hf
    next => exact hbefore hn

/-! ## §3. Runs -/

theorem Added.grown {a b : Assembly} {d : Declaration} (h : Added a d b)
    (ha : Grown a.declarations) : Grown b.declarations := by
  cases h with
  | orphaned => exact ha
  | duplicate => exact ha
  | misfit => exact ha
  | kept _ free good => exact ha.insert free good

theorem grown_foldl_add (ds : List Declaration) {a : Assembly} (ha : Grown a.declarations) :
    Grown (ds.foldl add a).declarations := by
  induction ds generalizing a with
  | nil => exact ha
  | cons d ds ih => exact ih ((added_add a d).grown ha)

theorem grown_foldl_addUnit (us : List ParsedUnit) {state : Model × List Warning}
    (hstate : Grown state.1.declarations) : Grown (us.foldl addUnit state).1.declarations := by
  induction us generalizing state with
  | nil => exact hstate
  | cons u us ih => exact ih (grown_foldl_add u.declarations hstate)

end Assembly

theorem grown_ofUnits (root : String) (units : List ParsedUnit) :
    Assembly.Grown (ofUnits root units).1.declarations :=
  Assembly.grown_foldl_addUnit _ Assembly.Grown.empty

theorem keyed_ofUnits (root : String) (units : List ParsedUnit) :
    (ofUnits root units).1.Keyed := fun _ _ h => (grown_ofUnits root units).keyed h

theorem lineage_ofUnits (root : String) (units : List ParsedUnit) {n : String} {d : Declaration}
    (h : (ofUnits root units).1.get? n = some d) : ∃ l, (ofUnits root units).1.Lineage d l :=
  (grown_ofUnits root units).lineage rfl h

theorem increasing_references_ofUnits (root : String) (units : List ParsedUnit) :
    (ofUnits root units).1.references.Pairwise fun r s => Mention.order r s = .lt :=
  increasing_sortDistinct _

theorem source_mem_ofUnits {root : String} {units : List ParsedUnit} {r : Mention}
    (h : r ∈ (ofUnits root units).1.references) :
    ∃ d, (ofUnits root units).1.get? r.source = some d := by
  have hmem := mem_sortDistinct.mp h
  exact Table.contains_iff.mp (List.mem_filter.mp hmem).2

/-! ## §4. Coherence -/

/-- A model whose parts agree with each other. -/
structure Coherent (m : Model) : Prop where
  /-- Declarations are stored under their own names. -/
  keyed : ∀ n d, m.get? n = some d → d.qualifiedName = n
  /-- Ranges are not inverted. -/
  range : ∀ n d, m.get? n = some d → d.lineStart ≤ d.lineEnd
  /-- A parent is there and contains its child. -/
  enclosed : ∀ n d p, m.get? n = some d → d.parent = some p →
    ∃ e, m.get? p = some e ∧ e.contains d = true
  /-- No infinite way leads upwards. -/
  wellFounded : WellFounded m.ParentOf
  /-- The way upwards ends at a declaration without a parent, repeats no name, and is the one that
  test records are credited along. -/
  lineage : ∀ n d, m.get? n = some d → m.Lineage d (Crediting.withEnclosing m d) ∧
    ((Crediting.withEnclosing m d).map (·.qualifiedName)).Nodup
  /-- Mentions are sorted, and none is there twice. -/
  increasing : m.references.Pairwise fun r s => Mention.order r s = .lt
  /-- The source of a mention is declared. -/
  sources : ∀ r ∈ m.references, ∃ d, m.get? r.source = some d

/-- **The model of any parsed units is coherent.** -/
theorem coherent_ofUnits (root : String) (units : List ParsedUnit) :
    (ofUnits root units).1.Coherent where
  keyed _ _ h := keyed_ofUnits root units h
  range _ _ h := ((grown_ofUnits root units).fitsIn h).range
  enclosed _ _ p h hp := ((grown_ofUnits root units).fitsIn h).within p hp
  wellFounded := wellFounded_parentOf fun _ _ h => lineage_ofUnits root units h
  lineage n d h := by
    have keyed := keyed_ofUnits root units
    obtain ⟨l, hl⟩ := lineage_ofUnits root units h
    have hd : (ofUnits root units).1.get? d.qualifiedName = some d := by rw [keyed h]; exact h
    rw [withEnclosing_eq keyed hl hd]
    exact ⟨hl, hl.nodup keyed hd⟩
  increasing := increasing_references_ofUnits root units
  sources _ h := source_mem_ofUnits h

end CodeAtlas.Model
