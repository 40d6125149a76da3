/-
  CodeAtlas.Proofs.Precedence — which file keeps a name.

  Units in the shape that extraction gives them clash only over top-level names.  The unit with the
  smallest path that declares a top-level name keeps it, together with everything nested in it;
  every other unit loses its declaration of that name, what is nested in it and the mentions made
  there, and one warning says so.

  The file at hand decides by the table of the files before it alone: a declaration is kept iff its
  STEM, the top-level name it stands or falls with, is not in that table (`Progress`).  Over all
  files this makes the first file in path order the winner (`Settled`).  Paths are compared by code
  points, which is also the order of their bytes.

  Main result: `settles_ofUnits`.
-/
import CodeAtlas.Proofs.Assembly
import CodeAtlas.Proofs.Loop

namespace CodeAtlas

/-! ## §1. Units as extraction shapes them -/

namespace ParsedUnit

/-- A unit declares a qualified name. -/
def Declares (u : ParsedUnit) (name : String) : Prop :=
  ∃ d ∈ u.declarations, d.qualifiedName = name

/-- The shape of a unit that comes from extraction. -/
structure WellShaped (u : ParsedUnit) : Prop where
  distinct : (u.declarations.map (·.qualifiedName)).Nodup
  path : ∀ d ∈ u.declarations, d.filePath = u.filePath
  range : ∀ d ∈ u.declarations, d.lineStart ≤ d.lineEnd
  /-- A parent is an earlier top-level declaration that contains its child. -/
  nested : ∀ before d after p, u.declarations = before ++ d :: after → d.parent = some p →
    ∃ e ∈ before, e.parent = none ∧ e.qualifiedName = p ∧ e.contains d = true
  nestedName : ∀ d ∈ u.declarations, ∀ p, d.parent = some p → d.qualifiedName = Name.member p d.name
  topName : ∀ d ∈ u.declarations, d.parent = none → '.' ∉ d.qualifiedName.toList
  source : ∀ r ∈ u.references, u.Declares r.source

end ParsedUnit

/-- The top-level name that a declaration stands or falls with. -/
def Declaration.stem (d : Declaration) : String := d.parent.getD d.qualifiedName

namespace Declaration

theorem stem_of_parentless {d : Declaration} (h : d.parent = none) : d.stem = d.qualifiedName := by
  unfold stem
  rw [h]
  rfl

theorem stem_of_parent {d : Declaration} {p : String} (h : d.parent = some p) : d.stem = p := by
  unfold stem
  rw [h]
  rfl

end Declaration

namespace ParsedUnit.WellShaped

variable {u : ParsedUnit}

/-- The parent of a declaration, as a declaration of the same unit. -/
theorem parent_mem (hu : u.WellShaped) {d : Declaration} (hd : d ∈ u.declarations) {p : String}
    (hp : d.parent = some p) :
    ∃ e ∈ u.declarations, e.parent = none ∧ e.qualifiedName = p ∧ e.contains d = true := by
  obtain ⟨before, after, hsplit⟩ := List.append_of_mem hd
  obtain ⟨e, he, h⟩ := hu.nested before d after p hsplit hp
  refine ⟨e, ?_, h⟩
  rw [hsplit]
  exact List.mem_append_left _ he

/-- A stem is declared at top level. -/
theorem stem_mem (hu : u.WellShaped) {d : Declaration} (hd : d ∈ u.declarations) :
    ∃ e ∈ u.declarations, e.parent = none ∧ e.qualifiedName = d.stem := by
  cases hp : d.parent with
  | none => exact ⟨d, hd, hp, (Declaration.stem_of_parentless hp).symm⟩
  | some p =>
    obtain ⟨e, he, htop, hname, _⟩ := hu.parent_mem hd hp
    exact ⟨e, he, htop, by rw [hname, Declaration.stem_of_parent hp]⟩

theorem dot_not_mem_stem (hu : u.WellShaped) {d : Declaration} (hd : d ∈ u.declarations) :
    '.' ∉ d.stem.toList := by
  obtain ⟨e, he, htop, hname⟩ := hu.stem_mem hd
  rw [← hname]
  exact hu.topName e he htop

/-- A stem is read off the name: it is what stands in front of the first dot. -/
theorem stem_toList (hu : u.WellShaped) {d : Declaration} (hd : d ∈ u.declarations) :
    d.stem.toList = d.qualifiedName.toList.takeWhile (· != '.') := by
  have hall : ∀ c ∈ d.stem.toList, (c != '.') = true := by
    intro c hc
    rw [bne_iff_ne]
    rintro rfl
    exact hu.dot_not_mem_stem hd hc
  -- behind the stem there is nothing, or a dot
  have hname : ∃ rest, d.qualifiedName.toList = d.stem.toList ++ rest ∧
      rest.takeWhile (· != '.') = [] := by
    cases hp : d.parent with
    | none =>
      refine ⟨[], ?_, rfl⟩
      rw [Declaration.stem_of_parentless hp, List.append_nil]
    | some p =>
      refine ⟨'.' :: d.name.toList, ?_, rfl⟩
      rw [Declaration.stem_of_parent hp, hu.nestedName d hd p hp]
      unfold Name.member
      simp
  obtain ⟨rest, hrest, hstop⟩ := hname
  rw [hrest, List.takeWhile_append_of_pos hall, hstop, List.append_nil]

/-- Equal names have equal stems, also across units. -/
theorem stem_eq_of_name_eq (hu : u.WellShaped) {v : ParsedUnit} (hv : v.WellShaped)
    {d e : Declaration} (hd : d ∈ u.declarations) (he : e ∈ v.declarations)
    (h : d.qualifiedName = e.qualifiedName) : d.stem = e.stem := by
  apply String.toList_inj.mp
  rw [hu.stem_toList hd, hv.stem_toList he, h]

/-- A declaration that is named like a stem is its own stem. -/
theorem stem_eq_of_name_eq_stem (hu : u.WellShaped) {v : ParsedUnit} (hv : v.WellShaped)
    {d e : Declaration} (hd : d ∈ u.declarations) (he : e ∈ v.declarations)
    (h : e.qualifiedName = d.stem) : e.stem = d.stem := by
  obtain ⟨top, htop, hnone, hname⟩ := hu.stem_mem hd
  rw [hv.stem_eq_of_name_eq hu he htop (h.trans hname.symm), Declaration.stem_of_parentless hnone,
    hname]

/-- Declarations of one unit are known by their names. -/
theorem eq_of_name_eq (hu : u.WellShaped) {d e : Declaration} (hd : d ∈ u.declarations)
    (he : e ∈ u.declarations) (h : d.qualifiedName = e.qualifiedName) : d = e :=
  List.inj_on_of_nodup_map hu.distinct hd he h

end ParsedUnit.WellShaped

namespace Model

/-! ## §2. One unit -/

/-- The warning about a declaration whose name `e` has already. -/
def duplicateWarning (d e : Declaration) : Warning :=
  .ofDeclaration d.filePath d.lineStart (duplicateMessage d e)

/-- The warning that a top-level declaration raises against the names of a table. -/
def clash (t : Table String Declaration) (d : Declaration) : Option Warning :=
  if d.parent = none then (t.get? d.qualifiedName).map (duplicateWarning d) else none

/-- Where a unit stands after some of its declarations: `t` and `ws` are the table and the warnings
before it.  What became of a declaration depends on its stem alone. -/
structure Progress (t : Table String Declaration) (ws : List Warning) (done : List Declaration)
    (a : Assembly) : Prop where
  kept : ∀ n d, a.declarations.get? n = some d ↔
    t.get? n = some d ∨ d ∈ done ∧ d.qualifiedName = n ∧ t.get? d.stem = none
  dropped : ∀ n, n ∈ a.dropped ↔ ∃ d ∈ done, d.qualifiedName = n ∧ t.get? d.stem ≠ none
  warnings : a.warnings = ws ++ done.filterMap (clash t)

namespace Progress

variable {u : ParsedUnit} {t : Table String Declaration} {ws : List Warning}
  {done rest : List Declaration} {d : Declaration} {a : Assembly}

/-- The name of the next declaration is looked up among the earlier units only. -/
theorem get?_next (h : Progress t ws done a) (hu : u.WellShaped)
    (hsplit : u.declarations = done ++ d :: rest) :
    a.declarations.get? d.qualifiedName = t.get? d.qualifiedName := by
  have hnew : ∀ e ∈ done, e.qualifiedName ≠ d.qualifiedName := by
    have hdistinct := hu.distinct
    rw [hsplit, List.map_append, List.map_cons, List.nodup_append] at hdistinct
    intro e he
    exact hdistinct.2.2 _ (List.mem_map_of_mem he) _ List.mem_cons_self
  apply Option.ext
  intro e
  rw [h.kept]
  constructor
  · rintro (hold | ⟨hdone, hname, _⟩)
    · exact hold
    · exact absurd hname (hnew e hdone)
  · exact .inl

/-- The parent of the next declaration was dropped iff its stem is taken. -/
theorem parent_mem_dropped (h : Progress t ws done a) (hu : u.WellShaped)
    (hsplit : u.declarations = done ++ d :: rest) {p : String} (hp : d.parent = some p) :
    p ∈ a.dropped ↔ t.get? d.stem ≠ none := by
  have hd : d ∈ u.declarations := by rw [hsplit]; simp
  have hdone : ∀ {e}, e ∈ done → e ∈ u.declarations := by
    intro e he
    rw [hsplit]
    exact List.mem_append_left _ he
  have hstem := Declaration.stem_of_parent hp
  rw [h.dropped]
  constructor
  · rintro ⟨e, he, hname, htaken⟩
    rw [hu.stem_eq_of_name_eq_stem hu hd (hdone he) (hname.trans hstem.symm)] at htaken
    exact htaken
  · intro htaken
    obtain ⟨e, he, htop, hname, _⟩ := hu.nested done d rest p hsplit hp
    refine ⟨e, he, hname, ?_⟩
    rw [Declaration.stem_of_parentless htop, hname, ← hstem]
    exact htaken

/-- The next declaration fits if its stem is free. -/
theorem fitsIn (h : Progress t ws done a) (hu : u.WellShaped)
    (hsplit : u.declarations = done ++ d :: rest) (hfree : t.get? d.stem = none) :
    FitsIn a.declarations d := by
  have hd : d ∈ u.declarations := by rw [hsplit]; simp
  refine ⟨?_, hu.range d hd⟩
  intro p hp
  obtain ⟨e, he, htop, hname, hcontains⟩ := hu.nested done d rest p hsplit hp
  refine ⟨e, (h.kept p e).mpr (.inr ⟨he, hname, ?_⟩), hcontains⟩
  rw [Declaration.stem_of_parentless htop, hname, ← Declaration.stem_of_parent hp]
  exact hfree

/-- A declaration whose stem is taken is dropped, with a warning if it is a top-level one. -/
theorem add_of_taken (h : Progress t ws done a) (hu : u.WellShaped)
    (hsplit : u.declarations = done ++ d :: rest) (htaken : t.get? d.stem ≠ none) :
    (a.add d).declarations = a.declarations ∧ (a.add d).dropped = d.qualifiedName :: a.dropped ∧
      (a.add d).warnings = a.warnings ++ (clash t d).toList := by
  have hget := h.get?_next hu hsplit
  -- a declaration that gets past its parent is a top-level one
  have htop : (∀ p, d.parent = some p → p ∉ a.dropped) → d.parent = none := by
    intro hwhole
    cases hp : d.parent with
    | none => rfl
    | some p => exact absurd ((h.parent_mem_dropped hu hsplit hp).mpr htaken) (hwhole p hp)
  have hadd := Assembly.added_add a d
  generalize a.add d = b at hadd
  cases hadd with
  | orphaned up lost =>
    have hclash : clash t d = none := by
      unfold clash
      rw [up]
      rfl
    rw [hclash]
    exact ⟨rfl, rfl, (List.append_nil _).symm⟩
  | @duplicate e whole taken =>
    have hclash : clash t d = some (duplicateWarning d e) := by
      unfold clash
      rw [if_pos (htop whole), ← hget, taken]
      rfl
    rw [hclash]
    exact ⟨rfl, rfl, rfl⟩
  | misfit whole free =>
    rw [hget, ← Declaration.stem_of_parentless (htop whole)] at free
    exact absurd free htaken
  | kept whole free =>
    rw [hget, ← Declaration.stem_of_parentless (htop whole)] at free
    exact absurd free htaken

/-- A declaration whose stem is free is kept. -/
theorem add_of_free (h : Progress t ws done a) (hu : u.WellShaped)
    (hsplit : u.declarations = done ++ d :: rest) (hfree : t.get? d.stem = none)
    (hname : t.get? d.qualifiedName = none) :
    (a.add d).declarations = a.declarations.insert d.qualifiedName d ∧
      (a.add d).dropped = a.dropped ∧ (a.add d).warnings = a.warnings := by
  have hget := h.get?_next hu hsplit
  have hadd := Assembly.added_add a d
  generalize a.add d = b at hadd
  cases hadd with
  | orphaned up lost => exact absurd hfree ((h.parent_mem_dropped hu hsplit up).mp lost)
  | duplicate whole taken =>
    rw [hget, hname] at taken
    exact absurd taken (by simp)
  | misfit whole free bad => exact absurd (h.fitsIn hu hsplit hfree) bad
  | kept whole free good => exact ⟨rfl, rfl, rfl⟩

variable (closed : t.get? d.stem = none → t.get? d.qualifiedName = none)

include closed in
theorem get?_add (h : Progress t ws done a) (hu : u.WellShaped)
    (hsplit : u.declarations = done ++ d :: rest) (n : String) (e : Declaration) :
    (a.add d).declarations.get? n = some e ↔
      a.declarations.get? n = some e ∨ e = d ∧ d.qualifiedName = n ∧ t.get? d.stem = none := by
  by_cases hfree : t.get? d.stem = none
  · rw [(h.add_of_free hu hsplit hfree (closed hfree)).1, Table.get?_insert]
    by_cases hn : n = d.qualifiedName
    · have hnone : a.declarations.get? n = none := by
        rw [hn, h.get?_next hu hsplit, closed hfree]
      rw [if_pos hn, hnone]
      simp [hn, hfree, eq_comm]
    · rw [if_neg hn]
      simp [Ne.symm hn]
  · rw [(h.add_of_taken hu hsplit hfree).1]
    simp [hfree]

include closed in
theorem mem_dropped_add (h : Progress t ws done a) (hu : u.WellShaped)
    (hsplit : u.declarations = done ++ d :: rest) (n : String) :
    n ∈ (a.add d).dropped ↔ n ∈ a.dropped ∨ d.qualifiedName = n ∧ t.get? d.stem ≠ none := by
  by_cases hfree : t.get? d.stem = none
  · rw [(h.add_of_free hu hsplit hfree (closed hfree)).2.1]
    simp [hfree]
  · rw [(h.add_of_taken hu hsplit hfree).2.1, List.mem_cons, or_comm, eq_comm]
    simp [hfree]

include closed in
theorem warnings_add (h : Progress t ws done a) (hu : u.WellShaped)
    (hsplit : u.declarations = done ++ d :: rest) :
    (a.add d).warnings = a.warnings ++ (clash t d).toList := by
  by_cases hfree : t.get? d.stem = none
  · have hclash : clash t d = none := by
      unfold clash
      rw [closed hfree]
      exact ite_self _
    rw [(h.add_of_free hu hsplit hfree (closed hfree)).2.2, hclash]
    exact (List.append_nil _).symm
  · exact (h.add_of_taken hu hsplit hfree).2.2

include closed in
/-- **One round**: the next declaration of a unit is kept or dropped by its stem. -/
theorem add (h : Progress t ws done a) (hu : u.WellShaped)
    (hsplit : u.declarations = done ++ d :: rest) : Progress t ws (done ++ [d]) (a.add d) where
  kept n e := by
    rw [h.get?_add closed hu hsplit, h.kept, or_assoc, List.mem_append, List.mem_singleton]
    constructor
    · rintro (hold | ⟨hmem, hkept⟩ | ⟨rfl, hkept⟩)
      · exact .inl hold
      · exact .inr ⟨.inl hmem, hkept⟩
      · exact .inr ⟨.inr rfl, hkept⟩
    · rintro (hold | ⟨hmem | rfl, hkept⟩)
      · exact .inl hold
      · exact .inr (.inl ⟨hmem, hkept⟩)
      · exact .inr (.inr ⟨rfl, hkept⟩)
  dropped n := by
    rw [h.mem_dropped_add closed hu hsplit, h.dropped]
    constructor
    · rintro (⟨e, he, hlost⟩ | hlost)
      · exact ⟨e, List.mem_append_left _ he, hlost⟩
      · exact ⟨d, by simp, hlost⟩
    · rintro ⟨e, he, hlost⟩
      rcases List.mem_append.mp he with he | he
      · exact .inl ⟨e, he, hlost⟩
      · rw [List.mem_singleton.mp he] at hlost
        exact .inr hlost
  warnings := by
    have hlast : [d].filterMap (clash t) = (clash t d).toList := by
      rw [List.filterMap_cons]
      cases clash t d <;> rfl
    rw [h.warnings_add closed hu hsplit, h.warnings, List.filterMap_append, hlast,
      List.append_assoc]

end Progress

/-- **One unit**: what joining it does, told by the model before it. -/
theorem progress_foldl_add {u : ParsedUnit} (hu : u.WellShaped) {t : Table String Declaration}
    (closed : ∀ d ∈ u.declarations, t.get? d.stem = none → t.get? d.qualifiedName = none)
    (ws : List Warning) :
    Progress t ws u.declarations
      (u.declarations.foldl Assembly.add { declarations := t, warnings := ws }) := by
  apply foldl_invariant
  · refine ⟨?_, ?_, (List.append_nil _).symm⟩ <;> simp
  · intro done d rest a hsplit h
    exact h.add (closed d (by rw [hsplit]; simp)) hu hsplit

section Join

variable {m : Model} (ws : List Warning) {u : ParsedUnit} (hu : u.WellShaped)
  (closed : ∀ d ∈ u.declarations, m.get? d.stem = none → m.get? d.qualifiedName = none)

include hu closed

theorem get?_addUnit (n : String) (d : Declaration) :
    (addUnit (m, ws) u).1.get? n = some d ↔ m.get? n = some d ∨
      d ∈ u.declarations ∧ d.qualifiedName = n ∧ m.get? d.stem = none :=
  (progress_foldl_add hu closed ws).kept n d

theorem warnings_addUnit :
    (addUnit (m, ws) u).2 = ws ++ u.declarations.filterMap (clash m.declarations) :=
  (progress_foldl_add hu closed ws).warnings

theorem mem_references_addUnit (r : Mention) :
    r ∈ (addUnit (m, ws) u).1.references ↔ r ∈ m.references ∨ r ∈ u.references ∧
      ∃ d ∈ u.declarations, d.qualifiedName = r.source ∧ m.get? d.stem = none := by
  have hdropped := (progress_foldl_add hu closed ws).dropped r.source
  unfold addUnit
  simp only [List.mem_append, List.mem_filter, Bool.not_eq_true', List.contains_eq_mem,
    decide_eq_false_iff_not, hdropped]
  refine or_congr_right (and_congr_right fun hr => ?_)
  obtain ⟨d, hd, hname⟩ := hu.source r hr
  constructor
  · intro hkept
    refine ⟨d, hd, hname, ?_⟩
    by_contra hstem
    exact hkept ⟨d, hd, hname, hstem⟩
  · rintro ⟨e, he, hename, hstem⟩ ⟨x, hx, hxname, hlost⟩
    rw [hu.eq_of_name_eq hx he (hxname.trans hename.symm)] at hlost
    exact hlost hstem

end Join

/-! ## §3. All units -/

/-- No unit that declares a name has a smaller path. -/
def First (units : List ParsedUnit) (u : ParsedUnit) (name : String) : Prop :=
  ∀ v ∈ units, v.Declares name → u.filePath ≤ v.filePath

/-- The warning about a declaration that lost its name. -/
def lossWarning (m : Model) (d : Declaration) : Warning :=
  duplicateWarning d ((m.get? d.qualifiedName).getD d)

/-- Whether a declaration is a top-level one that another unit keeps the name of. -/
def isLoser (m : Model) (d : Declaration) : Bool :=
  d.parent.isNone && m.get? d.qualifiedName != some d

/-- The warning that a declaration gave rise to, told by the finished model. -/
def loss (m : Model) (d : Declaration) : Option Warning :=
  if isLoser m d then some (lossWarning m d) else none

theorem loss_of_parent {m : Model} {d : Declaration} {p : String} (hp : d.parent = some p) :
    loss m d = none := by
  unfold loss isLoser
  rw [hp]
  rfl

theorem loss_of_kept {m : Model} {d : Declaration} (h : m.get? d.qualifiedName = some d) :
    loss m d = none := by
  unfold loss isLoser
  simp [h]

theorem loss_of_lost {m : Model} {d e : Declaration} (htop : d.parent = none)
    (h : m.get? d.qualifiedName = some e) (hne : e ≠ d) :
    loss m d = some (duplicateWarning d e) := by
  unfold loss isLoser lossWarning
  simp [htop, h, hne]

theorem filterMap_loss (m : Model) (ds : List Declaration) :
    ds.filterMap (loss m) = (ds.filter m.isLoser).map m.lossWarning := by
  rw [← List.filterMap_eq_map, List.filterMap_filter]
  rfl

/-- Where the join stands after some units, taken in path order. -/
structure Settled (done : List ParsedUnit) (m : Model) (ws : List Warning) : Prop where
  kept : ∀ n d, m.get? n = some d ↔
    d.qualifiedName = n ∧ ∃ u ∈ done, d ∈ u.declarations ∧ First done u d.stem
  /-- Some unit holds each stem that was declared. -/
  covered : ∀ u ∈ done, ∀ d ∈ u.declarations, m.get? d.stem ≠ none
  references : ∀ r, r ∈ m.references ↔ ∃ u ∈ done, r ∈ u.references ∧
    ∃ d ∈ u.declarations, d.qualifiedName = r.source ∧ m.get? r.source = some d
  warnings : ws = done.flatMap fun u => u.declarations.filterMap (loss m)

namespace Settled

variable {done : List ParsedUnit} {m : Model} {ws : List Warning} {u : ParsedUnit}

theorem mem_of_get? (h : Settled done m ws) {n : String} {d : Declaration}
    (hn : m.get? n = some d) : d.qualifiedName = n ∧ ∃ v ∈ done, d ∈ v.declarations := by
  obtain ⟨hname, v, hv, hd, _⟩ := (h.kept n d).mp hn
  exact ⟨hname, v, hv, hd⟩

variable (hdone : ∀ v ∈ done, v.WellShaped) (hu : u.WellShaped)

include hdone hu

/-- A name whose stem is free is free. -/
theorem closed (h : Settled done m ws) :
    ∀ d ∈ u.declarations, m.get? d.stem = none → m.get? d.qualifiedName = none := by
  intro d hd hstem
  by_contra hname
  obtain ⟨e, he⟩ := Option.ne_none_iff_exists'.mp hname
  obtain ⟨hename, v, hv, hev⟩ := h.mem_of_get? he
  apply h.covered v hv e hev
  rw [(hdone v hv).stem_eq_of_name_eq hu hev hd hename]
  exact hstem

/-- A stem is taken iff an earlier unit declares it. -/
theorem stem_taken_iff (h : Settled done m ws) {d : Declaration} (hd : d ∈ u.declarations) :
    m.get? d.stem ≠ none ↔ ∃ v ∈ done, v.Declares d.stem := by
  constructor
  · intro htaken
    obtain ⟨e, he⟩ := Option.ne_none_iff_exists'.mp htaken
    obtain ⟨hname, v, hv, hev⟩ := h.mem_of_get? he
    exact ⟨v, hv, e, hev, hname⟩
  · rintro ⟨v, hv, e, he, hname⟩
    have hcovered := h.covered v hv e he
    rw [hu.stem_eq_of_name_eq_stem (hdone v hv) hd he hname] at hcovered
    exact hcovered

variable (hbefore : ∀ v ∈ done, v.filePath < u.filePath)

include hbefore

/-- Units of different paths share no declaration. -/
theorem not_mem_of_mem {v : ParsedUnit} (hv : v ∈ done) {d : Declaration}
    (hd : d ∈ v.declarations) : d ∉ u.declarations := by
  intro hdu
  have hlt := hbefore v hv
  rw [← (hdone v hv).path d hd, ← hu.path d hdu] at hlt
  exact String.lt_irrefl _ hlt

theorem kept_addUnit (h : Settled done m ws) (n : String) (d : Declaration) :
    (addUnit (m, ws) u).1.get? n = some d ↔ d.qualifiedName = n ∧
      ∃ v ∈ done ++ [u], d ∈ v.declarations ∧ First (done ++ [u]) v d.stem := by
  rw [get?_addUnit ws hu (h.closed hdone hu), h.kept]
  constructor
  · rintro (⟨hname, v, hv, hd, hfirst⟩ | ⟨hd, hname, hfree⟩)
    · refine ⟨hname, v, List.mem_append_left _ hv, hd, ?_⟩
      intro w hw hdeclares
      rcases List.mem_append.mp hw with hw | hw
      · exact hfirst w hw hdeclares
      · rw [List.mem_singleton.mp hw]
        exact String.lt_asymm (hbefore v hv)
    · refine ⟨hname, u, by simp, hd, ?_⟩
      intro w hw hdeclares
      rcases List.mem_append.mp hw with hw | hw
      · exact absurd hfree ((h.stem_taken_iff hdone hu hd).mpr ⟨w, hw, hdeclares⟩)
      · have hwu : w = u := List.mem_singleton.mp hw
        subst hwu
        exact String.le_refl _
  · rintro ⟨hname, v, hv, hd, hfirst⟩
    rcases List.mem_append.mp hv with hv | hv
    · refine .inl ⟨hname, v, hv, hd, ?_⟩
      intro w hw
      exact hfirst w (List.mem_append_left _ hw)
    · rw [List.mem_singleton.mp hv] at hd hfirst
      refine .inr ⟨hd, hname, ?_⟩
      by_contra htaken
      obtain ⟨w, hw, hdeclares⟩ := (h.stem_taken_iff hdone hu hd).mp htaken
      exact hfirst w (List.mem_append_left _ hw) hdeclares (hbefore w hw)

omit hbefore in
theorem covered_addUnit (h : Settled done m ws) :
    ∀ v ∈ done ++ [u], ∀ d ∈ v.declarations, (addUnit (m, ws) u).1.get? d.stem ≠ none := by
  intro v hv d hd
  have hget := get?_addUnit ws hu (h.closed hdone hu) d.stem
  by_cases hfree : m.get? d.stem = none
  · rcases List.mem_append.mp hv with hv | hv
    · exact absurd hfree (h.covered v hv d hd)
    · rw [List.mem_singleton.mp hv] at hd
      obtain ⟨e, he, htop, hname⟩ := hu.stem_mem hd
      have hstem : m.get? e.stem = none := by
        rw [Declaration.stem_of_parentless htop, hname]
        exact hfree
      rw [(hget e).mpr (.inr ⟨he, hname, hstem⟩)]
      simp
  · obtain ⟨e, he⟩ := Option.ne_none_iff_exists'.mp hfree
    rw [(hget e).mpr (.inl he)]
    simp

theorem references_addUnit (h : Settled done m ws) (r : Mention) :
    r ∈ (addUnit (m, ws) u).1.references ↔ ∃ v ∈ done ++ [u], r ∈ v.references ∧
      ∃ d ∈ v.declarations, d.qualifiedName = r.source ∧
        (addUnit (m, ws) u).1.get? r.source = some d := by
  have hget := get?_addUnit ws hu (h.closed hdone hu) r.source
  rw [mem_references_addUnit ws hu (h.closed hdone hu), h.references]
  constructor
  · rintro (⟨v, hv, hr, d, hd, hname, hkept⟩ | ⟨hr, d, hd, hname, hfree⟩)
    · exact ⟨v, List.mem_append_left _ hv, hr, d, hd, hname, (hget d).mpr (.inl hkept)⟩
    · exact ⟨u, by simp, hr, d, hd, hname, (hget d).mpr (.inr ⟨hd, hname, hfree⟩)⟩
  · rintro ⟨v, hv, hr, d, hd, hname, hkept⟩
    rcases List.mem_append.mp hv with hv | hv
    · rcases (hget d).mp hkept with hkept | ⟨hdu, _⟩
      · exact .inl ⟨v, hv, hr, d, hd, hname, hkept⟩
      · exact absurd hdu (not_mem_of_mem hdone hu hbefore hv hd)
    · rw [List.mem_singleton.mp hv] at hr hd
      rcases (hget d).mp hkept with hkept | ⟨_, _, hfree⟩
      · obtain ⟨_, w, hw, hdw⟩ := h.mem_of_get? hkept
        exact absurd hd (not_mem_of_mem hdone hu hbefore hw hdw)
      · exact .inr ⟨hr, d, hd, hname, hfree⟩

/-- The clashes of the unit at hand are the losses that the model after it tells. -/
theorem clash_eq_loss (h : Settled done m ws) {d : Declaration} (hd : d ∈ u.declarations) :
    clash m.declarations d = loss (addUnit (m, ws) u).1 d := by
  have hget := get?_addUnit ws hu (h.closed hdone hu) d.qualifiedName
  unfold clash
  cases hp : d.parent with
  | some p =>
    rw [loss_of_parent hp]
    rfl
  | none =>
    rw [if_pos rfl]
    show (m.get? d.qualifiedName).map _ = _
    cases hname : m.get? d.qualifiedName with
    | none =>
      rw [← Declaration.stem_of_parentless hp] at hname
      rw [loss_of_kept ((hget d).mpr (.inr ⟨hd, rfl, hname⟩))]
      rfl
    | some e =>
      have hne : e ≠ d := by
        rintro rfl
        obtain ⟨_, w, hw, hdw⟩ := h.mem_of_get? hname
        exact not_mem_of_mem hdone hu hbefore hw hdw hd
      rw [loss_of_lost hp ((hget e).mpr (.inl hname)) hne]
      rfl

omit hbefore in
/-- The losses of earlier units stay what they were. -/
theorem loss_addUnit (h : Settled done m ws) {v : ParsedUnit} (hv : v ∈ done) {d : Declaration}
    (hd : d ∈ v.declarations) : loss (addUnit (m, ws) u).1 d = loss m d := by
  cases hp : d.parent with
  | some p => rw [loss_of_parent hp, loss_of_parent hp]
  | none =>
    have hcovered := h.covered v hv d hd
    rw [Declaration.stem_of_parentless hp] at hcovered
    obtain ⟨e, he⟩ := Option.ne_none_iff_exists'.mp hcovered
    have he' := (get?_addUnit ws hu (h.closed hdone hu) _ e).mpr (.inl he)
    unfold loss isLoser lossWarning
    rw [he, he']

/-- **One unit more**, behind all others in path order. -/
theorem addUnit (h : Settled done m ws) :
    Settled (done ++ [u]) (Model.addUnit (m, ws) u).1 (Model.addUnit (m, ws) u).2 where
  kept := h.kept_addUnit hdone hu hbefore
  covered := h.covered_addUnit hdone hu
  references := h.references_addUnit hdone hu hbefore
  warnings := by
    have hold : done.flatMap (fun v => v.declarations.filterMap (loss m)) =
        done.flatMap fun v => v.declarations.filterMap (loss (Model.addUnit (m, ws) u).1) := by
      apply List.flatMap_congr
      intro v hv
      apply List.filterMap_congr
      intro d hd
      exact (h.loss_addUnit hdone hu hv hd).symm
    have hnew : u.declarations.filterMap (clash m.declarations) =
        u.declarations.filterMap (loss (Model.addUnit (m, ws) u).1) := by
      apply List.filterMap_congr
      intro d hd
      exact h.clash_eq_loss hdone hu hbefore hd
    rw [warnings_addUnit ws hu (h.closed hdone hu), hnew, List.flatMap_append, ← hold, ← h.warnings]
    simp

end Settled

/-- Distinct paths that are sorted are strictly increasing. -/
theorem increasing_paths {units : List ParsedUnit} (paths : (units.map (·.filePath)).Nodup) :
    (sortBy (compareOn ParsedUnit.filePath) units).Pairwise fun u v => u.filePath < v.filePath := by
  have hsorted : (sortBy (compareOn ParsedUnit.filePath) units).Pairwise
      fun u v => (compareOn ParsedUnit.filePath u v).isLE := pairwise_sortBy units
  have hdistinct : (sortBy (compareOn ParsedUnit.filePath) units).Pairwise
      fun u v => u.filePath ≠ v.filePath :=
    List.pairwise_map.mp (((sortBy_perm _ units).map _).nodup_iff.mpr paths)
  refine (hsorted.and hdistinct).imp ?_
  rintro u v ⟨hle, hne⟩
  exact lt_of_isLE_compare hle hne

/-- **All units**, in path order. -/
theorem settled_foldl_addUnit (root : String) {units : List ParsedUnit}
    (shaped : ∀ u ∈ units, u.WellShaped)
    (increasing : units.Pairwise fun u v => u.filePath < v.filePath) :
    Settled units (units.foldl addUnit ({ sourceRoot := root }, [])).1
      (units.foldl addUnit ({ sourceRoot := root }, [])).2 := by
  apply foldl_invariant
    (P := fun done (state : Model × List Warning) => Settled done state.1 state.2)
  · refine ⟨?_, ?_, ?_, rfl⟩ <;> simp [Model.get?]
  · intro done u rest state hsplit h
    have hdone : ∀ v ∈ done, v ∈ units := by
      intro v hv
      rw [hsplit]
      exact List.mem_append_left _ hv
    have hbefore : ∀ v ∈ done, v.filePath < u.filePath := by
      rw [hsplit, List.pairwise_append] at increasing
      intro v hv
      exact increasing.2.2 v hv u List.mem_cons_self
    exact h.addUnit (fun v hv => shaped v (hdone v hv)) (shaped u (by rw [hsplit]; simp)) hbefore

/-- Which declarations, mentions and warnings units in the shape of extraction lead to. -/
structure Settles (units : List ParsedUnit) (m : Model) (ws : List Warning) : Prop where
  /-- A top-level declaration is kept iff its file has the smallest path that declares its name. -/
  top : ∀ u ∈ units, ∀ d ∈ u.declarations, d.parent = none →
    (m.get? d.qualifiedName = some d ↔ First units u d.qualifiedName)
  /-- A nested declaration is kept iff its parent was kept from the same file. -/
  nested : ∀ u ∈ units, ∀ d ∈ u.declarations, ∀ p, d.parent = some p →
    (m.get? d.qualifiedName = some d ↔
      ∃ e ∈ u.declarations, e.qualifiedName = p ∧ m.get? p = some e)
  /-- Nothing else is kept, and what is kept is unchanged. -/
  unchanged : ∀ n d, m.get? n = some d → d.qualifiedName = n ∧ ∃ u ∈ units, d ∈ u.declarations
  /-- A mention is kept iff its source was kept from its own file. -/
  references : ∀ r, r ∈ m.references ↔ ∃ u ∈ units, r ∈ u.references ∧
    ∃ d ∈ u.declarations, d.qualifiedName = r.source ∧ m.get? r.source = some d
  /-- No mention is kept twice. -/
  distinct : m.references.Nodup
  /-- There is one warning for each top-level declaration that was lost, and no other. -/
  warnings : ws.Perm (((units.flatMap (·.declarations)).filter m.isLoser).map m.lossWarning)

section Outcome

variable (root : String) {units : List ParsedUnit} (paths : (units.map (·.filePath)).Nodup)
  (shaped : ∀ u ∈ units, u.WellShaped)

include paths shaped

/-- The model before its mentions are settled. -/
theorem settled_ofUnits : Settled (sortBy (compareOn ParsedUnit.filePath) units)
    ((sortBy (compareOn ParsedUnit.filePath) units).foldl addUnit ({ sourceRoot := root }, [])).1
    (ofUnits root units).2 :=
  settled_foldl_addUnit root (fun u hu => shaped u (mem_sortBy.mp hu)) (increasing_paths paths)

/-- **A declaration is kept iff its file comes first with its stem.** -/
theorem get?_ofUnits {u : ParsedUnit} (hu : u ∈ units) {d : Declaration}
    (hd : d ∈ u.declarations) :
    (ofUnits root units).1.get? d.qualifiedName = some d ↔ First units u d.stem := by
  have hfirst : ∀ {v}, First (sortBy (compareOn ParsedUnit.filePath) units) v d.stem ↔
      First units v d.stem := by
    intro v
    unfold First
    simp only [mem_sortBy]
  refine ((settled_ofUnits root paths shaped).kept _ _).trans ⟨?_, ?_⟩
  · -- a declaration tells its unit by its path
    rintro ⟨_, v, hv, hdv, hf⟩
    have hpath : u.filePath = v.filePath := by
      rw [← (shaped u hu).path d hd, ← (shaped v (mem_sortBy.mp hv)).path d hdv]
    rw [List.inj_on_of_nodup_map paths hu (mem_sortBy.mp hv) hpath]
    exact hfirst.mp hf
  · intro hf
    exact ⟨rfl, u, mem_sortBy.mpr hu, hd, hfirst.mpr hf⟩

/-- A nested declaration goes with its parent, since they have one stem. -/
theorem get?_ofUnits_nested {u : ParsedUnit} (hu : u ∈ units) {d : Declaration}
    (hd : d ∈ u.declarations) {p : String} (hp : d.parent = some p) :
    (ofUnits root units).1.get? d.qualifiedName = some d ↔
      ∃ e ∈ u.declarations, e.qualifiedName = p ∧ (ofUnits root units).1.get? p = some e := by
  obtain ⟨e, he, htop, hname, _⟩ := (shaped u hu).parent_mem hd hp
  have hparent := get?_ofUnits root paths shaped hu he
  rw [Declaration.stem_of_parentless htop, hname] at hparent
  rw [get?_ofUnits root paths shaped hu hd, Declaration.stem_of_parent hp, ← hparent]
  constructor
  · intro hget
    exact ⟨e, he, hname, hget⟩
  · rintro ⟨x, hx, hxname, hget⟩
    rw [(shaped u hu).eq_of_name_eq hx he (hxname.trans hname.symm)] at hget
    exact hget

theorem mem_references_ofUnits (r : Mention) :
    r ∈ (ofUnits root units).1.references ↔ ∃ u ∈ units, r ∈ u.references ∧
      ∃ d ∈ u.declarations, d.qualifiedName = r.source ∧
        (ofUnits root units).1.get? r.source = some d := by
  show r ∈ sortDistinct _ _ ↔ _
  rw [mem_sortDistinct, List.mem_filter, (settled_ofUnits root paths shaped).references]
  simp only [mem_sortBy]
  constructor
  · exact And.left
  · rintro ⟨u, hu, hr, d, hd, hname, hget⟩
    exact ⟨⟨u, hu, hr, d, hd, hname, hget⟩, Table.contains_iff.mpr ⟨d, hget⟩⟩

theorem warnings_ofUnits_perm : (ofUnits root units).2.Perm
    (((units.flatMap (·.declarations)).filter (ofUnits root units).1.isLoser).map
      (ofUnits root units).1.lossWarning) := by
  have hsorted := sortBy_perm (compareOn ParsedUnit.filePath) units
  rw [(settled_ofUnits root paths shaped).warnings, ← List.filterMap_flatMap, ← filterMap_loss]
  exact (hsorted.flatMap_right _).filterMap _

end Outcome

/-- **Winner takes all.**  The smallest path that declares a top-level name keeps it with everything
nested in it. -/
theorem settles_ofUnits (root : String) (units : List ParsedUnit)
    (paths : (units.map (·.filePath)).Nodup) (shaped : ∀ u ∈ units, u.WellShaped) :
    Settles units (ofUnits root units).1 (ofUnits root units).2 where
  top u hu d hd htop := by
    rw [get?_ofUnits root paths shaped hu hd, Declaration.stem_of_parentless htop]
  nested _ hu _ hd _ hp := get?_ofUnits_nested root paths shaped hu hd hp
  unchanged n d hn := by
    obtain ⟨hname, u, hu, hd⟩ := (settled_ofUnits root paths shaped).mem_of_get? hn
    exact ⟨hname, u, mem_sortBy.mp hu, hd⟩
  references := mem_references_ofUnits root paths shaped
  distinct := nodup_of_increasing (increasing_references_ofUnits root units)
  warnings := warnings_ofUnits_perm root paths shaped

/-- A file that declares a class `Foo` with a method `bar` that calls a function. -/
def fooUnit (path : String) : ParsedUnit where
  filePath := path
  language := .php
  lineCount := 6
  declarations := [
    ⟨"Foo", "Foo", .type, .classType, none, "", "class Foo", .publicAccess, [], path, 2, 6⟩,
    ⟨"bar", "Foo.bar", .callable, .method, some "Foo", "", "function bar()", .publicAccess, [],
      path, 3, 5⟩]
  references := [⟨"Foo.bar", "strlen", none, .calls, 4⟩]
  warnings := []

theorem wellShaped_fooUnit (path : String) : (fooUnit path).WellShaped where
  distinct := by simp [fooUnit]
  path := by simp [fooUnit]
  range := by simp [fooUnit]
  nested := by
    intro before d after p hsplit hp
    rcases before with _ | ⟨x, _ | ⟨y, before⟩⟩
    · simp only [fooUnit, List.nil_append, List.cons.injEq] at hsplit
      obtain ⟨rfl, _⟩ := hsplit
      exact absurd hp (by simp)
    · simp only [fooUnit, List.cons_append, List.nil_append, List.cons.injEq] at hsplit
      obtain ⟨rfl, rfl, _⟩ := hsplit
      injection hp with hp
      exact ⟨_, List.mem_singleton_self _, rfl, hp, by simp [Declaration.contains]⟩
    · simp [fooUnit] at hsplit
  nestedName := by
    simp [fooUnit, Name.member]
  topName := by simp [fooUnit]
  source := by simp [fooUnit, ParsedUnit.Declares]

/-- Two files declare the same class with the same method; the smaller path keeps both. -/
theorem settles_ofUnits_clash :
    ((["b.php", "a.php"].map fooUnit).map (·.filePath)).Nodup ∧
      (∀ u ∈ ["b.php", "a.php"].map fooUnit, u.WellShaped) ∧
      Settles (["b.php", "a.php"].map fooUnit) (ofUnits "src" (["b.php", "a.php"].map fooUnit)).1
        (ofUnits "src" (["b.php", "a.php"].map fooUnit)).2 := by
  have paths : ((["b.php", "a.php"].map fooUnit).map (·.filePath)).Nodup := by decide
  have shaped : ∀ u ∈ ["b.php", "a.php"].map fooUnit, u.WellShaped := by
    intro u hu
    obtain ⟨path, _, rfl⟩ := List.mem_map.mp hu
    exact wellShaped_fooUnit path
  exact ⟨paths, shaped, settles_ofUnits "src" _ paths shaped⟩

end Model
end CodeAtlas
