/-
  CodeAtlas.Proofs.Extraction.Simulation — two walks through one tree, operation by operation.

  Two walks may start from different findings, and the second may leave private declarations out.
  Apart from that they do the same, one operation after the other: note a problem, declare, mention.
  A relation between what they have found therefore has to be looked at for single operations only.
  It may be lost on the way; what is lost stays lost, and the walks need not be compared any more.

  Main results:
    * `Simulation` — what the operations have to keep.
    * `related_member`, `related_typeDeclaration`, `related_recoverFrom` — declarations keep it.
    * `inStep_walk` — so do whole walks, if the statements are readable or both walks show the same.
-/
import CodeAtlas.Proofs.Extraction.Readings
import CodeAtlas.Proofs.Extraction.Steps
import CodeAtlas.Proofs.Loop
import CodeAtlas.Proofs.Tree

namespace CodeAtlas

/-! ## §1. Readers of one file -/

namespace Reader

/-- The same file, read with private declarations or without. -/
def showing (r : Reader) (b : Bool) : Reader := { r with includePrivate := b }

@[simp] theorem text_showing (r : Reader) (b : Bool) (n : Node) :
    (r.showing b).text n = r.text n := rfl

@[simp] theorem name?_showing (r : Reader) (b : Bool) (n : Node) :
    (r.showing b).name? n = r.name? n := rfl

@[simp] theorem constantName?_showing (r : Reader) (b : Bool) (n : Node) :
    (r.showing b).constantName? n = r.constantName? n := rfl

@[simp] theorem propertyName?_showing (r : Reader) (b : Bool) (n : Node) :
    (r.showing b).propertyName? n = r.propertyName? n := rfl

@[simp] theorem visibility_showing (r : Reader) (b : Bool) (ns : List Node) :
    (r.showing b).visibility ns = r.visibility ns := by
  unfold visibility
  simp only [text_showing]

end Reader

/-- The same scope over the same file. -/
def Setting.showing (s : Setting) (b : Bool) : Setting := { s with reader := s.reader.showing b }

@[simp] theorem Setting.reader_showing (s : Setting) (b : Bool) :
    (s.showing b).reader = s.reader.showing b := rfl

namespace Extraction

/-! ## §2. Operations -/

/-- What the operations of two walks keep of a relation `R` between their findings, as long as it is
not `Lost`.  The first walk reads with `r`; the second shows all that the first shows, or less. -/
structure Simulation (r : Reader) (b : Bool) (Lost : Extraction → Prop)
    (R : Extraction → Extraction → Prop) : Prop where
  less : ∀ v, (r.showing b).shows v = true → r.shows v = true
  lasting : ∀ {x x'}, Step r x x' → Lost x → Lost x'
  warned : ∀ {x y} (line : Nat) (message : String), R x y →
    R (x.warn r line message) (y.warn (r.showing b) line message)
  /-- Only the first walk finds a name taken. -/
  taken : ∀ {x y} (line : Nat) (name : String), R x y → x.declares name = true →
    y.declares name = false → Lost (x.warn r line (duplicateText name))
  /-- Only the second walk finds a name taken. -/
  free : ∀ {x y} (d : Declaration), R x y → x.declares d.qualifiedName = false →
    y.declares d.qualifiedName = true → Lost (x.push d)
  pushed : ∀ {x y} (d : Declaration), R x y → (r.showing b).shows d.visibility = true →
    x.declares d.qualifiedName = false → y.declares d.qualifiedName = false →
    R (x.push d) (y.push d)
  mentioned : ∀ {x y} (m : Mention), R x y → x.declares m.source = true →
    y.declares m.source = true → R (x.mention m) (y.mention m)
  /-- The first walk notes a problem with something that the second leaves out. -/
  silent : ∀ {x y} (v : Visibility) (line : Nat) (message : String),
    (r.showing b).shows v = false → R x y → r.shows v = true → R (x.warn r line message) y
  /-- The first walk declares something that the second leaves out. -/
  hidden : ∀ {x y} (d : Declaration) (ms : List Mention),
    (r.showing b).shows d.visibility = false → R x y → r.shows d.visibility = true →
    x.declares d.qualifiedName = false → (∀ m ∈ ms, m.source = d.qualifiedName) →
    R ((x.push d).mentionAll ms) y

theorem declares_mention (x : Extraction) (m : Mention) (name : String) :
    (x.mention m).declares name = x.declares name := by
  unfold declares
  rw [declarations_mention]

/-- Two findings are related, unless the relation is lost. -/
abbrev Related (Lost : Extraction → Prop) (R : Extraction → Extraction → Prop)
    (x y : Extraction) : Prop := Lost x ∨ R x y

variable {r : Reader} {b : Bool} {Lost : Extraction → Prop} {R : Extraction → Extraction → Prop}
  {x y : Extraction}

namespace Simulation

variable (sim : Simulation r b Lost R)
include sim

theorem lasts {x' : Extraction} (steps : Steps r x x') (lost : Lost x) : Lost x' := by
  induction steps with
  | refl => exact lost
  | tail _ step ih => exact sim.lasting step ih

/-- Both walks declare, and go on if the name is free. -/
theorem declare {place : Node} {d : Declaration} {next next' : Extraction → Extraction}
    (h : R x y) (shown : (r.showing b).shows d.visibility = true)
    (rest : Steps r (x.push d) (next (x.push d)))
    (goes_on : R (x.push d) (y.push d) →
      Related Lost R (next (x.push d)) (next' (y.push d))) :
    Related Lost R (x.declare r place d next) (y.declare (r.showing b) place d next') := by
  -- if the name is taken in one walk only, the relation is lost, and stays lost to the end
  unfold Extraction.declare
  cases hx : x.declares d.qualifiedName with
  | true =>
    rw [if_pos rfl]
    cases hy : y.declares d.qualifiedName with
    | true => exact .inr (sim.warned _ _ h)
    | false => exact .inl (sim.taken place.line d.qualifiedName h hx hy)
  | false =>
    rw [if_neg Bool.false_ne_true]
    cases hy : y.declares d.qualifiedName with
    | true => exact .inl (sim.lasts rest (sim.free d h hx hy))
    | false => exact goes_on (sim.pushed d h shown hx hy)

/-- The first walk declares something that the second leaves out, with what it mentions. -/
theorem declare_hidden {place : Node} {d : Declaration} {next : Extraction → Extraction}
    {ms : List Mention} (h : R x y) (shown : r.shows d.visibility = true)
    (hides : (r.showing b).shows d.visibility = false)
    (mentions : ∀ x, next x = x.mentionAll ms) (sources : ∀ m ∈ ms, m.source = d.qualifiedName) :
    R (x.declare r place d next) y := by
  unfold Extraction.declare
  cases hx : x.declares d.qualifiedName with
  | true => exact sim.silent d.visibility _ _ hides h shown
  | false =>
    rw [if_neg Bool.false_ne_true, mentions]
    exact sim.hidden d ms hides h shown hx sources

theorem mentionAll {source : String} (h : Related Lost R x y) (hx : x.declares source = true)
    (hy : y.declares source = true) {ms : List Mention} (sources : ∀ m ∈ ms, m.source = source) :
    Related Lost R (x.mentionAll ms) (y.mentionAll ms) := by
  rcases h with lost | h
  · exact .inl (sim.lasts (steps_mentionAll hx sources) lost)
  right
  unfold Extraction.mentionAll
  induction ms generalizing x y with
  | nil => exact h
  | cons m ms ih =>
    have hm : m.source = source := sources m List.mem_cons_self
    -- a mention declares nothing, so the source stays where it is
    have hx' : (x.mention m).declares source = true := (declares_mention x m source).trans hx
    have hy' : (y.mention m).declares source = true := (declares_mention y m source).trans hy
    rw [List.foldl_cons, List.foldl_cons]
    apply ih hx' hy' fun m' hm' => sources m' (List.mem_cons_of_mem _ hm')
    exact sim.mentioned m h (hm ▸ hx) (hm ▸ hy)

omit sim in
/-- A loop keeps what its rounds keep.  The rounds may rely on what no step destroys. -/
theorem foldl {α : Type} {f f' : Extraction → α → Extraction} {K : Extraction → Prop}
    (mono : ∀ {r x x'}, Steps r x x' → K x → K x')
    (steps : ∀ x a, K x → Steps r x (f x a))
    (steps' : ∀ y a, K y → Steps (r.showing b) y (f' y a))
    (round : ∀ x y a, K x → K y → Related Lost R x y → Related Lost R (f x a) (f' y a))
    (l : List α) (hx : K x) (hy : K y) (h : Related Lost R x y) :
    Related Lost R (l.foldl f x) (l.foldl f' y) := by
  induction l generalizing x y with
  | nil => exact h
  | cons a l ih => exact ih (mono (steps x a hx) hx) (mono (steps' y a hy) hy) (round x y a hx hy h)

/-- A loop over the elements of a declaration, which a walk enters only if it shows their
visibility.  If only the first walk enters it, each round has to keep the relation alone. -/
theorem elements {α : Type} {f f' : Extraction → α → Extraction} {K : Extraction → Prop}
    {v : Visibility} (mono : ∀ {r x x'}, Steps r x x' → K x → K x')
    (steps : r.shows v = true → ∀ x a, K x → Steps r x (f x a))
    (steps' : (r.showing b).shows v = true → ∀ y a, K y → Steps (r.showing b) y (f' y a))
    (both : (r.showing b).shows v = true → ∀ x y a, K x → Related Lost R x y →
      Related Lost R (f x a) (f' y a))
    (alone : (r.showing b).shows v = false → r.shows v = true → ∀ x a, R x y → R (f x a) y)
    (l : List α) (hx : K x) (hy : K y) (h : Related Lost R x y) :
    Related Lost R (if r.shows v then l.foldl f x else x)
      (if (r.showing b).shows v then l.foldl f' y else y) := by
  cases hshow' : (r.showing b).shows v with
  | true =>
    have hshow := sim.less v hshow'
    rw [if_pos hshow, if_pos rfl]
    exact foldl mono (steps hshow) (steps' hshow')
      (fun x y a hx _ h => both hshow' x y a hx h) l hx hy h
  | false =>
    rw [if_neg Bool.false_ne_true]
    split
    next hshow =>
      rcases h with lost | h
      · exact .inl (sim.lasts (steps_foldl mono (steps hshow) l hx) lost)
      · right
        exact foldl_invariant (P := fun _ x => R x y) h
          fun _ a _ x _ h => alone hshow' hshow x a h
    next => exact h

end Simulation
end Extraction

/-! ## §3. Single declarations -/

namespace Setting

open Extraction

variable {s : Setting} {b : Bool} {Lost : Extraction → Prop}
  {R : Extraction → Extraction → Prop} {x y : Extraction}
  (sim : Simulation s.reader b Lost R)
include sim

theorem related_callable {container : Option String} {construct : Construct} {site : Site}
    (h : Related Lost R x y) (inside : ∀ c, container = some c → x.HoldsType c) :
    Related Lost R (s.callable container construct site x)
      ((s.showing b).callable container construct site y) := by
  rcases h with lost | h
  · exact .inl (sim.lasts (steps_callable inside) lost)
  unfold callable
  rw [reader_showing, Reader.name?_showing, Reader.visibility_showing]
  cases s.reader.name? site.node with
  | none => exact .inr (sim.warned _ _ h)
  | some name =>
    dsimp only
    cases hshow' : (s.reader.showing b).shows (s.reader.visibility site.node.children) with
    | true =>
      rw [if_pos (sim.less _ hshow'), if_pos rfl]
      have hsources : ∀ m ∈ (s.mentioning (s.qualify container name) container).inCallable
          site.node, m.source = s.qualify container name :=
        fun m hm => Mentioning.source_inCallable hm
      apply sim.declare h hshow' (steps_mentionAll (declares_push x _) hsources)
      intro hpushed
      exact sim.mentionAll (.inr hpushed) (declares_push x _) (declares_push y _) hsources
    | false =>
      rw [if_neg Bool.false_ne_true]
      split
      next hshow =>
        exact .inr (sim.declare_hidden h hshow hshow' (fun _ => rfl)
          fun m hm => Mentioning.source_inCallable hm)
      next => exact .inr h

theorem related_property {container : String} {site : Site} {visibility : Visibility}
    {element : Node} (shown : (s.reader.showing b).shows visibility = true)
    (h : Related Lost R x y) (inside : x.HoldsType container) :
    Related Lost R (s.property container site visibility x element)
      ((s.showing b).property container site visibility y element) := by
  rcases h with lost | h
  · exact .inl (sim.lasts (steps_property (sim.less _ shown) inside) lost)
  unfold property
  rw [reader_showing, Reader.propertyName?_showing]
  cases s.reader.propertyName? element with
  | none => exact .inr (sim.warned _ _ h)
  | some name =>
    dsimp only
    cases site.node.child? "type" with
    | none => exact sim.declare h shown .refl .inr
    | some type =>
      have hsources : ∀ m ∈ (s.mentioning (Name.member container name) (some container)).ofType
          .propertyType type, m.source = Name.member container name :=
        fun m hm => Mentioning.source_ofType hm
      apply sim.declare h shown (steps_mentionAll (declares_push x _) hsources)
      intro hpushed
      exact sim.mentionAll (.inr hpushed) (declares_push x _) (declares_push y _) hsources

/-- A property that only the first walk shows. -/
theorem related_property_hidden {container : String} {site : Site} {visibility : Visibility}
    (shown : s.reader.shows visibility = true)
    (hides : (s.reader.showing b).shows visibility = false) (h : R x y) (element : Node) :
    R (s.property container site visibility x element) y := by
  unfold property
  cases s.reader.propertyName? element with
  | none => exact sim.silent visibility _ _ hides h shown
  | some name =>
    dsimp only
    cases site.node.child? "type" with
    | none =>
      exact sim.declare_hidden h shown hides (fun x => (rfl : _ = x.mentionAll [])) (by simp)
    | some type =>
      exact sim.declare_hidden h shown hides (fun _ => rfl) fun m hm => Mentioning.source_ofType hm

theorem related_constant {container : Option String} {site : Site} {visibility : Visibility}
    {element : Node} (shown : (s.reader.showing b).shows visibility = true)
    (h : Related Lost R x y) (inside : ∀ c, container = some c → x.HoldsType c) :
    Related Lost R (s.constant container site visibility x element)
      ((s.showing b).constant container site visibility y element) := by
  rcases h with lost | h
  · exact .inl (sim.lasts (steps_constant (sim.less _ shown) inside) lost)
  unfold constant
  rw [reader_showing, Reader.constantName?_showing]
  cases s.reader.constantName? element with
  | none => exact .inr (sim.warned _ _ h)
  | some name => exact sim.declare h shown .refl .inr

/-- A constant that only the first walk shows. -/
theorem related_constant_hidden {container : Option String} {site : Site} {visibility : Visibility}
    (shown : s.reader.shows visibility = true)
    (hides : (s.reader.showing b).shows visibility = false) (h : R x y) (element : Node) :
    R (s.constant container site visibility x element) y := by
  unfold constant
  cases s.reader.constantName? element with
  | none => exact sim.silent visibility _ _ hides h shown
  | some name =>
    exact sim.declare_hidden h shown hides (fun x => (rfl : _ = x.mentionAll [])) (by simp)

theorem related_enumCase {container : String} {site : Site} (h : Related Lost R x y)
    (inside : x.HoldsType container) :
    Related Lost R (s.enumCase container site x) ((s.showing b).enumCase container site y) := by
  rcases h with lost | h
  · exact .inl (sim.lasts (steps_enumCase inside) lost)
  unfold enumCase
  rw [reader_showing, Reader.name?_showing]
  cases s.reader.name? site.node with
  | none => exact .inr (sim.warned _ _ h)
  | some name => exact sim.declare h (shows_public _) .refl .inr

/-! ## §4. Types -/

theorem related_properties {container : String} {site : Site} (h : Related Lost R x y)
    (hx : x.HoldsType container) (hy : y.HoldsType container) :
    Related Lost R (s.properties container site x)
      ((s.showing b).properties container site y) := by
  unfold properties
  dsimp only
  rw [reader_showing, Reader.visibility_showing]
  apply sim.elements (K := fun x => x.HoldsType container) _ _ _ _ _ _ hx hy h
  · exact fun steps hx => steps.holdsType hx
  · exact fun shown _ _ hx => steps_property shown hx
  · exact fun shown _ _ hy => steps_property (s := s.showing b) shown hy
  · exact fun shown _ _ _ hx h => related_property sim shown h hx
  · exact fun hides shown _ element h => related_property_hidden sim shown hides h element

theorem related_constants {container : Option String} {site : Site} (h : Related Lost R x y)
    (hx : ∀ c, container = some c → x.HoldsType c) (hy : ∀ c, container = some c → y.HoldsType c) :
    Related Lost R (s.constants container site x)
      ((s.showing b).constants container site y) := by
  unfold constants
  dsimp only
  rw [reader_showing, Reader.visibility_showing]
  apply sim.elements (K := fun x => ∀ c, container = some c → x.HoldsType c) _ _ _ _ _ _ hx hy h
  · exact fun steps hx c hc => steps.holdsType (hx c hc)
  · exact fun shown _ _ hx => steps_constant shown hx
  · exact fun shown _ _ hy => steps_constant (s := s.showing b) shown hy
  · exact fun shown _ _ _ hx h => related_constant sim shown h hx
  · exact fun hides shown _ element h => related_constant_hidden sim shown hides h element

/-- **One item in the body of a type.** -/
theorem related_member {container : String} {site : Site} (h : Related Lost R x y)
    (hx : x.HoldsType container) (hy : y.HoldsType container) :
    Related Lost R (s.member container x site) ((s.showing b).member container y site) := by
  have hsome : ∀ {z : Extraction}, z.HoldsType container →
      ∀ c, some container = some c → z.HoldsType c := by
    rintro z hz c ⟨⟩
    exact hz
  unfold member
  split
  · exact related_callable sim h (hsome hx)
  · exact related_properties sim h hx hy
  · exact related_constants sim h (hsome hx) (hsome hy)
  · exact related_enumCase sim h hx
  · exact sim.mentionAll h (declares_of_holdsType hx) (declares_of_holdsType hy)
      fun m hm => Mentioning.source_ofNames hm
  · exact h

theorem related_members {container : String} {body : List Node} (h : Related Lost R x y)
    (hx : x.HoldsType container) (hy : y.HoldsType container) :
    Related Lost R (s.members container body x) ((s.showing b).members container body y) := by
  unfold members
  apply Simulation.foldl (r := s.reader) (b := b) (K := fun x => x.HoldsType container)
    _ _ _ _ _ hx hy h
  · exact fun steps hx => steps.holdsType hx
  · exact fun _ _ hx => steps_member hx
  · exact fun _ _ hy => steps_member (s := s.showing b) hy
  · exact fun _ _ _ hx hy h => related_member sim h hx hy

omit sim in
/-- A type is there when its head has been read. -/
theorem holdsType_head {d : Declaration} (x : Extraction) (ms : List Mention)
    (top : d.parent = none) (htype : d.kind = .type) :
    ((x.push d).mentionAll ms).HoldsType d.qualifiedName := by
  refine ⟨d, ?_, rfl, top, htype⟩
  rw [declarations_mentionAll]
  exact List.mem_append_right _ (List.mem_singleton_self d)

/-- **A type with its members.** -/
theorem related_typeDeclaration {construct : Construct} {site : Site} (h : Related Lost R x y)
    (htype : construct.kind = .type) :
    Related Lost R (s.typeDeclaration construct site x)
      ((s.showing b).typeDeclaration construct site y) := by
  rcases h with lost | h
  · exact .inl (sim.lasts (steps_typeDeclaration htype) lost)
  unfold typeDeclaration
  rw [reader_showing, Reader.name?_showing]
  cases s.reader.name? site.node with
  | none => exact .inr (sim.warned _ _ h)
  | some name =>
    dsimp only
    have hsources : ∀ m ∈ (s.mentioning (s.scope.qualify name) none).inTypeHead site.node,
        m.source = s.scope.qualify name := fun m hm => Mentioning.source_inTypeHead hm
    have hhead : Steps s.reader _ ((x.push (s.reader.declaration site construct name
        (s.scope.qualify name) none .publicAccess)).mentionAll _) :=
      steps_mentionAll (declares_push x _) hsources
    apply sim.declare h (shows_public _)
    · refine hhead.trans ?_
      split
      next => exact steps_members (holdsType_head _ _ rfl htype)
      next => exact .refl
    · intro hpushed
      have hrelated :=
        sim.mentionAll (.inr hpushed) (declares_push x _) (declares_push y _) hsources
      cases site.node.child? "body" with
      | none => exact hrelated
      | some body =>
        exact related_members sim hrelated (holdsType_head _ _ rfl htype)
          (holdsType_head _ _ rfl htype)

/-! ## §5. Unreadable regions -/

omit sim

section Recovery

variable {endRow : Nat} {region before after : List Node} {container : Option String} {l : Loose}
  {d : Declaration}

/-- The container of what follows in a region, if it was there before and a declaration is added. -/
theorem holdsType_push {n : String} (h : x.HoldsType n) (d : Declaration) :
    (x.push d).HoldsType n := by
  obtain ⟨e, he, hrest⟩ := h
  exact ⟨e, List.mem_append_left _ he, hrest⟩

/-- The first type of a region is its container from then on. -/
theorem holdsType_recovered (hloose : s.loose? endRow container l = some d)
    (first : (d.kind = .type && container.isNone) = true) (x : Extraction) :
    (x.push d).HoldsType d.qualifiedName := by
  rw [Bool.and_eq_true, decide_eq_true_eq] at first
  exact ⟨d, List.mem_append_right _ (List.mem_singleton_self d), rfl,
    parent_of_loose? hloose first.1, first.1⟩

theorem holdsType_members {n : String} (h : x.HoldsType n) :
    (s.members n region x).HoldsType n := (steps_members h).holdsType h

/-- What follows a recovered declaration takes steps. -/
theorem steps_recovered (hloose : s.loose? endRow container l = some d)
    (inside : ∀ c, container = some c → x.HoldsType c) (line : Nat) (message : String) :
    Steps s.reader (x.push d)
      (if d.kind = .type && container.isNone then
        s.recoverFrom endRow region before after (some d.qualifiedName)
          (s.members d.qualifiedName region ((x.push d).warn s.reader line message))
      else s.recoverFrom endRow region before after container
        ((x.push d).warn s.reader line message)) := by
  refine .head (.warned line message) ?_
  split
  next first =>
    have hholds : ((x.push d).warn s.reader line message).HoldsType d.qualifiedName :=
      holdsType_recovered hloose first x
    refine (steps_members hholds).trans (steps_recoverFrom s endRow region before after _ _ ?_)
    rintro c ⟨⟩
    exact holdsType_members hholds
  next => exact steps_recoverFrom s endRow region before after _ _ fun c hc =>
      holdsType_push (inside c hc) d

end Recovery

/-- **A region**, read by two walks that show the same. -/
theorem related_recoverFrom (sim : Simulation s.reader s.reader.includePrivate Lost R)
    (endRow : Nat) (region before after : List Node) (container : Option String)
    (h : Related Lost R x y) (hx : ∀ c, container = some c → x.HoldsType c)
    (hy : ∀ c, container = some c → y.HoldsType c) :
    Related Lost R (s.recoverFrom endRow region before after container x)
      (s.recoverFrom endRow region before after container y) := by
  induction after generalizing before container x y with
  | nil =>
    unfold recoverFrom
    exact h
  | cons token after ih =>
    rcases h with lost | h
    · exact .inl (sim.lasts (steps_recoverFrom s endRow region _ _ _ _ hx) lost)
    unfold recoverFrom
    cases hloose : s.loose? endRow container ⟨before, token, after⟩ with
    | none => exact ih _ _ (.inr h) hx hy
    | some d =>
      dsimp only
      cases htaken : x.declares d.qualifiedName with
      | true =>
        rw [if_pos rfl]
        cases htaken' : y.declares d.qualifiedName with
        | true => exact ih _ _ (.inr (sim.warned _ _ h)) hx hy
        | false =>
          have hlost := sim.taken token.line d.qualifiedName h htaken htaken'
          exact .inl (sim.lasts (steps_recoverFrom s endRow region _ _ _ _ hx) hlost)
      | false =>
        rw [if_neg Bool.false_ne_true]
        cases htaken' : y.declares d.qualifiedName with
        | true =>
          exact .inl (sim.lasts (steps_recovered hloose hx _ _) (sim.free d h htaken htaken'))
        | false =>
          rw [if_neg Bool.false_ne_true]
          obtain ⟨_, _, _, _, hshow, _⟩ := eq_recovered_of_loose? hloose
          have hpushed :=
            sim.warned d.lineStart (recoveryText d) (sim.pushed d h hshow htaken htaken')
          split
          next first =>
            -- the first type of the region takes the members of the whole region
            have hholds := holdsType_recovered hloose first
            refine ih _ _ (related_members sim (.inr hpushed) (hholds x) (hholds y)) ?_ ?_
            · rintro c ⟨⟩
              exact holdsType_members (hholds x)
            · rintro c ⟨⟩
              exact holdsType_members (hholds y)
          next =>
            exact ih _ _ (.inr hpushed) (fun c hc => holdsType_push (hx c hc) d)
              fun c hc => holdsType_push (hy c hc) d

end Setting

/-! ## §6. Walks -/

namespace Walk

open Extraction

variable {r : Reader} {b : Bool} {Lost : Extraction → Prop} {R : Extraction → Extraction → Prop}
  {w w' : Walk}

/-- Two walks are in the same scope and their findings are related. -/
structure InStep (Lost : Extraction → Prop) (R : Extraction → Extraction → Prop) (w w' : Walk) :
    Prop where
  scope : w'.scope = w.scope
  found : Related Lost R w.found w'.found

/-- Walks in step read declarations in the same setting. -/
theorem InStep.setting (h : InStep Lost R w w') (r : Reader) (b : Bool) :
    w'.setting (r.showing b) = (w.setting r).showing b := by
  unfold Walk.setting
  rw [h.scope]
  rfl

/-- Two walks stay in step through a list of statements if they do through each of them. -/
theorem inStep_statements {r' : Reader} {ns : List Node}
    (each : ∀ n ∈ ns, ∀ before w w', InStep Lost R w w' →
      InStep Lost R (statement r before n w) (statement r' before n w'))
    (before : List Node) (h : InStep Lost R w w') :
    InStep Lost R (statements r before ns w) (statements r' before ns w') := by
  induction ns generalizing before w w' with
  | nil =>
    unfold statements
    exact h
  | cons n rest ih =>
    unfold statements
    apply ih fun c hc => each c (List.mem_cons_of_mem n hc)
    exact each n List.mem_cons_self before w w' h

/-- **One statement** keeps two walks in step, if all of it can be read or both show the same. -/
theorem inStep_statement (sim : Simulation r b Lost R) (n : Node)
    (clean : n.Readable ∨ r.includePrivate = b) (before : List Node) (h : InStep Lost R w w') :
    InStep Lost R (statement r before n w) (statement (r.showing b) before n w') := by
  have hboth : (∀ before w w', InStep Lost R w w' →
      InStep Lost R (statement r before n w) (statement (r.showing b) before n w')) ∧
      ∀ before w w', InStep Lost R w w' → InStep Lost R (statements r before n.children w)
        (statements (r.showing b) before n.children w') := by
    -- the children are needed for blocks, which skip a level
    induction n using Node.induction_children with
    | node n ih =>
      have hclean : ∀ c ∈ n.children, c.Readable ∨ r.includePrivate = b :=
        fun c hc => clean.imp_left fun readable => readable.child hc
      have hchildren : ∀ before w w', InStep Lost R w w' → InStep Lost R
          (statements r before n.children w) (statements (r.showing b) before n.children w') :=
        fun before w w' h =>
          inStep_statements (fun c hc => (ih c hc (hclean c hc)).1) before h
      refine ⟨?_, hchildren⟩
      intro before w w' h
      rw [statement_eq, statement_eq]
      cases hrole : n.role with
      | type construct =>
        refine ⟨h.scope, ?_⟩
        show Related Lost R _ ((w'.setting (r.showing b)).typeDeclaration construct _ _)
        rw [h.setting]
        exact Setting.related_typeDeclaration sim h.found
          (kind_of_typeConstruct? (Role.construct_of_type hrole))
      | scope =>
        dsimp only [statementAs]
        rw [blockOf_eq, blockOf_eq]
        have hentered : InStep Lost R (w.enter (namespaceName r n.children))
            (w'.enter (namespaceName r n.children)) := ⟨rfl, h.found⟩
        cases hbody : n.child? "body" with
        | none => exact hentered
        | some body =>
          have hmem := Node.mem_of_child? hbody
          have hinner := (ih body hmem (hclean body hmem)).2 [] _ _ hentered
          exact ⟨h.scope, hinner.found⟩
      | imports =>
        refine ⟨?_, h.found⟩
        show w'.scope.afterUse (r.showing b) n = w.scope.afterUse r n
        rw [h.scope]
        rfl
      | function =>
        refine ⟨h.scope, ?_⟩
        show Related Lost R _ ((w'.setting (r.showing b)).callable none .function _ _)
        rw [h.setting]
        exact Setting.related_callable sim h.found (by simp)
      | constants =>
        refine ⟨h.scope, ?_⟩
        show Related Lost R _ ((w'.setting (r.showing b)).constants none _ _)
        rw [h.setting]
        exact Setting.related_constants sim h.found (by simp) (by simp)
      | region =>
        -- a region is recovered with private declarations or without, so both have to show the same
        rcases clean with readable | rfl
        · exact absurd (Node.kind_of_role hrole rfl) readable.kind_ne
        · have hinner := hchildren [] w w' h
          refine ⟨hinner.scope, ?_⟩
          show Related Lost R _ (((statements (r.showing r.includePrivate) [] n.children w').setting
            (r.showing r.includePrivate)).recover n.endRow _ _)
          rw [hinner.setting]
          exact Setting.related_recoverFrom sim n.endRow n.children [] n.children none hinner.found
            (by simp) (by simp)
      | inert => exact h
      | passage => exact hchildren [] w w' h
  exact hboth.1 before w w' h

/-- **Whole walks** stay in step. -/
theorem inStep_walk (sim : Simulation r b Lost R) (ns : List Node)
    (clean : (∀ n ∈ ns, n.Readable) ∨ r.includePrivate = b) (before : List Node)
    (h : InStep Lost R w w') :
    InStep Lost R (statements r before ns w) (statements (r.showing b) before ns w') :=
  inStep_statements (fun n hn before _ _ h =>
    inStep_statement sim n (clean.imp_left fun readable => readable n hn) before h) before h

end Walk
end CodeAtlas
