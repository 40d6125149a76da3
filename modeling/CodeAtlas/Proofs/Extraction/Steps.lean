/-
  CodeAtlas.Proofs.Extraction.Steps — all that reading a syntax tree can do.

  Whatever the tree looks like, unreadable regions included, an extraction changes in three ways
  only: a warning is noted, a declaration is added that was not there, or a mention is added whose
  source is declared.  What holds of every extraction is an induction over these steps and needs
  neither the walk nor the tree.

  Main results:
    * `Step` — the three changes, with all that is known when they happen.
    * `steps_ofTree` — the extraction of ANY tree is reached from the empty one by such steps.
-/
import Mathlib.Data.List.TakeWhile
import Mathlib.Logic.Relation
import CodeAtlas.Extraction.Statements

namespace CodeAtlas

/-! ## §1. Steps -/

namespace Extraction

/-- A type without a parent is declared under a name. -/
def HoldsType (x : Extraction) (n : String) : Prop :=
  ∃ d ∈ x.declarations, d.qualifiedName = n ∧ d.parent = none ∧ d.kind = .type

/-- A declaration that may come next. -/
structure Admits (r : Reader) (x : Extraction) (d : Declaration) : Prop where
  path : d.filePath = r.path
  kind : d.kind = d.construct.kind
  shown : r.shows d.visibility = true
  plain : ∀ c ∈ d.name.toList, Name.isSeparator c = false
  top : d.parent = none → ∃ scope : Scope, d.qualifiedName = scope.qualify d.name
  nested : ∀ p, d.parent = some p → d.qualifiedName = Name.member p d.name ∧ x.HoldsType p
  fresh : x.declares d.qualifiedName = false

/-- The changes of an extraction. -/
inductive Step (r : Reader) : Extraction → Extraction → Prop
  | warned {x : Extraction} (line : Nat) (message : String) : Step r x (x.warn r line message)
  | declared {x : Extraction} {d : Declaration} (next : Admits r x d) : Step r x (x.push d)
  | mentioned {x : Extraction} {m : Mention} (source : x.declares m.source = true)
      (fresh : x.mentions m = false) : Step r x { x with references := x.references ++ [m] }

/-- Any number of changes. -/
abbrev Steps (r : Reader) : Extraction → Extraction → Prop := Relation.ReflTransGen (Step r)

variable {r : Reader} {x y : Extraction}

theorem declares_iff {n : String} :
    x.declares n = true ↔ ∃ d ∈ x.declarations, d.qualifiedName = n := by
  simp [declares]

/-- Nothing is ever taken back. -/
theorem Steps.mem (h : Steps r x y) {d : Declaration} (hd : d ∈ x.declarations) :
    d ∈ y.declarations := by
  induction h with
  | refl => exact hd
  | tail _ step ih =>
    cases step with
    | warned => exact ih
    | declared => exact List.mem_append_left _ ih
    | mentioned => exact ih

theorem Steps.declares (h : Steps r x y) {n : String} (hn : x.declares n = true) :
    y.declares n = true := by
  obtain ⟨d, hd, hname⟩ := declares_iff.mp hn
  exact declares_iff.mpr ⟨d, h.mem hd, hname⟩

theorem Steps.holdsType (h : Steps r x y) {n : String} (hn : x.HoldsType n) : y.HoldsType n := by
  obtain ⟨d, hd, hrest⟩ := hn
  exact ⟨d, h.mem hd, hrest⟩

/-- A loop whose rounds take steps takes steps.  The rounds may rely on what no step destroys. -/
theorem steps_foldl {α : Type} {f : Extraction → α → Extraction} {keep : Extraction → Prop}
    (mono : ∀ {x y}, Steps r x y → keep x → keep y)
    (round : ∀ x a, keep x → Steps r x (f x a)) (l : List α) (hx : keep x) :
    Steps r x (l.foldl f x) := by
  induction l generalizing x with
  | nil => exact .refl
  | cons a l ih =>
    have hround := round x a hx
    exact hround.trans (ih (mono hround hx))

theorem declares_push (x : Extraction) (d : Declaration) :
    (x.push d).declares d.qualifiedName = true :=
  declares_iff.mpr ⟨d, List.mem_append_right _ (List.mem_singleton_self d), rfl⟩

theorem declarations_mention (x : Extraction) (m : Mention) :
    (x.mention m).declarations = x.declarations := by
  unfold mention
  split <;> rfl

theorem declarations_mentionAll (x : Extraction) (ms : List Mention) :
    (x.mentionAll ms).declarations = x.declarations := by
  unfold mentionAll
  induction ms generalizing x with
  | nil => rfl
  | cons m ms ih => rw [List.foldl_cons, ih, declarations_mention]

theorem steps_passUnnamed (x : Extraction) (place : Node) (construct : Construct) :
    Steps r x (x.passUnnamed r place construct) := .single (.warned _ _)

theorem steps_declare {place : Node} {d : Declaration} {next : Extraction → Extraction}
    (admits : x.declares d.qualifiedName = false → Admits r x d)
    (rest : Steps r (x.push d) (next (x.push d))) : Steps r x (x.declare r place d next) := by
  unfold declare
  split
  next => exact .single (.warned _ _)
  next hfree => exact .head (.declared (admits (by simpa using hfree))) rest

theorem steps_mentionAll {source : String} (declared : x.declares source = true)
    {ms : List Mention} (sources : ∀ m ∈ ms, m.source = source) : Steps r x (x.mentionAll ms) := by
  unfold mentionAll
  induction ms generalizing x with
  | nil => exact .refl
  | cons m ms ih =>
    have hround : Steps r x (x.mention m) := by
      unfold mention
      split
      next => exact .refl
      next hnew =>
        refine .single (.mentioned ?_ (by simpa using hnew))
        rw [sources m List.mem_cons_self]
        exact declared
    rw [List.foldl_cons]
    exact hround.trans
      (ih (hround.declares declared) fun m' hm' => sources m' (List.mem_cons_of_mem _ hm'))

end Extraction

/-! ## §2. The source of a mention -/

namespace Mentioning

variable {w : Mentioning} {kind : ReferenceKind} {m : Mention}

theorem source_ofClass {n : Node} (h : w.ofClass kind n = some m) : m.source = w.source := by
  unfold ofClass at h
  simp only [Option.ite_none_left_eq_some, Option.some.injEq] at h
  rw [← h.2]
  rfl

theorem source_ofNames {nodes : List Node} (h : m ∈ w.ofNames kind nodes) :
    m.source = w.source := by
  obtain ⟨n, _, hn⟩ := List.mem_filterMap.mp h
  exact source_ofClass hn

theorem source_ofType {type : Node} (h : m ∈ w.ofType kind type) : m.source = w.source :=
  source_ofNames h

theorem source_inTypeHead {n : Node} (h : m ∈ w.inTypeHead n) : m.source = w.source := by
  obtain ⟨c, _, hc⟩ := List.mem_flatMap.mp h
  split at hc
  · exact source_ofNames hc
  · exact source_ofNames hc
  · exact absurd hc (by simp)

theorem source_ofFunctionCall {n : Node} (h : w.ofFunctionCall n = some m) :
    m.source = w.source := by
  obtain ⟨f, _, hf⟩ := Option.bind_eq_some_iff.mp h
  split at hf
  · rw [← Option.some.inj hf]
    rfl
  · exact absurd hf (by simp)

theorem source_ofScopedCall {n : Node} (h : w.ofScopedCall n = some m) : m.source = w.source := by
  unfold ofScopedCall at h
  split at h
  · simp only [Option.ite_none_right_eq_some, Option.some.injEq] at h
    rw [← h.2]
    rfl
  · exact absurd h (by simp)

theorem source_ofMemberCall {n : Node} (h : w.ofMemberCall n = some m) : m.source = w.source := by
  unfold ofMemberCall at h
  split at h
  · simp only [Option.ite_none_right_eq_some, Option.some.injEq] at h
    rw [← h.2]
    rfl
  · exact absurd h (by simp)

theorem source_ofBodyNode {n : Node} (h : w.ofBodyNode n = some m) : m.source = w.source := by
  unfold ofBodyNode at h
  split at h
  · exact source_ofFunctionCall h
  · exact source_ofScopedCall h
  · exact source_ofMemberCall h
  · obtain ⟨c, _, hc⟩ := Option.bind_eq_some_iff.mp h
    exact source_ofClass hc
  · exact absurd h (by simp)

theorem source_inCallable {n : Node} (h : m ∈ w.inCallable n) : m.source = w.source := by
  unfold inCallable at h
  rcases List.mem_append.mp h with h | hbody
  · rcases List.mem_append.mp h with hparameter | hreturn
    · obtain ⟨t, _, ht⟩ := List.mem_flatMap.mp hparameter
      exact source_ofType ht
    · cases hr : n.child? "return_type" with
      | none => rw [hr] at hreturn; exact absurd hreturn (by simp)
      | some t => rw [hr] at hreturn; exact source_ofType hreturn
  · cases hb : n.child? "body" with
    | none => rw [hb] at hbody; exact absurd hbody (by simp)
    | some b =>
      rw [hb] at hbody
      obtain ⟨c, _, hc⟩ := List.mem_filterMap.mp hbody
      exact source_ofBodyNode hc

end Mentioning

/-! ## §3. Names -/

namespace Reader

variable {r : Reader} {n : Node} {name : String}

theorem not_isSeparator {c : Char} (h : Name.isIdentifierChar c = true) :
    Name.isSeparator c = false := by
  cases hsep : Name.isSeparator c with
  | false => rfl
  | true =>
    simp only [Name.isSeparator, Bool.or_eq_true, beq_iff_eq] at hsep
    rcases hsep with rfl | rfl <;> exact absurd h (by decide)

theorem plain_of_isIdentifier (h : Name.isIdentifier name = true) :
    ∀ c ∈ name.toList, Name.isSeparator c = false := by
  intro c hc
  unfold Name.isIdentifier at h
  rw [Bool.and_eq_true, List.all_eq_true] at h
  exact not_isSeparator (h.2 c hc)

theorem plain_of_identifier? (h : r.identifier? n = some name) :
    ∀ c ∈ name.toList, Name.isSeparator c = false := by
  unfold identifier? at h
  simp only [Option.ite_none_left_eq_some, Option.ite_none_right_eq_some, Option.some.injEq] at h
  obtain ⟨_, hname, rfl⟩ := h
  exact plain_of_isIdentifier hname

theorem plain_of_name? (h : r.name? n = some name) :
    ∀ c ∈ name.toList, Name.isSeparator c = false := by
  obtain ⟨_, _, hname⟩ := Option.bind_eq_some_iff.mp h
  exact plain_of_identifier? hname

theorem plain_of_constantName? (h : r.constantName? n = some name) :
    ∀ c ∈ name.toList, Name.isSeparator c = false := by
  obtain ⟨_, _, hname⟩ := Option.bind_eq_some_iff.mp h
  exact plain_of_identifier? hname

/-- The `$` signs in front of a property name are no separators either. -/
theorem plain_of_propertyName? (h : r.propertyName? n = some name) :
    ∀ c ∈ name.toList, Name.isSeparator c = false := by
  obtain ⟨v, _, hv⟩ := Option.bind_eq_some_iff.mp h
  simp only [Option.ite_none_left_eq_some, Option.ite_none_right_eq_some, Option.some.injEq] at hv
  obtain ⟨_, hrest, rfl⟩ := hv
  intro c hc
  rw [← List.takeWhile_append_dropWhile (p := (· == '$')) (l := (r.text v).toList)] at hc
  rcases List.mem_append.mp hc with hsign | hc
  · have hc : c = '$' := by simpa using List.mem_takeWhile_imp hsign
    rw [hc]
    decide
  · apply plain_of_isIdentifier hrest
    unfold Text.mapChars
    rw [String.toList_ofList]
    exact hc

end Reader

/-! ## §4. Declarations -/

namespace Setting

open Extraction

variable {s : Setting} {x : Extraction}

/-- What is read at a site may come next, if its name is free and its container is there. -/
theorem admits_declaration (container : Option String) {construct : Construct} {site : Site}
    {name : String} {visibility : Visibility}
    (plain : ∀ c ∈ name.toList, Name.isSeparator c = false)
    (shown : s.reader.shows visibility = true)
    (inside : ∀ c, container = some c → x.HoldsType c)
    (fresh : x.declares (s.qualify container name) = false) :
    Admits s.reader x (s.reader.declaration site construct name (s.qualify container name)
      container visibility) where
  path := rfl
  kind := rfl
  shown := shown
  plain := plain
  top htop := by
    have hnone : container = none := htop
    exact ⟨s.scope, by rw [hnone]; rfl⟩
  nested p hp := by
    have hsome : container = some p := hp
    exact ⟨by rw [hsome]; rfl, inside p hsome⟩
  fresh := fresh

theorem shows_public (r : Reader) : r.shows .publicAccess = true := by
  simp [Reader.shows]

theorem steps_callable {container : Option String} {construct : Construct} {site : Site}
    (inside : ∀ c, container = some c → x.HoldsType c) :
    Steps s.reader x (s.callable container construct site x) := by
  unfold callable
  split
  next => exact steps_passUnnamed x _ _
  next name hname =>
    by_cases hshow : s.reader.shows (s.reader.visibility site.node.children) = true
    · simp only [hshow, if_true]
      apply steps_declare (admits_declaration container (Reader.plain_of_name? hname) hshow inside)
      exact steps_mentionAll (declares_push x _) fun m hm => Mentioning.source_inCallable hm
    · simp only [hshow]
      exact .refl

theorem steps_property {container : String} {site : Site} {visibility : Visibility} {element : Node}
    (shown : s.reader.shows visibility = true) (inside : x.HoldsType container) :
    Steps s.reader x (s.property container site visibility x element) := by
  unfold property
  split
  next => exact steps_passUnnamed x _ _
  next name hname =>
    apply steps_declare (admits_declaration (some container)
      (Reader.plain_of_propertyName? hname) shown (by rintro c ⟨⟩; exact inside))
    split
    next type htype =>
      exact steps_mentionAll (declares_push x _) fun m hm => Mentioning.source_ofType hm
    next => exact .refl

theorem steps_properties {container : String} {site : Site} (inside : x.HoldsType container) :
    Steps s.reader x (s.properties container site x) := by
  unfold properties
  by_cases hshow : s.reader.shows (s.reader.visibility site.node.children) = true
  · simp only [hshow, if_true]
    exact steps_foldl (fun h hx => h.holdsType hx) (fun _ _ h => steps_property hshow h) _ inside
  · simp only [hshow]
    exact .refl

theorem steps_constant {container : Option String} {site : Site} {visibility : Visibility}
    {element : Node} (shown : s.reader.shows visibility = true)
    (inside : ∀ c, container = some c → x.HoldsType c) :
    Steps s.reader x (s.constant container site visibility x element) := by
  unfold constant
  split
  next => exact steps_passUnnamed x _ _
  next name hname =>
    exact steps_declare
      (admits_declaration container (Reader.plain_of_constantName? hname) shown inside) .refl

theorem steps_constants {container : Option String} {site : Site}
    (inside : ∀ c, container = some c → x.HoldsType c) :
    Steps s.reader x (s.constants container site x) := by
  unfold constants
  by_cases hshow : s.reader.shows (s.reader.visibility site.node.children) = true
  · simp only [hshow, if_true]
    exact steps_foldl (fun h hx c hc => h.holdsType (hx c hc))
      (fun _ _ h => steps_constant hshow h) _ inside
  · simp only [hshow]
    exact .refl

theorem steps_enumCase {container : String} {site : Site} (inside : x.HoldsType container) :
    Steps s.reader x (s.enumCase container site x) := by
  unfold enumCase
  split
  next => exact steps_passUnnamed x _ _
  next name hname =>
    exact steps_declare (admits_declaration (some container) (Reader.plain_of_name? hname)
      (shows_public s.reader) (by rintro c ⟨⟩; exact inside)) .refl

/-! ## §5. Types -/

theorem declares_of_holdsType {n : String} (h : x.HoldsType n) : x.declares n = true := by
  obtain ⟨d, hd, hname, _⟩ := h
  exact declares_iff.mpr ⟨d, hd, hname⟩

theorem steps_member {container : String} {site : Site} (inside : x.HoldsType container) :
    Steps s.reader x (s.member container x site) := by
  have hsome : ∀ c, some container = some c → x.HoldsType c := by
    rintro c ⟨⟩
    exact inside
  unfold member
  split
  · exact steps_callable hsome
  · exact steps_properties inside
  · exact steps_constants hsome
  · exact steps_enumCase inside
  · exact steps_mentionAll (declares_of_holdsType inside) fun m hm => Mentioning.source_ofNames hm
  · exact .refl

theorem steps_members {container : String} {body : List Node} (inside : x.HoldsType container) :
    Steps s.reader x (s.members container body x) :=
  steps_foldl (fun h hx => h.holdsType hx) (fun _ _ h => steps_member h) _ inside

theorem steps_typeDeclaration {construct : Construct} {site : Site}
    (htype : construct.kind = .type) :
    Steps s.reader x (s.typeDeclaration construct site x) := by
  unfold typeDeclaration
  split
  next => exact steps_passUnnamed x _ _
  next name hname =>
    apply steps_declare (admits_declaration none (Reader.plain_of_name? hname)
      (shows_public s.reader) (by rintro c ⟨⟩))
    -- the head of the type is read when the type is there, and its body after that
    have hhead : Steps s.reader
        (x.push (s.reader.declaration site construct name (s.scope.qualify name) none
          .publicAccess))
        ((x.push _).mentionAll ((s.mentioning (s.scope.qualify name) none).inTypeHead site.node)) :=
      steps_mentionAll (declares_push x _) fun m hm => Mentioning.source_inTypeHead hm
    refine hhead.trans ?_
    split
    next body _ =>
      apply steps_members
      apply hhead.holdsType
      exact ⟨_, List.mem_append_right _ (List.mem_singleton_self _), rfl, rfl, htype⟩
    next => exact .refl

/-! ## §6. Unreadable regions -/

section Recovery

variable {endRow : Nat} {container : Option String} {l : Loose} {d : Declaration}

theorem eq_recovered_of_loose? (h : s.loose? endRow container l = some d) :
    ∃ construct nameNode name, s.reader.identifier? nameNode = some name ∧
      s.reader.shows d.visibility = true ∧
      d = s.recovered endRow l construct container nameNode name := by
  simp only [loose?, Option.bind_eq_bind, Option.bind_eq_some_iff] at h
  obtain ⟨construct, _, h⟩ := h
  simp only [Option.bind_none, Option.ite_none_left_eq_some, Option.bind_eq_some_iff,
    Option.ite_none_right_eq_some, Option.some.injEq] at h
  obtain ⟨_, nameNode, _, name, hname, hshow, rfl⟩ := h
  exact ⟨construct, nameNode, name, hname, hshow, rfl⟩

theorem admits_of_loose? (h : s.loose? endRow container l = some d)
    (inside : ∀ c, container = some c → x.HoldsType c)
    (fresh : x.declares d.qualifiedName = false) : Admits s.reader x d := by
  obtain ⟨construct, nameNode, name, hname, hshow, rfl⟩ := eq_recovered_of_loose? h
  refine ⟨rfl, rfl, hshow, Reader.plain_of_identifier? hname, ?_, ?_, fresh⟩
  · intro htop
    refine ⟨s.scope, ?_⟩
    show s.qualify (s.recovered endRow l construct container nameNode name).parent name = _
    rw [htop]
    rfl
  · intro p hp
    constructor
    · show s.qualify (s.recovered endRow l construct container nameNode name).parent name = _
      rw [hp]
      rfl
    · -- only a method has a parent, and that is the container
      have hparent : (if construct = .method then container else none) = some p := hp
      split at hparent
      · exact inside p hparent
      · exact absurd hparent (by simp)

/-- The keyword says what is declared. -/
theorem construct_of_loose? (h : s.loose? endRow container l = some d) :
    looseConstruct? l.token.kind container = some d.construct := by
  simp only [loose?, Option.bind_eq_bind, Option.bind_eq_some_iff] at h
  obtain ⟨construct, hconstruct, h⟩ := h
  simp only [Option.bind_none, Option.ite_none_left_eq_some, Option.bind_eq_some_iff,
    Option.ite_none_right_eq_some, Option.some.injEq] at h
  obtain ⟨_, nameNode, _, name, _, _, rfl⟩ := h
  exact hconstruct

theorem parent_of_loose? (h : s.loose? endRow container l = some d) (htype : d.kind = .type) :
    d.parent = none := by
  obtain ⟨construct, nameNode, name, _, _, rfl⟩ := eq_recovered_of_loose? h
  apply if_neg
  rintro rfl
  exact absurd htype (by simp [recovered, Construct.kind])

end Recovery

theorem steps_recoverFrom (s : Setting) (endRow : Nat) (region before after : List Node)
    (container : Option String) (x : Extraction)
    (inside : ∀ c, container = some c → x.HoldsType c) :
    Steps s.reader x (s.recoverFrom endRow region before after container x) := by
  induction after generalizing before container x with
  | nil =>
    unfold recoverFrom
    exact .refl
  | cons token after ih =>
    unfold recoverFrom
    split
    next => exact ih _ _ _ inside
    next d hloose =>
      split
      next =>
        have hwarn : ∀ message, Steps s.reader x (x.warn s.reader token.line message) :=
          fun message => .single (.warned _ message)
        exact (hwarn _).trans (ih _ _ _ fun c hc => (hwarn _).holdsType (inside c hc))
      next hfree =>
        have hadmits := admits_of_loose? hloose inside (by simpa using hfree)
        dsimp only
        generalize recoveryText d = message
        have hpush : Steps s.reader x ((x.push d).warn s.reader d.lineStart message) :=
          .head (.declared hadmits) (.single (.warned _ _))
        refine hpush.trans ?_
        split
        next hfirst =>
          -- the first type of the region takes the members of the whole region
          have htype : d.kind = .type := by
            rw [Bool.and_eq_true, decide_eq_true_eq] at hfirst
            exact hfirst.1
          have hholds : ((x.push d).warn s.reader d.lineStart message).HoldsType d.qualifiedName :=
            ⟨d, List.mem_append_right _ (List.mem_singleton_self d), rfl,
              parent_of_loose? hloose htype, htype⟩
          have hmembers : Steps s.reader _ (s.members d.qualifiedName region _) :=
            steps_members hholds
          refine hmembers.trans (ih _ _ _ ?_)
          rintro c ⟨⟩
          exact hmembers.holdsType hholds
        next => exact ih _ _ _ fun c hc => hpush.holdsType (inside c hc)

end Setting

/-! ## §7. Trees -/

namespace Walk

open Extraction

theorem kind_of_typeConstruct? {k : String} {construct : Construct}
    (h : typeConstruct? k = some construct) : construct.kind = .type := by
  unfold typeConstruct? at h
  split at h <;> simp at h <;> rw [← h] <;> rfl

mutual

theorem steps_statements (r : Reader) (before ns : List Node) (w : Walk) :
    Steps r w.found (statements r before ns w).found := by
  match ns with
  | [] =>
    unfold statements
    exact .refl
  | n :: rest =>
    unfold statements
    exact (steps_statement r before n w).trans (steps_statements r _ rest _)

theorem steps_statement (r : Reader) (before : List Node) (n : Node) (w : Walk) :
    Steps r w.found (statement r before n w).found := by
  match n with
  | .mk tag children =>
    unfold statement
    cases hconstruct : typeConstruct? tag.kind with
    | some construct =>
      exact Setting.steps_typeDeclaration (s := w.setting r) (kind_of_typeConstruct? hconstruct)
    | none =>
      have hnone : ∀ {x : Extraction} (c : String), none = some c → x.HoldsType c := by
        rintro x c ⟨⟩
      dsimp only
      split
      · have hblock := steps_blockOf r children (w.enter (namespaceName r children))
        split
        next inner hinner => exact hblock inner hinner
        next => exact .refl
      · exact .refl
      · exact Setting.steps_callable (s := w.setting r) hnone
      · exact Setting.steps_constants (s := w.setting r) hnone
      · have hinner := steps_statements r [] children w
        exact hinner.trans (Setting.steps_recoverFrom ((statements r [] children w).setting r)
          tag.endRow children [] children none _ hnone)
      · split
        next => exact .refl
        next => exact steps_statements r [] children w

theorem steps_blockOf (r : Reader) (ns : List Node) (w : Walk) :
    ∀ inner, blockOf r ns w = some inner → Steps r w.found inner.found := by
  match ns with
  | [] =>
    intro inner h
    unfold blockOf at h
    exact absurd h (by simp)
  | .mk tag children :: rest =>
    intro inner h
    unfold blockOf at h
    split at h
    · rw [← Option.some.inj h]
      exact steps_statements r [] children w
    · exact steps_blockOf r rest w inner h

end

end Walk

namespace Extraction

/-- **Whatever is in a tree, it is read step by step.** -/
theorem steps_ofTree (r : Reader) (tree : Node) : Steps r {} (ofTree r tree) :=
  Walk.steps_statements r [] tree.children {}

/-- Whatever is declared could come next at some point. -/
theorem exists_admits_of_mem_ofTree {r : Reader} {tree : Node} {d : Declaration}
    (h : d ∈ (ofTree r tree).declarations) : ∃ x, Admits r x d := by
  have hsteps := steps_ofTree r tree
  generalize ofTree r tree = x at h hsteps
  induction hsteps with
  | refl => exact absurd h (by simp)
  | tail _ step ih =>
    cases step with
    | warned => exact ih h
    | mentioned => exact ih h
    | declared next =>
      rcases List.mem_append.mp h with hold | hnew
      · exact ih hold
      · rw [List.mem_singleton.mp hnew]
        exact ⟨_, next⟩

/-- Everything read from a file lies in that file. -/
theorem filePath_of_mem_ofTree {r : Reader} {tree : Node} {d : Declaration}
    (h : d ∈ (ofTree r tree).declarations) : d.filePath = r.path := by
  obtain ⟨_, next⟩ := exists_admits_of_mem_ofTree h
  exact next.path

end Extraction
end CodeAtlas
