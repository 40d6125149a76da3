/-
  CodeAtlas.Proofs.Resolution — what mentions are resolved to, and the books that are kept of it.

  There are five ways in which a mention can be settled: the suggested name is declared, the step of
  the look-up that decides has one candidate or several, or no step has any and a pattern for
  external names matches or not.  All that is said about references follows from these.

  Main results:
    * `settled_resolve` — every mention is settled in one of the five ways.
    * `Settled.answers` — what a reference says about its mention, resolution by resolution.
    * `flatMap_incoming_perm` — every resolved reference is a use of exactly one declaration.
    * `bookkept_references` — all of it, for any model, patterns and mentions.
-/
import Mathlib.Data.List.Forall2
import CodeAtlas.Proofs.Lookup

namespace CodeAtlas

/-! ## §1. The resolution of a mention -/

namespace Resolver

/-- No declaration has the name that the scope suggests. -/
def Unhinted (names : List String) (m : Mention) : Prop :=
  ∀ h, m.hint.map Name.normalize = some h → h ∉ names

/-- One of the texts is a pattern that matches the written name or the suggested one. -/
def Outside (external : List String) (m : Mention) : Prop :=
  ∃ text ∈ external, ∃ p, Pattern.parse? text = some p ∧
    (p.isMatch (Name.normalize m.name) = true ∨
      ∃ h, m.hint.map Name.normalize = some h ∧ p.isMatch h = true)

/-- The ways in which a mention is settled. -/
inductive Settled (names external : List String) (m : Mention) : Resolution → Prop
  /-- The suggested name is declared. -/
  | hinted {t : String} (suggested : m.hint.map Name.normalize = some t) (declared : t ∈ names) :
      Settled names external m (.resolved t)
  /-- The step that decides has one candidate. -/
  | found {t : String} (unhinted : Unhinted names m)
      (one : decisive names (lookupSteps m.name) = [t]) : Settled names external m (.resolved t)
  /-- The step that decides has several. -/
  | ambiguous (unhinted : Unhinted names m)
      (several : 2 ≤ (decisive names (lookupSteps m.name)).length) :
      Settled names external m .unresolved
  /-- No step has a candidate, and the name lies outside. -/
  | external (unhinted : Unhinted names m) (none : decisive names (lookupSteps m.name) = [])
      (outside : Outside external m) : Settled names external m .external
  /-- No step has a candidate, and no pattern matches. -/
  | unknown (unhinted : Unhinted names m) (none : decisive names (lookupSteps m.name) = [])
      (inside : ¬ Outside external m) : Settled names external m .unresolved

/-- Texts that are all patterns give all their patterns. -/
theorem patterns_eq_ok {external : List String}
    (valid : ∀ text ∈ external, (Pattern.parse? text).isSome = true) :
    patterns external = .ok (external.filterMap Pattern.parse?) := by
  induction external with
  | nil => rfl
  | cons text rest ih =>
    obtain ⟨htext, hrest⟩ := List.forall_mem_cons.mp valid
    obtain ⟨p, hp⟩ := Option.isSome_iff_exists.mp htext
    rw [patterns, hp, ih hrest, List.filterMap_cons_some hp]
    rfl

/-- With such texts every model has a resolver. -/
theorem ofModel_eq_ok (m : Model) {external : List String}
    (valid : ∀ text ∈ external, (Pattern.parse? text).isSome = true) :
    ofModel m external = .ok ⟨SymbolTable.ofModel m, external.filterMap Pattern.parse?⟩ := by
  unfold ofModel
  rw [patterns_eq_ok valid]
  rfl

theorem livesOutside_iff {r : Resolver} {external : List String}
    (hexternal : r.external = external.filterMap Pattern.parse?) (m : Mention) :
    r.livesOutside (Name.normalize m.name) (m.hint.map Name.normalize) = true ↔
      Outside external m := by
  unfold livesOutside Outside
  rw [hexternal, List.any_eq_true]
  simp only [List.mem_filterMap, Bool.or_eq_true, Option.any_eq_true]
  constructor
  · rintro ⟨p, ⟨text, htext, hp⟩, hmatch⟩
    exact ⟨text, htext, p, hp, hmatch⟩
  · rintro ⟨text, htext, p, hp, hmatch⟩
    exact ⟨p, ⟨text, htext, hp⟩, hmatch⟩

/-- **Every mention is settled in one of these ways.** -/
theorem settled_resolve {m : Model} {external : List String} {r : Resolver}
    (htable : r.table = SymbolTable.ofModel m)
    (hexternal : r.external = external.filterMap Pattern.parse?) (mention : Mention) :
    Settled m.declarations.keys external mention (r.resolve mention) := by
  have hdeclared : ∀ {n}, r.table.contains n = true ↔ n ∈ m.declarations.keys := by
    intro n
    rw [htable]
    exact SymbolTable.contains_ofNames
  unfold resolve
  dsimp only
  split
  next t hhint =>
    obtain ⟨hsuggested, hcontains⟩ := Option.filter_eq_some_iff.mp hhint
    exact .hinted hsuggested (hdeclared.mp hcontains)
  next hhint =>
    -- the suggested name is not declared: the written name is looked up
    have unhinted : Unhinted m.declarations.keys mention := by
      intro h hsuggested hmem
      have hkept := Option.filter_eq_none_iff.mp hhint h hsuggested
      exact hkept (hdeclared.mpr hmem)
    rw [find_eq htable]
    split
    next t hfound => exact .found unhinted (Lookup.ofCandidates_eq_found_iff.mp hfound)
    next hambiguous => exact .ambiguous unhinted (Lookup.two_le_of_ambiguous hambiguous)
    next hmissing =>
      have hnone := Lookup.ofCandidates_eq_missing_iff.mp hmissing
      split
      next houtside =>
        exact .external unhinted hnone ((livesOutside_iff hexternal mention).mp houtside)
      next hinside =>
        exact .unknown unhinted hnone fun h =>
          hinside ((livesOutside_iff hexternal mention).mpr h)

/-- What a reference says about its mention. -/
structure Answers (names external : List String) (m : Mention) (ref : Reference) : Prop where
  source : ref.source = m.source
  name : ref.name = m.name
  kind : ref.kind = m.kind
  line : ref.line = m.line
  /-- It points at a declaration. -/
  declared : ∀ t, ref.resolution = .resolved t → t ∈ names
  /-- A name written from the root is not guessed. -/
  rooted : ∀ t, ref.resolution = .resolved t → Text.startsWith "\\" m.name = true →
    m.hint.map Name.normalize = some t ∨ Name.normalize m.name = t
  /-- The suggested name comes first, then the only candidate of the step that decides. -/
  resolved : ∀ t, ref.resolution = .resolved t ↔
    (m.hint.map Name.normalize = some t ∧ t ∈ names) ∨
      (Unhinted names m ∧ decisive names (lookupSteps m.name) = [t])
  /-- A name lies outside iff no declaration comes into question and a pattern matches. -/
  external : ref.resolution = .external ↔
    Unhinted names m ∧ (∀ step ∈ lookupSteps m.name, ∀ n ∈ names, step n = false) ∧
      Outside external m

namespace Settled

variable {names external : List String} {m : Mention} {res : Resolution}

theorem resolved_iff (h : Settled names external m res) (t : String) : res = .resolved t ↔
    (m.hint.map Name.normalize = some t ∧ t ∈ names) ∨
      (Unhinted names m ∧ decisive names (lookupSteps m.name) = [t]) := by
  constructor
  · rintro rfl
    cases h with
    | hinted suggested declared => exact .inl ⟨suggested, declared⟩
    | found unhinted one => exact .inr ⟨unhinted, one⟩
  · rintro (⟨suggested, declared⟩ | ⟨unhinted, one⟩)
    · -- a declared suggestion leaves no other way
      cases h with
      | hinted suggested' _ => rw [Option.some.inj (suggested.symm.trans suggested')]
      | found unhinted | ambiguous unhinted | external unhinted | unknown unhinted =>
        exact absurd declared (unhinted t suggested)
    · -- nor does a single candidate
      cases h with
      | hinted suggested declared => exact absurd declared (unhinted _ suggested)
      | found _ one' => rw [(List.cons.inj (one.symm.trans one')).1]
      | ambiguous _ several => rw [one] at several; exact absurd several (by simp)
      | external _ none | unknown _ none => rw [one] at none; exact absurd none (by simp)

theorem external_iff (h : Settled names external m res) : res = .external ↔
    Unhinted names m ∧ (∀ step ∈ lookupSteps m.name, ∀ n ∈ names, step n = false) ∧
      Outside external m := by
  rw [← decisive_eq_nil_iff]
  constructor
  · rintro rfl
    cases h with
    | external unhinted none outside => exact ⟨unhinted, none, outside⟩
  · rintro ⟨unhinted, hnone, outside⟩
    cases h with
    | hinted suggested declared => exact absurd declared (unhinted _ suggested)
    | found _ one => rw [hnone] at one; exact absurd one (by simp)
    | ambiguous _ several => rw [hnone] at several; exact absurd several (by simp)
    | external => rfl
    | unknown _ _ inside => exact absurd outside inside

/-- A mention that is settled is answered by the reference that says so. -/
theorem answers (h : Settled names external m res) :
    Answers names external m ⟨m.source, m.name, m.kind, m.line, res⟩ where
  source := rfl
  name := rfl
  kind := rfl
  line := rfl
  declared t ht := by
    rcases (h.resolved_iff t).mp ht with ⟨_, hdeclared⟩ | ⟨_, hone⟩
    · exact hdeclared
    · exact (of_mem_decisive (hone ▸ List.mem_singleton_self t)).1
  rooted t ht hroot := by
    rcases (h.resolved_iff t).mp ht with ⟨hsuggested, _⟩ | ⟨_, hone⟩
    · exact .inl hsuggested
    · exact .inr (eq_of_mem_decisive_rooted hroot (hone ▸ List.mem_singleton_self t)).symm
  resolved := h.resolved_iff
  external := h.external_iff

end Settled

end Resolver

/-! ## §2. The books -/

/-- A tally that counts every reference under its resolution. -/
structure Tally.Counts (rs : List Reference) (t : Tally) : Prop where
  resolved : t.resolved = (rs.filter (·.resolution.target?.isSome)).length
  external : t.external = (rs.filter (·.resolution = .external)).length
  unresolved : t.unresolved = (rs.filter (·.resolution = .unresolved)).length
  total : t.resolved + t.external + t.unresolved = rs.length

theorem Tally.Counts.add {rs : List Reference} {t : Tally} (h : t.Counts rs) (r : Reference) :
    (t.add r.resolution).Counts (rs ++ [r]) where
  resolved := by
    rw [List.filter_append, List.length_append, ← h.resolved]
    cases hr : r.resolution <;> simp [Tally.add, hr, Resolution.target?]
  external := by
    rw [List.filter_append, List.length_append, ← h.external]
    cases hr : r.resolution <;> simp [Tally.add, hr]
  unresolved := by
    rw [List.filter_append, List.length_append, ← h.unresolved]
    cases hr : r.resolution <;> simp [Tally.add, hr]
  total := by
    rw [List.length_append, ← h.total]
    cases r.resolution <;> simp only [Tally.add, List.length_singleton] <;> omega

theorem Tally.counts_ofReferences (rs : List Reference) : (Tally.ofReferences rs).Counts rs := by
  apply foldl_invariant (P := fun done t => Tally.Counts done t)
  · exact ⟨rfl, rfl, rfl, rfl⟩
  · intro done r rest t _ h
    exact h.add r

/-- **Uses are kept under one declaration each**: over distinct names, the references to each of
them are the references that were resolved to any of them. -/
theorem flatMap_incoming_perm {names : List String} (distinct : names.Nodup) (rs : List Reference) :
    (names.flatMap (incoming · rs)).Perm
      (rs.filter fun r => names.any (r.resolution.target? == some ·)) := by
  apply flatMap_filter_perm distinct
  intro r n k hn hk
  have heq : some n = some k := (beq_iff_eq.mp hn).symm.trans (beq_iff_eq.mp hk)
  exact Option.some.inj heq

/-- The references of some mentions answer them one by one, and the books about them are right. -/
structure Bookkept (m : Model) (external : List String) (ms : List Mention) (rs : List Reference) :
    Prop where
  /-- Each mention has its reference, in the same place. -/
  answers : List.Forall₂ (Resolver.Answers m.declarations.keys external) ms rs
  /-- The uses of all declarations together are the resolved references. -/
  uses : (m.declarations.keys.flatMap (incoming · rs)).Perm
    (rs.filter (·.resolution.target?.isSome))
  /-- References are counted under their resolution. -/
  counts : (Tally.ofReferences rs).Counts rs
  /-- The three counts add up. -/
  total : (Tally.ofReferences rs).resolved + (Tally.ofReferences rs).external +
    (Tally.ofReferences rs).unresolved = ms.length

/-- **Resolution is sound and its books are right**, for any model, any valid patterns and any
mentions. -/
theorem bookkept_references (m : Model) {external : List String}
    (valid : ∀ text ∈ external, (Pattern.parse? text).isSome = true) (ms : List Mention) :
    ∃ r, Resolver.ofModel m external = .ok r ∧ Bookkept m external ms (r.references ms) := by
  refine ⟨_, Resolver.ofModel_eq_ok m valid, ?_⟩
  generalize hr : Resolver.mk (SymbolTable.ofModel m) (external.filterMap Pattern.parse?) = r
  have hanswers : ∀ mention, Resolver.Answers m.declarations.keys external mention
      (r.reference mention) := by
    intro mention
    exact (Resolver.settled_resolve (by rw [← hr]) (by rw [← hr]) mention).answers
  have counts := Tally.counts_ofReferences (r.references ms)
  refine ⟨?_, ?_, counts, counts.total.trans (List.length_map r.reference)⟩
  · unfold Resolver.references
    rw [List.forall₂_map_right_iff, List.forall₂_same]
    intro mention _
    exact hanswers mention
  · -- what is resolved points at a declared name
    have hpoints : ∀ ref ∈ r.references ms, m.declarations.keys.any
        (ref.resolution.target? == some ·) = ref.resolution.target?.isSome := by
      intro ref href
      obtain ⟨mention, _, rfl⟩ := List.mem_map.mp href
      have hdeclared := (hanswers mention).declared
      generalize (r.reference mention).resolution = res at hdeclared
      cases res with
      | resolved t => simpa [Resolution.target?] using hdeclared t rfl
      | external | unresolved => simp [Resolution.target?]
    have huses := flatMap_incoming_perm (Table.nodup_keys m.declarations) (r.references ms)
    rw [List.filter_congr hpoints] at huses
    exact huses

/-- Two classes of one name, and a method. -/
def twoUsers : Model where
  sourceRoot := "src"
  declarations := (((∅ : Table String Declaration).insert "App\\User" default).insert "Lib\\User"
    default).insert "App\\Foo.bar" default

/-- A static call, an ambiguous name that a pattern would match, and a foreign name. -/
def threeMentions : List Mention := [
  ⟨"App\\Foo.bar", "Foo::bar", none, .calls, 3⟩,
  ⟨"App\\Foo.bar", "User", some "Other\\User", .instantiates, 4⟩,
  ⟨"App\\Foo.bar", "\\Vendor\\User", none, .instantiates, 5⟩]

/-- The call has one candidate, the second name two and the foreign name none. -/
theorem bookkept_references_twoUsers :
    (∀ text ∈ ["User$"], (Pattern.parse? text).isSome = true) ∧
      threeMentions.map (fun m => decisive twoUsers.declarations.keys (lookupSteps m.name)) =
        [["App\\Foo.bar"], ["App\\User", "Lib\\User"], []] ∧
      ∃ r, Resolver.ofModel twoUsers ["User$"] = .ok r ∧
        Bookkept twoUsers ["User$"] threeMentions (r.references threeMentions) := by
  have valid : ∀ text ∈ ["User$"], (Pattern.parse? text).isSome = true := by
    intro text htext
    rw [List.mem_singleton.mp htext]
    decide +kernel
  exact ⟨valid, by decide +kernel, bookkept_references twoUsers valid threeMentions⟩

end CodeAtlas
