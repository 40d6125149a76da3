/-
  CodeAtlas.Proofs.Locality — resolution does not see unrelated declarations.

  Resolving a mention asks about few names: whether the suggested name is declared, and which names
  of the written name's last segment are.  Two models that agree on these give the same resolution,
  whatever else they declare.  A declaration that is added elsewhere can therefore change where a
  mention leads only by a clash of names.

  Main results:
    * `unqualified_eq_of_lookupSteps` — a look-up accepts names of one last segment only.
    * `resolve_eq_of_agree` — two models that agree on the names that matter.
    * `resolutionIn_unmoved` — one declaration more or less that does not matter.
-/
import CodeAtlas.Proofs.Resolution

namespace CodeAtlas

/-! ## §1. One name more, one name less -/

namespace Table

variable {κ α : Type} [LT κ] [DecidableEq κ]

/-- Takes the entry of a key out. -/
def erase (t : Table κ α) (k : κ) : Table κ α where
  entries := t.entries.filter fun e => e.1 ≠ k
  ordered := t.ordered.filter _

theorem mem_keys_erase {t : Table κ α} {k k' : κ} :
    k' ∈ (t.erase k).keys ↔ k' ∈ t.keys ∧ k' ≠ k := by
  unfold keys erase
  rw [List.mem_map, List.mem_map]
  constructor
  · intro h
    obtain ⟨e, he, hkey⟩ := h
    obtain ⟨hmem, hne⟩ := List.mem_filter.mp he
    subst hkey
    exact ⟨⟨e, hmem, rfl⟩, by simpa using hne⟩
  · intro h
    obtain ⟨⟨e, hmem, hkey⟩, hne⟩ := h
    subst hkey
    exact ⟨e, List.mem_filter.mpr ⟨hmem, by simpa using hne⟩, rfl⟩

theorem mem_keys_insert [DecidableLT κ] [Key κ] {t : Table κ α} {k k' : κ} {v : α} :
    k' ∈ (t.insert k v).keys ↔ k' = k ∨ k' ∈ t.keys := by
  rw [mem_keys_iff, mem_keys_iff, get?_insert]
  by_cases hk : k' = k
  · simp [hk]
  · simp [hk]

end Table

namespace Model

/-- A model that declares a name as well. -/
def declare (m : Model) (name : String) (d : Declaration) : Model :=
  { m with declarations := m.declarations.insert name d }

/-- A model that does not declare a name any more. -/
def retract (m : Model) (name : String) : Model :=
  { m with declarations := m.declarations.erase name }

end Model

/-! ## §2. Names that matter -/

/-- A name that has nothing to do with a mention: neither the last segment that is written nor the
name that the scope suggests. -/
structure Mention.Apart (m : Mention) (name : String) : Prop where
  segment : Name.unqualified name ≠ Name.unqualified (Name.normalize m.name)
  hint : m.hint.map Name.normalize ≠ some name

/-- A look-up accepts only names with the last segment of the written one. -/
theorem unqualified_eq_of_lookupSteps {written n : String} {step : String → Bool}
    (hstep : step ∈ lookupSteps written) (haccepts : step n = true) :
    Name.unqualified n = Name.unqualified (Name.normalize written) := by
  by_cases rooted : Text.startsWith "\\" written = true
  · rw [lookupSteps_rooted rooted, List.mem_singleton] at hstep
    rw [hstep, beq_iff_eq] at haccepts
    rw [haccepts]
  · rw [lookupSteps_free rooted, List.mem_cons, List.mem_cons] at hstep
    rcases hstep with hwhole | hending | hsegment
    · rw [hwhole, beq_iff_eq] at haccepts
      rw [haccepts]
    · rw [hending] at haccepts
      exact SymbolTable.unqualified_eq_of_endsAtSegment haccepts
    · split at hsegment
      next => exact absurd hsegment List.not_mem_nil
      next =>
        rw [List.mem_singleton.mp hsegment] at haccepts
        exact beq_iff_eq.mp haccepts

namespace Resolver

section TwoModels

variable {m m' : Model} {mention : Mention}
  (agree : ∀ n, ¬ mention.Apart n → (n ∈ m.declarations.keys ↔ n ∈ m'.declarations.keys))
include agree

/-- The steps of the look-up have the same candidates in both models. -/
theorem decisive_perm_of_agree :
    (decisive m.declarations.keys (lookupSteps mention.name)).Perm
      (decisive m'.declarations.keys (lookupSteps mention.name)) := by
  apply decisive_perm
  intro step hstep
  rw [List.perm_ext_iff_of_nodup ((Table.nodup_keys _).filter step)
    ((Table.nodup_keys _).filter step)]
  intro n
  rw [List.mem_filter, List.mem_filter]
  -- what a step accepts has the written last segment
  refine and_congr_left fun haccepts => agree n ?_
  intro hapart
  exact hapart.segment (unqualified_eq_of_lookupSteps hstep haccepts)

/-- **Resolution depends on the names that matter only.** -/
theorem resolve_eq_of_agree {r r' : Resolver} (htable : r.table = SymbolTable.ofModel m)
    (htable' : r'.table = SymbolTable.ofModel m') (hexternal : r.external = r'.external) :
    r.resolve mention = r'.resolve mention := by
  have hfind : r.find mention.name = r'.find mention.name := by
    rw [find_eq htable, find_eq htable']
    exact Lookup.ofCandidates_eq_of_perm (decisive_perm_of_agree agree)
  have hhint : (mention.hint.map Name.normalize).filter r.table.contains =
      (mention.hint.map Name.normalize).filter r'.table.contains := by
    cases hsuggested : mention.hint.map Name.normalize with
    | none => rfl
    | some n =>
      have hsame : r.table.contains n = r'.table.contains n := by
        rw [htable, htable', Bool.eq_iff_iff]
        refine SymbolTable.contains_ofNames.trans (Iff.trans ?_ SymbolTable.contains_ofNames.symm)
        exact agree n fun hapart => hapart.hint hsuggested
      simp only [Option.filter_some, hsame]
  unfold resolve livesOutside
  dsimp only
  rw [hhint, hfind, hexternal]

end TwoModels

/-! ## §3. Declarations elsewhere -/

/-- The resolution of a mention in a model, if the texts for external names are patterns. -/
def resolutionIn (m : Model) (external : List String) (mention : Mention) :
    Except Failure Resolution :=
  (ofModel m external).map (·.resolve mention)

theorem resolutionIn_eq_of_agree {m m' : Model} (external : List String) {mention : Mention}
    (agree : ∀ n, ¬ mention.Apart n → (n ∈ m.declarations.keys ↔ n ∈ m'.declarations.keys)) :
    resolutionIn m external mention = resolutionIn m' external mention := by
  unfold resolutionIn ofModel
  cases patterns external with
  | error e => rfl
  | ok ps => exact congrArg Except.ok (resolve_eq_of_agree agree rfl rfl rfl)

/-- **A declaration elsewhere does not move a mention**, whether it is added or taken out. -/
theorem resolutionIn_unmoved (m : Model) (external : List String) {mention : Mention}
    {name : String} (apart : mention.Apart name) :
    (∀ d, resolutionIn (m.declare name d) external mention = resolutionIn m external mention) ∧
      resolutionIn (m.retract name) external mention = resolutionIn m external mention := by
  -- a name that matters is another one
  have hother : ∀ n, ¬ mention.Apart n → n ≠ name := by
    intro n hn heq
    exact hn (heq ▸ apart)
  constructor
  · intro d
    apply resolutionIn_eq_of_agree
    intro n hn
    show n ∈ (m.declarations.insert name d).keys ↔ _
    rw [Table.mem_keys_insert, or_iff_right (hother n hn)]
  · apply resolutionIn_eq_of_agree
    intro n hn
    show n ∈ (m.declarations.erase name).keys ↔ _
    rw [Table.mem_keys_erase, and_iff_left (hother n hn)]

/-- A static call without a suggestion. -/
def barCall : Mention := ⟨"App\\Foo.bar", "Foo::bar", none, .calls, 3⟩

/-- The call leads to its method with or without a class of another name. -/
theorem resolutionIn_unmoved_user : barCall.Apart "Lib\\User" ∧
    (∀ d, resolutionIn (twoUsers.declare "Lib\\User" d) [] barCall =
      .ok (.resolved "App\\Foo.bar")) ∧
    resolutionIn (twoUsers.retract "Lib\\User") [] barCall = .ok (.resolved "App\\Foo.bar") := by
  have apart : barCall.Apart "Lib\\User" := ⟨by decide +kernel, by decide⟩
  have unhinted : Unhinted twoUsers.declarations.keys barCall := by
    intro h hsuggested
    exact absurd hsuggested (by simp [barCall])
  have hone : decisive twoUsers.declarations.keys (lookupSteps barCall.name) =
      ["App\\Foo.bar"] := by
    decide +kernel
  have hresolved : resolutionIn twoUsers [] barCall = .ok (.resolved "App\\Foo.bar") := by
    have hsettled : Settled twoUsers.declarations.keys [] barCall
        (resolve ⟨SymbolTable.ofModel twoUsers, []⟩ barCall) := settled_resolve rfl rfl barCall
    exact congrArg Except.ok ((hsettled.resolved_iff _).mpr (.inr ⟨unhinted, hone⟩))
  rw [← hresolved]
  exact ⟨apart, resolutionIn_unmoved twoUsers [] apart⟩

end Resolver
end CodeAtlas
