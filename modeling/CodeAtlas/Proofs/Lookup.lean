/-
  CodeAtlas.Proofs.Lookup — looking a name up, told by the declared names alone.

  A look-up goes through an index by last segments and normalizes its name twice.  Seen from the
  declared names it is simpler: there are up to three steps, each accepts some of the names, and the
  first step that accepts any decides.  One accepted name is the answer, several are ambiguous.

  Main results:
    * `normalize_normalize` — a normalized name stays as it is.
    * `decisive_eq_nil_iff`, `of_mem_decisive` — when nothing decides, and what does.
    * `decisive_perm` — the candidates of each step settle what decides.
    * `find_eq` — the look-up through the index and the one by steps are the same.
-/
import Mathlib.Data.List.Nodup
import CodeAtlas.Proofs.NameIndex
import CodeAtlas.Proofs.Segment

namespace CodeAtlas

/-! ## §1. Normal names -/

namespace Name

/-- A colon in front was there before. -/
theorem head?_of_dotted {s : List Char} (h : (dotted s).head? = some ':') : s.head? = some ':' := by
  fun_cases dotted s with
  | case1 => exact absurd h (by simp [dotted])
  | case2 rest => rfl
  | case3 c rest hsingle =>
    rw [dotted.eq_3 c rest hsingle] at h
    exact h

/-- No two colons are left next to each other. -/
theorem dotted_dotted (s : List Char) : dotted (dotted s) = dotted s := by
  fun_induction dotted s with
  | case1 => rfl
  | case2 rest ih =>
    rw [dotted.eq_3 '.' (dotted rest) (by simp), ih]
  | case3 c rest hsingle ih =>
    -- a colon behind a colon would have been behind it from the start
    have hstill : ∀ tail, c = ':' → dotted rest = ':' :: tail → False := by
      intro tail hc htail
      have hhead : rest.head? = some ':' := head?_of_dotted (by rw [htail]; rfl)
      obtain ⟨rest', hrest⟩ := List.head?_eq_some_iff.mp hhead
      exact hsingle rest' hc hrest
    rw [dotted.eq_3 c (dotted rest) hstill, ih]

theorem dropWhile_root_dotted (s : List Char) (h : s.head? ≠ some '\\') :
    (dotted s).dropWhile (· == '\\') = dotted s := by
  fun_cases dotted s with
  | case1 => rfl
  | case2 rest => rfl
  | case3 c rest hsingle =>
    have hc : (c == '\\') = false := by simpa using h
    rw [List.dropWhile_cons_of_neg]
    simp [hc]

theorem head?_dropWhile_root (s : List Char) : (s.dropWhile (· == '\\')).head? ≠ some '\\' := by
  intro h
  have hfalse := List.head?_dropWhile_not (· == '\\') s
  rw [h] at hfalse
  exact absurd hfalse (by decide)

/-- **Normalizing twice is normalizing once.** -/
theorem normalize_normalize (name : String) : normalize (normalize name) = normalize name := by
  have hhead := head?_dropWhile_root name.toList
  apply String.toList_inj.mp
  unfold normalize Text.mapChars
  rw [String.toList_ofList, String.toList_ofList]
  show dotted ((dotted _).dropWhile _) = dotted _
  rw [dropWhile_root_dotted _ hhead, dotted_dotted]

end Name

/-! ## §2. Looking up, told by steps -/

/-- The steps of looking a written name up, each with the names that it accepts.  A name written
from the root has to be met as it is, and a name with a member part is not guessed by its last
segment. -/
def lookupSteps (written : String) : List (String → Bool) :=
  let name := Name.normalize written
  (· == name) ::
    if Text.startsWith "\\" written then []
    else SymbolTable.endsAtSegment name ::
      if name.toList.contains '.' then []
      else [fun n => Name.unqualified n == Name.unqualified name]

theorem lookupSteps_rooted {written : String} (rooted : Text.startsWith "\\" written = true) :
    lookupSteps written = [(· == Name.normalize written)] := by
  simp [lookupSteps, rooted]

theorem lookupSteps_free {written : String} (free : ¬ Text.startsWith "\\" written = true) :
    lookupSteps written =
      (· == Name.normalize written) :: SymbolTable.endsAtSegment (Name.normalize written) ::
        if (Name.normalize written).toList.contains '.' then []
        else [fun n => Name.unqualified n == Name.unqualified (Name.normalize written)] := by
  simp [lookupSteps, free]

/-- The candidates of the first step that has any. -/
def decisive (names : List String) : List (String → Bool) → List String
  | [] => []
  | step :: rest =>
    match names.filter step with
    | [] => decisive names rest
    | candidates => candidates

section Decisive

variable {names : List String} {steps : List (String → Bool)}

theorem decisive_cons_of_nil {step : String → Bool} (h : names.filter step = []) :
    decisive names (step :: steps) = decisive names steps := by
  rw [decisive, h]

theorem decisive_cons_of_ne {step : String → Bool} (h : names.filter step ≠ []) :
    decisive names (step :: steps) = names.filter step := by
  rw [decisive]
  split
  next hnil => exact absurd hnil h
  next => rfl

theorem decisive_singleton {step : String → Bool} : decisive names [step] = names.filter step := by
  by_cases h : names.filter step = []
  · rw [decisive_cons_of_nil h, h]
    rfl
  · exact decisive_cons_of_ne h

/-- Nothing decides iff no step has a candidate. -/
theorem decisive_eq_nil_iff :
    decisive names steps = [] ↔ ∀ step ∈ steps, ∀ n ∈ names, step n = false := by
  induction steps with
  | nil => simp [decisive]
  | cons step steps ih =>
    by_cases hnil : names.filter step = []
    · have hnone : ∀ n ∈ names, step n = false := by
        simpa [List.filter_eq_nil_iff] using hnil
      rw [decisive_cons_of_nil hnil, ih, List.forall_mem_cons]
      exact (and_iff_right hnone).symm
    · rw [decisive_cons_of_ne hnil, List.forall_mem_cons]
      refine iff_of_false hnil ?_
      rintro ⟨hnone, _⟩
      exact hnil (List.filter_eq_nil_iff.mpr (by simpa using hnone))

/-- What decides is declared, and some step accepts it. -/
theorem of_mem_decisive {n : String} (h : n ∈ decisive names steps) :
    n ∈ names ∧ ∃ step ∈ steps, step n = true := by
  induction steps with
  | nil => exact absurd h (by simp [decisive])
  | cons step steps ih =>
    by_cases hnil : names.filter step = []
    · rw [decisive_cons_of_nil hnil] at h
      obtain ⟨hn, later, hlater, haccepts⟩ := ih h
      exact ⟨hn, later, List.mem_cons_of_mem _ hlater, haccepts⟩
    · rw [decisive_cons_of_ne hnil] at h
      obtain ⟨hn, haccepts⟩ := List.mem_filter.mp h
      exact ⟨hn, step, List.mem_cons_self, haccepts⟩

/-- Names that give every step the same candidates have the same ones decide. -/
theorem decisive_perm {names' : List String}
    (h : ∀ step ∈ steps, (names.filter step).Perm (names'.filter step)) :
    (decisive names steps).Perm (decisive names' steps) := by
  induction steps with
  | nil => exact List.Perm.refl _
  | cons step steps ih =>
    obtain ⟨hstep, hrest⟩ := List.forall_mem_cons.mp h
    by_cases hnil : names.filter step = []
    · have hnil' : names'.filter step = [] := by
        rw [hnil] at hstep
        exact List.nil_perm.mp hstep
      rw [decisive_cons_of_nil hnil, decisive_cons_of_nil hnil']
      exact ih hrest
    · have hne' : names'.filter step ≠ [] := by
        intro hnil'
        rw [hnil'] at hstep
        exact hnil (List.perm_nil.mp hstep)
      rw [decisive_cons_of_ne hnil, decisive_cons_of_ne hne']
      exact hstep

end Decisive

/-- From the root, only the name itself can decide. -/
theorem eq_of_mem_decisive_rooted {names : List String} {written n : String}
    (rooted : Text.startsWith "\\" written = true)
    (h : n ∈ decisive names (lookupSteps written)) : n = Name.normalize written := by
  obtain ⟨_, step, hstep, haccepts⟩ := of_mem_decisive h
  rw [lookupSteps_rooted rooted] at hstep
  rw [List.mem_singleton.mp hstep] at haccepts
  exact beq_iff_eq.mp haccepts

/-- One element of a list without repeats passes a test and no other does. -/
theorem filter_eq_singleton_iff {α : Type} {p : α → Bool} {l : List α} (distinct : l.Nodup)
    {a : α} : l.filter p = [a] ↔ a ∈ l ∧ p a = true ∧ ∀ b ∈ l, p b = true → b = a := by
  constructor
  · intro h
    have hmem : ∀ b, b ∈ l ∧ p b = true ↔ b = a := by
      intro b
      rw [← List.mem_filter, h, List.mem_singleton]
    obtain ⟨ha, hpa⟩ := (hmem a).mpr rfl
    exact ⟨ha, hpa, fun b hb hpb => (hmem b).mp ⟨hb, hpb⟩⟩
  · intro h
    obtain ⟨ha, hpa, honly⟩ := h
    apply List.perm_singleton.mp
    rw [List.perm_ext_iff_of_nodup (distinct.filter p) (List.nodup_singleton a)]
    intro b
    rw [List.mem_filter, List.mem_singleton]
    constructor
    · intro hb
      exact honly b hb.1 hb.2
    · intro hb
      rw [hb]
      exact ⟨ha, hpa⟩

namespace Lookup

/-- The order of the candidates does not matter. -/
theorem ofCandidates_eq_of_perm {l l' : List String} (h : l.Perm l') :
    ofCandidates l = ofCandidates l' := by
  match l, l' with
  | [], l' => rw [List.nil_perm.mp h]
  | [x], l' => rw [List.singleton_perm.mp h]
  | x :: y :: rest, [] => exact absurd h.length_eq (by simp)
  | x :: y :: rest, [z] => exact absurd h.length_eq (by simp)
  | x :: y :: rest, z :: w :: rest' => rfl

theorem ofCandidates_eq_found_iff {l : List String} {n : String} :
    ofCandidates l = .found n ↔ l = [n] := by
  match l with
  | [] => simp [ofCandidates]
  | [x] => simp [ofCandidates]
  | x :: y :: rest => simp [ofCandidates]

theorem ofCandidates_eq_missing_iff {l : List String} : ofCandidates l = .missing ↔ l = [] := by
  match l with
  | [] => simp [ofCandidates]
  | [x] => simp [ofCandidates]
  | x :: y :: rest => simp [ofCandidates]

theorem two_le_of_ambiguous {l : List String} (h : ofCandidates l = .ambiguous) : 2 ≤ l.length := by
  match l with
  | [] => exact absurd h (by simp [ofCandidates])
  | [x] => exact absurd h (by simp [ofCandidates])
  | x :: y :: rest => simp

end Lookup

namespace SymbolTable

/-- The names that end in a partial name; the index by last segments misses none. -/
theorem withEnding_ofNames_perm (names : List String) (ending : String) :
    ((ofNames names).withEnding ending).Perm (names.filter (endsAtSegment ending)) := by
  unfold withEnding
  rw [withUnqualified_ofNames]
  refine ((sortBy_perm compare _).filter _).trans ?_
  rw [List.filter_filter]
  have hsame : ∀ n ∈ names, (endsAtSegment ending n &&
      decide (Name.unqualified n = Name.unqualified ending)) = endsAtSegment ending n := by
    intro n _
    by_cases hends : endsAtSegment ending n = true
    · simp [hends, unqualified_eq_of_endsAtSegment hends]
    · simp [hends]
  rw [List.filter_congr hsame]

theorem withUnqualified_ofNames_perm (names : List String) (segment : String) :
    ((ofNames names).withUnqualified segment).Perm
      (names.filter fun n => Name.unqualified n == segment) := by
  rw [withUnqualified_ofNames]
  refine (sortBy_perm compare _).trans ?_
  rw [List.filter_congr (q := fun n => Name.unqualified n == segment)]
  intro n _
  exact (beq_eq_decide _ _).symm

/-- The first step of every look-up: the name itself, if it is declared. -/
theorem decisive_whole {names : List String} (distinct : names.Nodup) (name : String)
    (steps : List (String → Bool)) : decisive names ((· == name) :: steps) =
      if (ofNames names).contains name then [name] else decisive names steps := by
  by_cases hname : name ∈ names
  · have hone : names.filter (· == name) = [name] := by
      rw [List.filter_beq, List.count_eq_one_of_mem distinct hname]
      rfl
    rw [if_pos (contains_ofNames.mpr hname), decisive_cons_of_ne (by rw [hone]; simp), hone]
  · have hnone : names.filter (· == name) = [] := by
      rw [List.filter_beq, List.count_eq_zero_of_not_mem hname]
      rfl
    rw [if_neg (fun h => hname (contains_ofNames.mp h)), decisive_cons_of_nil hnone]

/-- Looking a name up that does not start at the root. -/
theorem lookup_ofNames {names : List String} (distinct : names.Nodup) {written : String}
    (free : ¬ Text.startsWith "\\" written = true) :
    (ofNames names).lookup (Name.normalize written) =
      Lookup.ofCandidates (decisive names (lookupSteps written)) := by
  have hending := withEnding_ofNames_perm names (Name.normalize written)
  have hsegment := withUnqualified_ofNames_perm names (Name.unqualified (Name.normalize written))
  unfold lookup
  rw [Name.normalize_normalize, lookupSteps_free free, decisive_whole distinct]
  dsimp only
  generalize Name.normalize written = name at hending hsegment ⊢
  by_cases hwhole : (ofNames names).contains name = true
  · rw [if_pos hwhole, if_pos hwhole]
    rfl
  · rw [if_neg hwhole, if_neg hwhole]
    split
    next hnil =>
      -- no name ends in it: only the last segment is left, if it may be used
      rw [hnil] at hending
      rw [decisive_cons_of_nil (List.nil_perm.mp hending)]
      split
      next => rfl
      next =>
        rw [decisive_singleton]
        exact Lookup.ofCandidates_eq_of_perm hsegment
    next hsome =>
      have hne : names.filter (endsAtSegment name) ≠ [] := by
        intro hnil
        rw [hnil] at hending
        exact hsome (List.perm_nil.mp hending)
      rw [decisive_cons_of_ne hne]
      exact Lookup.ofCandidates_eq_of_perm hending

end SymbolTable

namespace Resolver

variable {m : Model} {r : Resolver}

/-- **Looking a name up**, told by its steps and the declared names. -/
theorem find_eq (htable : r.table = SymbolTable.ofModel m) (written : String) :
    r.find written =
      Lookup.ofCandidates (decisive m.declarations.keys (lookupSteps written)) := by
  unfold find
  rw [htable]
  by_cases rooted : Text.startsWith "\\" written = true
  · -- nothing but the name itself is tried
    rw [if_pos rooted, lookupSteps_rooted rooted,
      SymbolTable.decisive_whole (Table.nodup_keys m.declarations)]
    show (if (SymbolTable.ofNames m.declarations.keys).contains _ then _ else _) = _
    split <;> rfl
  · rw [if_neg rooted]
    exact SymbolTable.lookup_ofNames (Table.nodup_keys _) rooted

end Resolver
end CodeAtlas
