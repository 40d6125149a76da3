/-
  CodeAtlas.Proofs.Scan — looking up through the index and looking at every name.

  A symbol table looks among the names of one last segment only.  Nothing is missed by that: a name
  that ends in another one behind a separator has its last segment, whatever separators, empty
  segments and colons there are in front.  So the answer to a query can be read off the list of all
  names, and neither their order nor the spelling of the query matters.

  Main results:
    * `Name.not_startsWith_normalize` — a normalized name does not start at the root.
    * `Lookup.judges_ofCandidates` — the verdict on candidates is one on their number.
    * `SymbolTable.scanned_lookup` — the look-up and the scan of all names agree.
-/
import CodeAtlas.Proofs.Lookup

namespace CodeAtlas

/-! ## §1. Queries -/

namespace Name

/-- A name has another one behind a separator at its end, as `App\User` has `User`. -/
def EndsIn (ending name : String) : Prop :=
  ∃ head sep, isSeparator sep = true ∧ name.toList = head ++ sep :: ending.toList

theorem not_startsWith_normalize (query : String) :
    ¬ Text.startsWith "\\" (normalize query) = true := by
  intro h
  obtain ⟨rest, hrest⟩ := Text.startsWith_iff.mp h
  have hhead := head?_dropWhile_root query.toList
  -- there is nothing more to drop, but a backslash in front would be dropped
  have hdrop := dropWhile_root_dotted _ hhead
  have hlist : dotted (query.toList.dropWhile (· == '\\')) = '\\' :: rest.toList := by
    have htext := congrArg String.toList hrest
    rw [normalize, Text.mapChars, String.toList_ofList, String.toList_append] at htext
    exact htext
  rw [hlist, List.dropWhile_cons_of_pos (by rfl)] at hdrop
  have hlength := (List.dropWhile_sublist (l := rest.toList) (· == '\\')).length_le
  rw [hdrop, List.length_cons] at hlength
  omega

end Name

namespace SymbolTable

/-- A query that is normalized beforehand has the same answer. -/
theorem lookup_normalize (t : SymbolTable) (query : String) :
    t.lookup (Name.normalize query) = t.lookup query := by
  unfold lookup
  rw [Name.normalize_normalize]

/-- The answer to any query, told by steps. -/
theorem lookup_eq_decisive {names : List String} (distinct : names.Nodup) (query : String) :
    (ofNames names).lookup query =
      Lookup.ofCandidates (decisive names (lookupSteps (Name.normalize query))) := by
  have hfree := Name.not_startsWith_normalize query
  rw [← lookup_normalize, ← lookup_normalize, lookup_ofNames distinct hfree]

end SymbolTable

/-! ## §2. Verdicts -/

namespace Lookup

/-- A verdict on the names that meet a condition, by their number. -/
structure Judges (names : List String) (p : String → Prop) (answer : Lookup) : Prop where
  found : ∀ n, answer = .found n ↔ n ∈ names ∧ p n ∧ ∀ other ∈ names, p other → other = n
  ambiguous : answer = .ambiguous ↔ ∃ n ∈ names, ∃ other ∈ names, n ≠ other ∧ p n ∧ p other
  missing : answer = .missing ↔ ∀ n ∈ names, ¬ p n

theorem ofCandidates_eq_ambiguous_iff {l : List String} (distinct : l.Nodup) :
    ofCandidates l = .ambiguous ↔ ∃ n ∈ l, ∃ other ∈ l, n ≠ other := by
  match l with
  | [] => simp [ofCandidates]
  | [n] => simp [ofCandidates]
  | n :: other :: rest =>
    have hne : n ≠ other := by
      intro heq
      exact (List.nodup_cons.mp distinct).1 (heq ▸ List.mem_cons_self)
    exact iff_of_true rfl ⟨n, by simp, other, by simp, hne⟩

theorem judges_ofCandidates {names : List String} (distinct : names.Nodup) {p : String → Prop}
    {test : String → Bool} (htest : ∀ n ∈ names, test n = true ↔ p n) :
    Judges names p (ofCandidates (names.filter test)) where
  found n := by
    rw [ofCandidates_eq_found_iff, filter_eq_singleton_iff distinct]
    constructor
    · intro h
      obtain ⟨hn, hpass, honly⟩ := h
      exact ⟨hn, (htest n hn).mp hpass, fun other ho hp => honly other ho ((htest other ho).mpr hp)⟩
    · intro h
      obtain ⟨hn, hp, honly⟩ := h
      exact ⟨hn, (htest n hn).mpr hp, fun other ho ht => honly other ho ((htest other ho).mp ht)⟩
  ambiguous := by
    rw [ofCandidates_eq_ambiguous_iff (distinct.filter test)]
    constructor
    · intro h
      obtain ⟨n, hn, other, ho, hne⟩ := h
      obtain ⟨hn, hpass⟩ := List.mem_filter.mp hn
      obtain ⟨ho, hpass'⟩ := List.mem_filter.mp ho
      exact ⟨n, hn, other, ho, hne, (htest n hn).mp hpass, (htest other ho).mp hpass'⟩
    · intro h
      obtain ⟨n, hn, other, ho, hne, hp, hp'⟩ := h
      exact ⟨n, List.mem_filter.mpr ⟨hn, (htest n hn).mpr hp⟩, other,
        List.mem_filter.mpr ⟨ho, (htest other ho).mpr hp'⟩, hne⟩
  missing := by
    rw [ofCandidates_eq_missing_iff, List.filter_eq_nil_iff]
    constructor
    · intro h n hn hp
      exact h n hn ((htest n hn).mpr hp)
    · intro h n hn hpass
      exact h n hn ((htest n hn).mp hpass)

/-! ## §3. The scan -/

/-- The answer to a normalized query, by a scan of all names. -/
structure Scanned (names : List String) (name : String) (answer : Lookup) : Prop where
  /-- The name itself comes first. -/
  whole : name ∈ names → answer = .found name
  /-- Then come the names that end in it. -/
  ending : name ∉ names → (∃ n ∈ names, Name.EndsIn name n) → Judges names (Name.EndsIn name) answer
  /-- A name with a member part is not guessed. -/
  member : name ∉ names → (∀ n ∈ names, ¬ Name.EndsIn name n) → '.' ∈ name.toList →
    answer = .missing
  /-- Any other name may be that of a last segment. -/
  segment : name ∉ names → (∀ n ∈ names, ¬ Name.EndsIn name n) → '.' ∉ name.toList →
    Judges names (fun n => Name.unqualified n = Name.unqualified name) answer

end Lookup

namespace SymbolTable

variable {names : List String} {name : String}

/-- Among names that are not the ending itself. -/
theorem endsAtSegment_iff_endsIn (hname : name ∉ names) {n : String} (hn : n ∈ names) :
    endsAtSegment name n = true ↔ Name.EndsIn name n := by
  rw [endsAtSegment_iff, or_iff_right]
  · rfl
  · intro heq
    exact hname (heq ▸ hn)

theorem filter_endsAtSegment_eq_nil_iff (hname : name ∉ names) :
    names.filter (endsAtSegment name) = [] ↔ ∀ n ∈ names, ¬ Name.EndsIn name n := by
  rw [List.filter_eq_nil_iff]
  constructor
  · intro h n hn hends
    exact h n hn ((endsAtSegment_iff_endsIn hname hn).mpr hends)
  · intro h n hn hends
    exact h n hn ((endsAtSegment_iff_endsIn hname hn).mp hends)

theorem decisive_of_mem (distinct : names.Nodup) (hname : name ∈ names)
    (steps : List (String → Bool)) : decisive names ((· == name) :: steps) = [name] := by
  rw [decisive_whole distinct, if_pos (contains_ofNames.mpr hname)]

theorem decisive_of_notMem (distinct : names.Nodup) (hname : name ∉ names)
    (steps : List (String → Bool)) :
    decisive names ((· == name) :: steps) = decisive names steps := by
  rw [decisive_whole distinct, if_neg (fun h => hname (contains_ofNames.mp h))]

/-- The steps of a look-up are a scan. -/
theorem scanned_decisive (distinct : names.Nodup) (hfree : ¬ Text.startsWith "\\" name = true)
    (hnormal : Name.normalize name = name) :
    Lookup.Scanned names name (Lookup.ofCandidates (decisive names (lookupSteps name))) := by
  rw [lookupSteps_free hfree, hnormal]
  constructor
  case whole =>
    intro hname
    rw [decisive_of_mem distinct hname]
    rfl
  case ending =>
    intro hname hsome
    have hne : names.filter (endsAtSegment name) ≠ [] := by
      intro hnil
      obtain ⟨n, hn, hends⟩ := hsome
      exact (filter_endsAtSegment_eq_nil_iff hname).mp hnil n hn hends
    rw [decisive_of_notMem distinct hname, decisive_cons_of_ne hne]
    exact Lookup.judges_ofCandidates distinct fun n hn => endsAtSegment_iff_endsIn hname hn
  case member =>
    intro hname hnone hdot
    have hnil := (filter_endsAtSegment_eq_nil_iff hname).mpr hnone
    rw [decisive_of_notMem distinct hname, decisive_cons_of_nil hnil,
      if_pos (List.contains_iff_mem.mpr hdot)]
    rfl
  case segment =>
    intro hname hnone hdot
    have hnil := (filter_endsAtSegment_eq_nil_iff hname).mpr hnone
    rw [decisive_of_notMem distinct hname, decisive_cons_of_nil hnil,
      if_neg (fun h => hdot (List.contains_iff_mem.mp h)), decisive_singleton]
    exact Lookup.judges_ofCandidates distinct fun n _ => beq_iff_eq

/-- **The index answers like a scan of all names.**  It does so for the names in any order, and for
the query as it was written or normalized. -/
theorem scanned_lookup (distinct : names.Nodup) (query : String) :
    Lookup.Scanned names (Name.normalize query) ((ofNames names).lookup query) ∧
      (∀ others, others.Perm names →
        (ofNames others).lookup query = (ofNames names).lookup query) ∧
      (ofNames names).lookup (Name.normalize query) = (ofNames names).lookup query := by
  refine ⟨?_, ?_, lookup_normalize _ query⟩
  · rw [lookup_eq_decisive distinct]
    exact scanned_decisive distinct (Name.not_startsWith_normalize query)
      (Name.normalize_normalize query)
  · intro others hperm
    rw [lookup_eq_decisive distinct, lookup_eq_decisive (hperm.nodup_iff.mpr distinct)]
    apply Lookup.ofCandidates_eq_of_perm
    exact decisive_perm fun step _ => hperm.filter step

/-- Two names of one last segment, a member behind an empty segment, and its type by itself. -/
def mixedNames : List String := ["Lib\\User", "App\\User", "App\\\\Foo.bar", "Foo"]

/-- A static member, written from the root, is found by its ending. -/
theorem scanned_lookup_mixed : mixedNames.Nodup ∧
    (Lookup.Scanned mixedNames "Foo.bar" ((ofNames mixedNames).lookup "\\Foo::bar") ∧
      (∀ others, others.Perm mixedNames → (ofNames others).lookup "\\Foo::bar" =
        (ofNames mixedNames).lookup "\\Foo::bar") ∧
      (ofNames mixedNames).lookup "Foo.bar" = (ofNames mixedNames).lookup "\\Foo::bar") ∧
    (ofNames mixedNames).lookup "\\Foo::bar" = .found "App\\\\Foo.bar" := by
  have distinct : mixedNames.Nodup := by decide
  have hnormal : Name.normalize "\\Foo::bar" = "Foo.bar" := by decide +kernel
  refine ⟨distinct, ?_, ?_⟩
  · rw [← hnormal]
    exact scanned_lookup distinct "\\Foo::bar"
  · rw [lookup_eq_decisive distinct]
    decide +kernel

end SymbolTable
end CodeAtlas
