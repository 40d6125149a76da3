/-
  CodeAtlas.Proofs.Contents — what the table of contents lists.

  The table is built from the top: each entry is followed by those of the members of its
  declaration.  A declaration is therefore listed if the way up from it ends, which is to say, if it
  has a lineage; and since a declaration has one lineage only, there is one place for it.  The bound
  on the depth never cuts anything off, as a lineage is no longer than the model.

  Nothing is assumed about parents: they may be unknown or run in a circle.

  Main results:
    * `mem_names_declarationEntries` — the declarations listed are EXACTLY those with a lineage.
    * `nodup_names_declarationEntries` — none is listed twice.
-/
import CodeAtlas.Contents
import CodeAtlas.Proofs.Lineage

namespace CodeAtlas.Contents

/-! ## §1. The names in a table -/

/-- The declaration that a target names. -/
def Target.name? : Target → Option String
  | declaration name => some name
  | _ => none

namespace Entry

mutual

/-- The declarations that an entry and the entries below it point at, in the order of the table. -/
def names : Entry → List String
  | mk _ t cs => t.name?.toList ++ namesAll cs

/-- The declarations that several entries point at. -/
def namesAll : List Entry → List String
  | [] => []
  | e :: rest => names e ++ namesAll rest

end

theorem namesAll_eq (es : List Entry) : namesAll es = es.flatMap names := by
  induction es with
  | nil => rfl
  | cons e rest ih =>
    rw [namesAll, ih]
    rfl

end Entry

variable {m : Model}

theorem names_entryOf_zero (m : Model) (top : Bool) (n : String) :
    (entryOf m 0 top n).names = [n] := rfl

theorem names_entryOf_succ (m : Model) (depth : Nat) (top : Bool) (n : String) :
    (entryOf m (depth + 1) top n).names =
      n :: (m.membersOf n).flatMap fun d => (entryOf m depth false d.qualifiedName).names := by
  rw [entryOf, Entry.names, Entry.namesAll_eq, List.flatMap_map]
  rfl

theorem mem_membersOf (keyed : m.Keyed) {d : Declaration} {n : String} :
    d ∈ m.membersOf n ↔ m.get? d.qualifiedName = some d ∧ d.parent = some n := by
  unfold Model.membersOf
  rw [List.mem_filter, Model.mem_values_iff keyed, beq_iff_eq]

theorem nodup_values (keyed : m.Keyed) : m.declarations.values.Nodup := by
  apply List.Nodup.of_map (·.qualifiedName)
  rw [Model.map_qualifiedName_values keyed]
  exact m.declarations.nodup_keys

/-! ## §2. Below one entry -/

/-- **Below an entry** stand the declarations whose lineage leads to it in few enough steps. -/
theorem mem_names_entryOf (keyed : m.Keyed) (depth : Nat) (top : Bool) {n : String}
    {d : Declaration} {l : List Declaration} (hd : m.get? n = some d) (hl : m.Lineage d l)
    (x : String) : x ∈ (entryOf m depth top n).names ↔
      ∃ e below, m.get? x = some e ∧ m.Lineage e (below ++ l) ∧ below.length ≤ depth := by
  induction depth generalizing top n d l with
  | zero =>
    rw [names_entryOf_zero, List.mem_singleton]
    constructor
    · rintro rfl
      exact ⟨d, [], hd, hl, Nat.le_refl _⟩
    · rintro ⟨e, below, he, hline, hlen⟩
      have hbelow : below = [] := List.length_eq_zero_iff.mp (Nat.le_zero.mp hlen)
      rw [hbelow, List.nil_append] at hline
      rw [← keyed he, ← keyed hd, hline.start_eq hl]
  | succ depth ih =>
    rw [names_entryOf_succ, List.mem_cons, List.mem_flatMap]
    constructor
    · rintro (rfl | ⟨e, he, hx⟩)
      · exact ⟨d, [], hd, hl, Nat.zero_le _⟩
      · obtain ⟨hget, hup⟩ := (mem_membersOf keyed).mp he
        obtain ⟨f, below, hf, hline, hlen⟩ := (ih false hget (.step hup hd hl)).mp hx
        refine ⟨f, below ++ [e], hf, by simpa using hline, ?_⟩
        rw [List.length_append, List.length_singleton]
        omega
    · rintro ⟨f, below, hf, hline, hlen⟩
      rcases List.eq_nil_or_concat' below with rfl | ⟨below', e, rfl⟩
      · rw [List.nil_append] at hline
        exact .inl (by rw [← keyed hf, ← keyed hd, hline.start_eq hl])
      · -- the last step before `d` is a member of `d`
        rw [List.append_assoc, List.singleton_append] at hline
        have hfstored : m.get? f.qualifiedName = some f := by rw [keyed hf]; exact hf
        have hestored := hline.stored keyed hfstored e (by simp)
        obtain ⟨above, habove⟩ := hl.eq_cons
        have hup : e.parent = some n := by
          rw [habove] at hline
          rw [hline.parent_eq keyed, keyed hd]
        refine .inr ⟨e, (mem_membersOf keyed).mpr ⟨hestored, hup⟩, ?_⟩
        refine (ih false hestored (.step hup hd hl)).mpr ⟨f, below', hf, hline, ?_⟩
        rw [List.length_append, List.length_singleton] at hlen
        omega

/-- Entries side by side have nothing in common, as that would make two lineages of one
declaration. -/
theorem disjoint_names_entryOf (keyed : m.Keyed) (depth : Nat) (top : Bool) {d e : Declaration}
    {l : List Declaration} (hd : m.get? d.qualifiedName = some d) (hdl : m.Lineage d (d :: l))
    (he : m.get? e.qualifiedName = some e) (hel : m.Lineage e (e :: l)) (hne : d ≠ e) :
    List.Disjoint (entryOf m depth top d.qualifiedName).names
      (entryOf m depth top e.qualifiedName).names := by
  rw [List.disjoint_left]
  intro x hx hx'
  obtain ⟨f, below, hf, hline, _⟩ := (mem_names_entryOf keyed depth top hd hdl x).mp hx
  obtain ⟨f', below', hf', hline', _⟩ := (mem_names_entryOf keyed depth top he hel x).mp hx'
  rw [hf] at hf'
  injection hf' with hff
  subst hff
  have hsplit := hline.unique hline'
  exact hne (List.cons.inj (List.append_inj_right' hsplit (by simp))).1

/-- **Below an entry nothing stands twice.** -/
theorem nodup_names_entryOf (keyed : m.Keyed) (depth : Nat) (top : Bool) {n : String}
    {d : Declaration} {l : List Declaration} (hd : m.get? n = some d) (hl : m.Lineage d l) :
    (entryOf m depth top n).names.Nodup := by
  induction depth generalizing top n d l with
  | zero =>
    rw [names_entryOf_zero]
    exact List.nodup_singleton n
  | succ depth ih =>
    have member : ∀ e ∈ m.membersOf n,
        m.get? e.qualifiedName = some e ∧ m.Lineage e (e :: l) := by
      intro e he
      obtain ⟨hget, hup⟩ := (mem_membersOf keyed).mp he
      exact ⟨hget, .step hup hd hl⟩
    rw [names_entryOf_succ, List.nodup_cons, List.nodup_flatMap]
    refine ⟨?_, ?_, ?_⟩
    · -- the lineage of `d` would lead back to `d`
      intro hmem
      obtain ⟨e, he, hx⟩ := List.mem_flatMap.mp hmem
      obtain ⟨f, below, hf, hline, _⟩ :=
        (mem_names_entryOf keyed depth false (member e he).1 (member e he).2 n).mp hx
      rw [hd] at hf
      injection hf with hdf
      subst hdf
      have hlen := congrArg List.length (hline.unique hl)
      rw [List.length_append, List.length_cons] at hlen
      omega
    · intro e he
      exact ih false (member e he).1 (member e he).2
    · refine ((nodup_values keyed).filter _).imp_of_mem ?_
      intro e e' he he' hne
      exact disjoint_names_entryOf keyed depth false (member e he).1 (member e he).2
        (member e' he').1 (member e' he').2 hne

/-! ## §3. The whole table -/

/-- **The declarations listed are those with a lineage.** -/
theorem mem_names_declarationEntries (keyed : m.Keyed) (x : String) :
    x ∈ Entry.namesAll (declarationEntries m) ↔ ∃ d l, m.get? x = some d ∧ m.Lineage d l := by
  unfold declarationEntries Model.parentless
  rw [Entry.namesAll_eq, List.flatMap_map, List.mem_flatMap]
  constructor
  · rintro ⟨d, hd, hx⟩
    obtain ⟨hvalue, htop⟩ := List.mem_filter.mp hd
    have hget := (Model.mem_values_iff keyed).mp hvalue
    have hroot : m.Lineage d [d] := .root (by simpa using htop)
    obtain ⟨e, below, he, hline, _⟩ := (mem_names_entryOf keyed _ true hget hroot x).mp hx
    exact ⟨e, _, he, hline⟩
  · rintro ⟨e, l, he, hline⟩
    have hestored : m.get? e.qualifiedName = some e := by rw [keyed he]; exact he
    obtain ⟨below, d, rfl, htop⟩ := hline.exists_root
    have hget := hline.stored keyed hestored d (by simp)
    have hlen := hline.length_le keyed hestored
    rw [List.length_append, List.length_singleton] at hlen
    refine ⟨d, List.mem_filter.mpr ⟨(Model.mem_values_iff keyed).mpr hget, by simp [htop]⟩, ?_⟩
    exact (mem_names_entryOf keyed _ true hget (.root htop) x).mpr
      ⟨e, below, he, hline, by omega⟩

/-- **No declaration is listed twice.** -/
theorem nodup_names_declarationEntries (keyed : m.Keyed) :
    (Entry.namesAll (declarationEntries m)).Nodup := by
  unfold declarationEntries Model.parentless
  rw [Entry.namesAll_eq, List.flatMap_map, List.nodup_flatMap]
  have stored : ∀ d ∈ m.declarations.values.filter (·.parent.isNone),
      m.get? d.qualifiedName = some d ∧ m.Lineage d [d] := by
    intro d hd
    obtain ⟨hvalue, htop⟩ := List.mem_filter.mp hd
    exact ⟨(Model.mem_values_iff keyed).mp hvalue, .root (by simpa using htop)⟩
  constructor
  · intro d hd
    exact nodup_names_entryOf keyed _ true (stored d hd).1 (stored d hd).2
  · refine ((nodup_values keyed).filter _).imp_of_mem ?_
    intro d d' hd hd' hne
    exact disjoint_names_entryOf keyed _ true (stored d hd).1 (stored d hd).2 (stored d' hd').1
      (stored d' hd').2 hne

/-- Where every declaration has a lineage, every one is listed, and once. -/
theorem names_ofModel_perm (keyed : m.Keyed)
    (all : ∀ ⦃n : String⦄ ⦃d : Declaration⦄, m.get? n = some d → ∃ l, m.Lineage d l) :
    (ofModel m none).names.Perm m.declarations.keys := by
  have hnames : (ofModel m none).names = Entry.namesAll (declarationEntries m) := by
    rw [ofModel, Entry.names, List.append_nil]
    rfl
  rw [hnames, List.perm_ext_iff_of_nodup (nodup_names_declarationEntries keyed)
    m.declarations.nodup_keys]
  intro x
  rw [mem_names_declarationEntries keyed, Table.mem_keys_iff]
  constructor
  · rintro ⟨d, _, hd, _⟩
    exact ⟨d, hd⟩
  · rintro ⟨d, hd⟩
    obtain ⟨l, hl⟩ := all hd
    exact ⟨d, l, hd, hl⟩

end CodeAtlas.Contents
