/-
  CodeAtlas.Proofs.Search — what a search finds.

  The index is filled declaration by declaration, in name order, and a key collects what it is
  given: primary hits of some declarations between secondary hits of others.  Sorting a key's hits
  once, at the end, separates the two.  So the hits of a key have a description that mentions
  neither filing nor sorting: the declarations whose qualified name reads like the key, then those
  of which only the last segment does.

  Searching by opening walks from key to key and skips declarations that it has met.  The hits it
  walks through are strictly increasing, by key first, so the hit that it keeps of a declaration is
  the one under its smallest key.

  Main results:
    * `get?_ofModel` — the hits under a key.
    * `answers_exact` — searching by key is a scan of ALL declarations.
    * `listed_startingWith` — so is searching by opening.
-/
import CodeAtlas.Proofs.Lineage
import CodeAtlas.Proofs.Loop
import CodeAtlas.Proofs.Order
import CodeAtlas.Proofs.TextOrder
import CodeAtlas.Search

namespace CodeAtlas.Search

variable {m : Model}

/-! ## §1. Hits and their keys -/

/-- A declaration as a hit. -/
def hitOf (primary : Bool) (d : Declaration) : Hit := ⟨d.qualifiedName, d.kind, primary⟩

/-- The key of primary hits of a name. -/
def fullKey (name : String) : String := Text.lower name

/-- The key of secondary hits of a name. -/
def shortKey (name : String) : String := Text.lower (Name.unqualified name)

/-- The key that a hit is filed under. -/
def Hit.key (h : Hit) : String :=
  if h.primary then fullKey h.qualifiedName else shortKey h.qualifiedName

/-- How a declaration is filed: under its qualified name, and under the last segment of it where
that is a different key. -/
inductive FiledUnder (d : Declaration) : String → Bool → Prop
  | full : FiledUnder d (fullKey d.qualifiedName) true
  | short (differs : shortKey d.qualifiedName ≠ fullKey d.qualifiedName) :
      FiledUnder d (shortKey d.qualifiedName) false

theorem FiledUnder.key_hitOf {d : Declaration} {key : String} {primary : Bool}
    (h : FiledUnder d key primary) : (hitOf primary d).key = key := by
  cases h <;> rfl

theorem filedUnder_true_iff {d : Declaration} {key : String} :
    FiledUnder d key true ↔ fullKey d.qualifiedName = key := by
  constructor
  · rintro ⟨⟩
    rfl
  · rintro rfl
    exact .full

theorem filedUnder_false_iff {d : Declaration} {key : String} : FiledUnder d key false ↔
    shortKey d.qualifiedName = key ∧ shortKey d.qualifiedName ≠ fullKey d.qualifiedName := by
  constructor
  · intro h
    cases h with
    | short differs => exact ⟨rfl, differs⟩
  · rintro ⟨rfl, differs⟩
    exact .short differs

/-- A declaration is found under both of its keys. -/
theorem exists_filedUnder_iff {d : Declaration} {key : String} :
    (∃ primary, FiledUnder d key primary) ↔
      key = fullKey d.qualifiedName ∨ key = shortKey d.qualifiedName := by
  constructor
  · rintro ⟨primary, h⟩
    cases h with
    | full => exact .inl rfl
    | short => exact .inr rfl
  · intro h
    by_cases hfull : key = fullKey d.qualifiedName
    · exact ⟨true, filedUnder_true_iff.mpr hfull.symm⟩
    · -- the key is not the full one, so the short one differs from it
      have hshort : key = shortKey d.qualifiedName := h.resolve_left hfull
      exact ⟨false, filedUnder_false_iff.mpr ⟨hshort.symm, hshort ▸ hfull⟩⟩

instance : Std.TransCmp Hit.order := by
  unfold Hit.order
  infer_instance

theorem Hit.order_eq_lt_iff {a b : Hit} : Hit.order a b = .lt ↔
    (a.primary = true ∧ b.primary = false) ∨
      a.primary = b.primary ∧ a.qualifiedName < b.qualifiedName := by
  unfold Hit.order compareLex compareOn
  cases ha : a.primary <;> cases hb : b.primary <;>
    simp [ha, hb, compare_eq_lt_iff, Nat.compare_eq_ite_lt]

/-! ## §2. The hits under a key -/

/-- What a key is given for a declaration. -/
def hitUnder? (key : String) (d : Declaration) : Option Hit :=
  if fullKey d.qualifiedName = key then some (hitOf true d)
  else if shortKey d.qualifiedName = key then some (hitOf false d)
  else none

theorem get?_file {index : Index} {group : String → List Hit}
    (h : ∀ k, index.get? k = groupValue id (group k)) (key : String) (hit : Hit) (k : String) :
    (file index key hit).get? k =
      groupValue id (if k = key then group k ++ [hit] else group k) := by
  unfold file
  rw [Table.get?_upsert, h key, getD_groupValue (f := id) (b := []) rfl]
  by_cases hk : k = key
  · rw [if_pos hk, if_pos hk, hk, groupValue_concat]
    rfl
  · rw [if_neg hk, if_neg hk, h]

theorem add_eq (index : Index) (d : Declaration) : add index d =
    file (if shortKey d.qualifiedName = fullKey d.qualifiedName then index
      else file index (shortKey d.qualifiedName) (hitOf false d))
      (fullKey d.qualifiedName) (hitOf true d) := rfl

/-- **Filing a declaration gives every key at most one hit of it.** -/
theorem get?_add {index : Index} {group : String → List Hit}
    (h : ∀ k, index.get? k = groupValue id (group k)) (d : Declaration) (k : String) :
    (add index d).get? k = groupValue id (group k ++ (hitUnder? k d).toList) := by
  unfold hitUnder?
  rw [add_eq]
  by_cases hsame : shortKey d.qualifiedName = fullKey d.qualifiedName
  · rw [if_pos hsame, get?_file h]
    congr 1
    by_cases hfull : fullKey d.qualifiedName = k
    · rw [if_pos hfull, if_pos hfull.symm]
      rfl
    · rw [if_neg hfull, if_neg (Ne.symm hfull), if_neg (hsame ▸ hfull)]
      exact (List.append_nil _).symm
  · rw [if_neg hsame, get?_file (get?_file h _ _)]
    congr 1
    by_cases hfull : fullKey d.qualifiedName = k
    · -- the secondary hit went to another key
      rw [if_pos hfull, if_pos hfull.symm, if_neg (fun hk => hsame (hk.symm.trans hfull.symm))]
      rfl
    · rw [if_neg hfull, if_neg (Ne.symm hfull)]
      by_cases hshort : shortKey d.qualifiedName = k
      · rw [if_pos hshort, if_pos hshort.symm]
        rfl
      · rw [if_neg hshort, if_neg (Ne.symm hshort)]
        exact (List.append_nil _).symm

theorem get?_foldl_add (ds : List Declaration) (k : String) :
    (ds.foldl add ∅).get? k = groupValue id (ds.filterMap (hitUnder? k)) := by
  have hfilled : ∀ k, (ds.foldl add ∅).get? k = groupValue id (ds.filterMap (hitUnder? k)) := by
    refine foldl_invariant (P := fun (done : List Declaration) (index : Index) =>
      ∀ k, index.get? k = groupValue id (done.filterMap (hitUnder? k))) ?_ ?_
    · intro k
      rfl
    · intro done d rest index _ h k
      rw [get?_add h, List.filterMap_append]
      cases hd : hitUnder? k d <;> simp [hd]
  exact hfilled k

/-- The declarations that a key has hits of: primary ones or secondary ones. -/
def filedBy (m : Model) (key : String) : Bool → List Declaration
  | true => m.declarations.values.filter fun d => fullKey d.qualifiedName = key
  | false => m.declarations.values.filter fun d =>
      shortKey d.qualifiedName = key ∧ shortKey d.qualifiedName ≠ fullKey d.qualifiedName

/-- The hits under a key: primary ones first. -/
def bucket (m : Model) (key : String) : List Hit :=
  (filedBy m key true).map (hitOf true) ++ (filedBy m key false).map (hitOf false)

theorem mem_filedBy_iff (keyed : m.Keyed) {key : String} {primary : Bool} {d : Declaration} :
    d ∈ filedBy m key primary ↔ m.get? d.qualifiedName = some d ∧ FiledUnder d key primary := by
  cases primary with
  | true =>
    unfold filedBy
    rw [List.mem_filter, Model.mem_values_iff keyed, filedUnder_true_iff, decide_eq_true_iff]
  | false =>
    unfold filedBy
    rw [List.mem_filter, Model.mem_values_iff keyed, filedUnder_false_iff, decide_eq_true_iff]

theorem increasing_filedBy (keyed : m.Keyed) (key : String) (primary : Bool) :
    (filedBy m key primary).Pairwise fun d e => d.qualifiedName < e.qualifiedName := by
  cases primary <;> exact (Model.increasing_values keyed).filter _

theorem mem_bucket_iff (keyed : m.Keyed) {key : String} {h : Hit} : h ∈ bucket m key ↔
    ∃ d, m.get? d.qualifiedName = some d ∧ FiledUnder d key h.primary ∧ h = hitOf h.primary d := by
  unfold bucket
  rw [List.mem_append, List.mem_map, List.mem_map]
  constructor
  · rintro (⟨d, hd, rfl⟩ | ⟨d, hd, rfl⟩)
    · obtain ⟨hstored, hfiled⟩ := (mem_filedBy_iff keyed).mp hd
      exact ⟨d, hstored, hfiled, rfl⟩
    · obtain ⟨hstored, hfiled⟩ := (mem_filedBy_iff keyed).mp hd
      exact ⟨d, hstored, hfiled, rfl⟩
  · rintro ⟨d, hstored, hfiled, hhit⟩
    cases hprimary : h.primary with
    | true =>
      rw [hprimary] at hfiled hhit
      exact .inl ⟨d, (mem_filedBy_iff keyed).mpr ⟨hstored, hfiled⟩, hhit.symm⟩
    | false =>
      rw [hprimary] at hfiled hhit
      exact .inr ⟨d, (mem_filedBy_iff keyed).mpr ⟨hstored, hfiled⟩, hhit.symm⟩

theorem key_of_mem_bucket (keyed : m.Keyed) {key : String} {h : Hit} (hh : h ∈ bucket m key) :
    h.key = key := by
  obtain ⟨d, -, hfiled, hhit⟩ := (mem_bucket_iff keyed).mp hh
  rw [hhit]
  exact hfiled.key_hitOf

/-- The hits under a key are strictly increasing. -/
theorem increasing_bucket (keyed : m.Keyed) (key : String) :
    (bucket m key).Pairwise fun a b => Hit.order a b = .lt := by
  have hpart : ∀ primary, ((filedBy m key primary).map (hitOf primary)).Pairwise
      fun a b => Hit.order a b = .lt := by
    intro primary
    refine List.pairwise_map.mpr ((increasing_filedBy keyed key primary).imp ?_)
    intro d e hlt
    exact Hit.order_eq_lt_iff.mpr (.inr ⟨rfl, hlt⟩)
  refine List.pairwise_append.mpr ⟨hpart true, hpart false, ?_⟩
  intro a ha b hb
  obtain ⟨d, _, rfl⟩ := List.mem_map.mp ha
  obtain ⟨e, _, rfl⟩ := List.mem_map.mp hb
  exact Hit.order_eq_lt_iff.mpr (.inl ⟨rfl, rfl⟩)

/-- A key is given the hits of its bucket, in another order. -/
theorem filterMap_hitUnder?_perm (m : Model) (key : String) :
    (m.declarations.values.filterMap (hitUnder? key)).Perm (bucket m key) := by
  unfold bucket filedBy
  induction m.declarations.values with
  | nil => exact .nil
  | cons d ds ih =>
    by_cases hfull : fullKey d.qualifiedName = key
    · have hshort : ¬ (shortKey d.qualifiedName = key ∧
          shortKey d.qualifiedName ≠ fullKey d.qualifiedName) := by
        rintro ⟨hkey, hne⟩
        exact hne (hkey.trans hfull.symm)
      have hhit : hitUnder? key d = some (hitOf true d) := if_pos hfull
      rw [List.filterMap_cons_some hhit, List.filter_cons_of_pos (by simpa using hfull),
        List.filter_cons_of_neg (by simpa using hshort)]
      exact ih.cons _
    · by_cases hshort : shortKey d.qualifiedName = key
      · have hne : shortKey d.qualifiedName ≠ fullKey d.qualifiedName := by
          rw [hshort]
          exact Ne.symm hfull
        have hhit : hitUnder? key d = some (hitOf false d) := by
          unfold hitUnder?
          rw [if_neg hfull, if_pos hshort]
        rw [List.filterMap_cons_some hhit, List.filter_cons_of_neg (by simpa using hfull),
          List.filter_cons_of_pos (by simpa using And.intro hshort hne)]
        exact (ih.cons _).trans List.perm_middle.symm
      · have hhit : hitUnder? key d = none := by
          unfold hitUnder?
          rw [if_neg hfull, if_neg hshort]
        rw [List.filterMap_cons_none hhit, List.filter_cons_of_neg (by simpa using hfull),
          List.filter_cons_of_neg (by simp [hshort])]
        exact ih

/-- **The hits under a key.**  Sorting puts what the key was given into the order of its bucket. -/
theorem get?_ofModel (keyed : m.Keyed) (key : String) :
    (ofModel m).get? key = groupValue id (bucket m key) := by
  have hperm := filterMap_hitUnder?_perm m key
  have hsorted := sortBy_eq_of_increasing hperm (increasing_bucket keyed key)
  have hnil : m.declarations.values.filterMap (hitUnder? key) = [] ↔ bucket m key = [] := by
    rw [← List.length_eq_zero_iff, ← List.length_eq_zero_iff, hperm.length_eq]
  unfold ofModel
  rw [Table.get?_map, get?_foldl_add, map_groupValue]
  unfold groupValue
  simp only [hnil, id_eq, hsorted]

theorem getD_get?_ofModel (keyed : m.Keyed) (key : String) :
    ((ofModel m).get? key).getD [] = bucket m key := by
  rw [get?_ofModel keyed, getD_groupValue (f := id) (b := []) rfl]
  rfl

theorem get?_ofModel_eq_some_iff (keyed : m.Keyed) {key : String} {hits : List Hit} :
    (ofModel m).get? key = some hits ↔ bucket m key ≠ [] ∧ bucket m key = hits := by
  rw [get?_ofModel keyed, groupValue_eq_some_iff]
  rfl

theorem get?_ofModel_of_mem_bucket (keyed : m.Keyed) {key : String} {h : Hit}
    (hh : h ∈ bucket m key) : (ofModel m).get? key = some (bucket m key) :=
  (get?_ofModel_eq_some_iff keyed).mpr ⟨List.ne_nil_of_mem hh, rfl⟩

/-! ## §3. Searching by key -/

/-- A list has the declarations with a property, all of them, in name order. -/
structure InNameOrder (m : Model) (p : Declaration → Prop) (ds : List Declaration) : Prop where
  complete : ∀ d, d ∈ ds ↔ m.get? d.qualifiedName = some d ∧ p d
  increasing : ds.Pairwise fun d e => d.qualifiedName < e.qualifiedName

/-- The answer to a query: the declarations of that qualified name, in any case, then those of which
only the last segment reads like it. -/
structure Answers (m : Model) (query : String) (hits : List Hit) : Prop where
  parts : ∃ full short : List Declaration, hits = full.map (hitOf true) ++ short.map (hitOf false) ∧
    InNameOrder m (fun d => Text.lower d.qualifiedName = Text.lower query) full ∧
    InNameOrder m (fun d => Text.lower (Name.unqualified d.qualifiedName) = Text.lower query ∧
      Text.lower (Name.unqualified d.qualifiedName) ≠ Text.lower d.qualifiedName) short
  once : (hits.map (·.qualifiedName)).Nodup

/-- No declaration has two hits under one key. -/
theorem nodup_bucket (keyed : m.Keyed) (key : String) :
    ((bucket m key).map (·.qualifiedName)).Nodup := by
  have hpart : ∀ primary,
      (((filedBy m key primary).map (hitOf primary)).map (·.qualifiedName)).Nodup := by
    intro primary
    rw [List.map_map]
    refine List.pairwise_map.mpr ((increasing_filedBy keyed key primary).imp ?_)
    intro d e hlt heq
    have hname : d.qualifiedName = e.qualifiedName := heq
    rw [hname] at hlt
    exact Key.irrefl _ hlt
  unfold bucket
  rw [List.map_append, List.nodup_append]
  refine ⟨hpart true, hpart false, ?_⟩
  -- a name with a primary hit here has the key as its full key, and no secondary hit next to it
  intro n hn n' hn' heq
  rw [List.map_map, List.mem_map] at hn hn'
  obtain ⟨d, hd, rfl⟩ := hn
  obtain ⟨e, he, rfl⟩ := hn'
  have hfull := filedUnder_true_iff.mp ((mem_filedBy_iff keyed).mp hd).2
  obtain ⟨hshort, hdiffers⟩ := filedUnder_false_iff.mp ((mem_filedBy_iff keyed).mp he).2
  have hname : d.qualifiedName = e.qualifiedName := heq
  rw [hname] at hfull
  exact hdiffers (hshort.trans hfull.symm)

theorem mem_keys_ofModel_iff (keyed : m.Keyed) {key : String} : key ∈ (ofModel m).keys ↔
    ∃ d, m.get? d.qualifiedName = some d ∧
      (key = Text.lower d.qualifiedName ∨ key = Text.lower (Name.unqualified d.qualifiedName)) := by
  rw [Table.mem_keys_iff]
  constructor
  · rintro ⟨hits, hget⟩
    obtain ⟨hne, -⟩ := (get?_ofModel_eq_some_iff keyed).mp hget
    obtain ⟨h, hh⟩ := List.exists_mem_of_ne_nil _ hne
    obtain ⟨d, hstored, hfiled, -⟩ := (mem_bucket_iff keyed).mp hh
    exact ⟨d, hstored, exists_filedUnder_iff.mp ⟨_, hfiled⟩⟩
  · rintro ⟨d, hstored, hkey⟩
    obtain ⟨primary, hfiled⟩ := exists_filedUnder_iff.mpr hkey
    have hmem : hitOf primary d ∈ bucket m key :=
      (mem_bucket_iff keyed).mpr ⟨d, hstored, hfiled, rfl⟩
    exact ⟨_, get?_ofModel_of_mem_bucket keyed hmem⟩

/-- **Searching by key is a scan of all declarations**, and the keys are the names to search by. -/
theorem answers_exact (keyed : m.Keyed) (query : String) :
    Answers m query (exact (ofModel m) query) ∧ (ofModel m).keys.Pairwise (· < ·) ∧
      ∀ key, key ∈ (ofModel m).keys ↔ ∃ d, m.get? d.qualifiedName = some d ∧
        (key = Text.lower d.qualifiedName ∨
          key = Text.lower (Name.unqualified d.qualifiedName)) := by
  refine ⟨?_, Table.increasing_keys _, fun key => mem_keys_ofModel_iff keyed⟩
  unfold exact
  rw [getD_get?_ofModel keyed]
  refine ⟨⟨filedBy m (Text.lower query) true, filedBy m (Text.lower query) false, rfl,
    ⟨?_, increasing_filedBy keyed _ _⟩, ⟨?_, increasing_filedBy keyed _ _⟩⟩, nodup_bucket keyed _⟩
  · intro d
    rw [mem_filedBy_iff keyed, filedUnder_true_iff]
    rfl
  · intro d
    rw [mem_filedBy_iff keyed, filedUnder_false_iff]
    rfl

/-- A model with functions of the given names. -/
def declaring (names : List String) : Model where
  sourceRoot := "src"
  declarations := Table.ofList <| names.map fun n =>
    (n, { name := Name.unqualified n, qualifiedName := n, kind := .callable, construct := .function
          parent := none, documentation := "", signature := "", visibility := .publicAccess
          modifiers := [], filePath := "a.php", lineStart := 1, lineEnd := 1 })

theorem keyed_declaring (names : List String) : (declaring names).Keyed := by
  refine foldl_invariant (P := fun (_ : List (String × Declaration))
    (t : Table String Declaration) => ∀ ⦃n d⦄, t.get? n = some d → d.qualifiedName = n) ?_ ?_
  · intro n d hd
    have hnone : none = some d := hd
    exact absurd hnone (by simp)
  · intro done e rest t hsplit ht n d hd
    have he : e ∈ done ++ e :: rest := List.mem_append_right _ List.mem_cons_self
    rw [← hsplit] at he
    obtain ⟨name, -, rfl⟩ := List.mem_map.mp he
    rw [Table.get?_insert] at hd
    split at hd
    next hn => rw [← Option.some.inj hd, hn]
    next => exact ht hd

/-- Names that differ in case, and one that only starts like them. -/
def parsers : Model := declaring ["B\\parse", "A\\Parse", "PARSE", "Parser"]

/-- Names that differ in case meet under one key; the one that reads like it as a whole is first. -/
theorem answers_exact_parse :
    parsers.Keyed ∧ Answers parsers "Parse" (exact (ofModel parsers) "Parse") ∧
      (exact (ofModel parsers) "Parse").map (fun h => (h.qualifiedName, h.primary)) =
        [("PARSE", true), ("A\\Parse", false), ("B\\parse", false)] ∧
      (ofModel parsers).keys = ["a\\parse", "b\\parse", "parse", "parser"] := by
  have keyed : parsers.Keyed := keyed_declaring _
  refine ⟨keyed, (answers_exact keyed "Parse").1, ?_, by decide +kernel⟩
  unfold exact
  rw [getD_get?_ofModel keyed]
  decide +kernel

/-! ## §4. The first hit of every declaration -/

theorem firstHits_sublist (seen : List String) (hits : List Hit) :
    (firstHits seen hits).Sublist hits := by
  fun_induction firstHits seen hits with
  | case1 => exact .slnil
  | case2 seen h rest _ ih => exact ih.cons h
  | case3 seen h rest _ ih => exact ih.cons_cons h

/-- The names that are kept are the new ones. -/
theorem mem_names_firstHits_iff (seen : List String) (hits : List Hit) {n : String} :
    n ∈ (firstHits seen hits).map (·.qualifiedName) ↔
      n ∉ seen ∧ n ∈ hits.map (·.qualifiedName) := by
  fun_induction firstHits seen hits with
  | case1 => simp
  | case2 seen h rest hseen ih =>
    have hmem : h.qualifiedName ∈ seen := List.contains_iff_mem.mp hseen
    rw [ih, List.map_cons, List.mem_cons]
    constructor
    · rintro ⟨hnew, hn⟩
      exact ⟨hnew, .inr hn⟩
    · rintro ⟨hnew, rfl | hn⟩
      · exact absurd hmem hnew
      · exact ⟨hnew, hn⟩
  | case3 seen h rest hseen ih =>
    have hnew : h.qualifiedName ∉ seen := fun hmem => hseen (List.contains_iff_mem.mpr hmem)
    rw [List.map_cons, List.mem_cons, ih, List.map_cons, List.mem_cons, List.mem_cons]
    by_cases hn : n = h.qualifiedName
    · simp [hn, hnew]
    · simp [hn]

theorem nodup_names_firstHits (seen : List String) (hits : List Hit) :
    ((firstHits seen hits).map (·.qualifiedName)).Nodup := by
  fun_induction firstHits seen hits with
  | case1 => exact List.nodup_nil
  | case2 _ _ _ _ ih => exact ih
  | case3 seen h rest _ ih =>
    refine List.nodup_cons.mpr ⟨?_, ih⟩
    intro hmem
    exact ((mem_names_firstHits_iff _ _).mp hmem).1 List.mem_cons_self

/-- **What is kept of a declaration stands in front of its other hits.** -/
theorem first_of_mem_firstHits {R : Hit → Hit → Prop} {seen : List String} {hits : List Hit}
    (increasing : hits.Pairwise R) {h g : Hit} (hh : h ∈ firstHits seen hits) (hg : g ∈ hits)
    (same : g.qualifiedName = h.qualifiedName) : g = h ∨ R h g := by
  fun_induction firstHits seen hits with
  | case1 => exact absurd hg (by simp)
  | case2 seen first rest hseen ih =>
    have hnew := ((mem_names_firstHits_iff _ _).mp (List.mem_map_of_mem hh)).1
    rcases List.mem_cons.mp hg with rfl | hg
    · -- its name has been seen, and that of `h` has not
      rw [← same] at hnew
      exact absurd (List.contains_iff_mem.mp hseen) hnew
    · exact ih increasing.tail hh hg
  | case3 seen first rest hseen ih =>
    obtain ⟨hfirst, hrest⟩ := List.pairwise_cons.mp increasing
    rcases List.mem_cons.mp hh with rfl | hh
    · rcases List.mem_cons.mp hg with rfl | hg
      · exact .inl rfl
      · exact .inr (hfirst g hg)
    · have hnew := ((mem_names_firstHits_iff _ _).mp (List.mem_map_of_mem hh)).1
      rcases List.mem_cons.mp hg with rfl | hg
      · rw [← same] at hnew
        exact absurd List.mem_cons_self hnew
      · exact ih hrest hh hg

/-! ## §5. Searching by opening -/

/-- A key reads like a query at its start. -/
def Opens (query key : String) : Prop := ∃ rest, key = Text.lower query ++ rest

/-- A declaration is filed under a key that a query opens, and under no smaller one of that kind. -/
structure Least (query : String) (d : Declaration) (key : String) (primary : Bool) : Prop where
  filed : FiledUnder d key primary
  opens : Opens query key
  least : ∀ key' primary', FiledUnder d key' primary' → Opens query key' →
    ¬ Text.bytes key' < Text.bytes key

/-- Hits are ordered by the bytes of their keys, then primary ones come first, then by name. -/
def Hit.Before (a b : Hit) : Prop :=
  Text.bytes a.key < Text.bytes b.key ∨ a.key = b.key ∧
    ((a.primary = true ∧ b.primary = false) ∨
      a.primary = b.primary ∧ Text.bytes a.qualifiedName < Text.bytes b.qualifiedName)

/-- The answer to an opening: every declaration one of whose keys it opens, once, as it is stored
under the smallest such key, in the order of these hits. -/
structure Listed (m : Model) (query : String) (hits : List Hit) : Prop where
  once : (hits.map (·.qualifiedName)).Nodup
  complete : ∀ n, n ∈ hits.map (·.qualifiedName) ↔ ∃ d, m.get? n = some d ∧
    (Opens query (Text.lower n) ∨ Opens query (Text.lower (Name.unqualified n)))
  ordered : hits.Pairwise Hit.Before
  least : ∀ h ∈ hits, ∃ d, m.get? h.qualifiedName = some d ∧ h = hitOf h.primary d ∧
    Least query d h.key h.primary
  stored : ∀ h ∈ hits, ∃ stored, (ofModel m).get? h.key = some stored ∧ h ∈ stored

/-- The hits of every key that a query opens, in key order. -/
def opened (m : Model) (query : String) : List Hit :=
  ((ofModel m).toList.filter fun e => Text.startsWith (Text.lower query) e.1).flatMap (·.2)

/-- **The walk from key to key skips no key that the query opens.** -/
theorem startingWith_eq (m : Model) (query : String) :
    startingWith (ofModel m) query = firstHits [] (opened m query) := by
  have hkeys : (ofModel m).toList.Pairwise fun a b => a.1 < b.1 :=
    List.pairwise_map.mp (ofModel m).increasing_keys
  unfold startingWith opened
  dsimp only
  congr 2
  apply range_eq_filter
  · intro e hbelow
    cases hopens : Text.startsWith (Text.lower query) e.1 with
    | false => rfl
    | true => exact absurd (of_decide_eq_true hbelow) (Text.not_lt_of_startsWith hopens)
  · refine hkeys.imp ?_
    intro a b hab hb
    exact decide_eq_true (Key.trans hab (of_decide_eq_true hb))
  · refine hkeys.imp ?_
    intro a b hab ha hb
    exact Text.startsWith_of_between hb (of_decide_eq_false ha) hab

theorem mem_opened_iff (keyed : m.Keyed) {query : String} {h : Hit} : h ∈ opened m query ↔
    ∃ d, m.get? d.qualifiedName = some d ∧ FiledUnder d h.key h.primary ∧ h = hitOf h.primary d ∧
      Opens query h.key := by
  unfold opened
  rw [List.mem_flatMap]
  constructor
  · rintro ⟨⟨key, hits⟩, he, hh⟩
    obtain ⟨hentry, hopens⟩ := List.mem_filter.mp he
    obtain ⟨-, rfl⟩ := (get?_ofModel_eq_some_iff keyed).mp (Table.mem_toList_iff.mp hentry)
    obtain ⟨d, hstored, hfiled, hhit⟩ := (mem_bucket_iff keyed).mp hh
    rw [key_of_mem_bucket keyed hh]
    exact ⟨d, hstored, hfiled, hhit, Text.startsWith_iff.mp hopens⟩
  · rintro ⟨d, hstored, hfiled, hhit, hopens⟩
    have hmem : h ∈ bucket m h.key := (mem_bucket_iff keyed).mpr ⟨d, hstored, hfiled, hhit⟩
    refine ⟨(h.key, bucket m h.key), List.mem_filter.mpr ⟨?_, Text.startsWith_iff.mpr hopens⟩, hmem⟩
    exact Table.mem_toList_iff.mpr (get?_ofModel_of_mem_bucket keyed hmem)

/-- Every key of a declaration that a query opens has a hit for it. -/
theorem hitOf_mem_opened (keyed : m.Keyed) {query key : String} {d : Declaration} {primary : Bool}
    (hstored : m.get? d.qualifiedName = some d) (hfiled : FiledUnder d key primary)
    (hopens : Opens query key) : hitOf primary d ∈ opened m query := by
  obtain rfl : (hitOf primary d).key = key := hfiled.key_hitOf
  exact (mem_opened_iff keyed).mpr ⟨d, hstored, hfiled, rfl, hopens⟩

/-- The hits that the walk passes are strictly increasing. -/
theorem ordered_opened (keyed : m.Keyed) (query : String) :
    (opened m query).Pairwise Hit.Before := by
  have hkeys : (ofModel m).toList.Pairwise fun a b => a.1 < b.1 :=
    List.pairwise_map.mp (ofModel m).increasing_keys
  have hentry : ∀ e ∈ (ofModel m).toList, e.2 = bucket m e.1 := by
    rintro ⟨key, hits⟩ he
    exact ((get?_ofModel_eq_some_iff keyed).mp (Table.mem_toList_iff.mp he)).2.symm
  unfold opened
  refine List.pairwise_flatMap.mpr ⟨?_, ?_⟩
  · -- under one key: primary hits first, then by name
    intro e he
    rw [hentry e (List.mem_of_mem_filter he)]
    refine List.Pairwise.imp_of_mem ?_ (increasing_bucket keyed e.1)
    intro a b ha hb hlt
    have hsame : a.key = b.key :=
      (key_of_mem_bucket keyed ha).trans (key_of_mem_bucket keyed hb).symm
    rcases Hit.order_eq_lt_iff.mp hlt with hfirst | ⟨hprimary, hname⟩
    · exact .inr ⟨hsame, .inl hfirst⟩
    · exact .inr ⟨hsame, .inr ⟨hprimary, Text.lt_iff_bytes_lt.mp hname⟩⟩
  · -- from key to key
    refine List.Pairwise.imp_of_mem ?_ (hkeys.filter _)
    intro e e' he he' hlt a ha b hb
    rw [hentry e (List.mem_of_mem_filter he)] at ha
    rw [hentry e' (List.mem_of_mem_filter he')] at hb
    rw [← key_of_mem_bucket keyed ha, ← key_of_mem_bucket keyed hb] at hlt
    exact .inl (Text.lt_iff_bytes_lt.mp hlt)

theorem mem_names_opened_iff (keyed : m.Keyed) {query n : String} :
    n ∈ (opened m query).map (·.qualifiedName) ↔ ∃ d, m.get? n = some d ∧
      (Opens query (Text.lower n) ∨ Opens query (Text.lower (Name.unqualified n))) := by
  rw [List.mem_map]
  constructor
  · rintro ⟨h, hh, rfl⟩
    obtain ⟨d, hstored, hfiled, hhit, hopens⟩ := (mem_opened_iff keyed).mp hh
    have hname : h.qualifiedName = d.qualifiedName := congrArg Hit.qualifiedName hhit
    rw [hname]
    refine ⟨d, hstored, ?_⟩
    rcases exists_filedUnder_iff.mp ⟨_, hfiled⟩ with hkey | hkey
    · rw [hkey] at hopens
      exact .inl hopens
    · rw [hkey] at hopens
      exact .inr hopens
  · rintro ⟨d, hstored, hopens⟩
    obtain rfl : d.qualifiedName = n := keyed hstored
    rcases hopens with hfull | hshort
    · exact ⟨hitOf true d, hitOf_mem_opened keyed hstored .full hfull, rfl⟩
    · obtain ⟨primary, hfiled⟩ := exists_filedUnder_iff.mpr (.inr rfl)
      exact ⟨hitOf primary d, hitOf_mem_opened keyed hstored hfiled hshort, rfl⟩

theorem Hit.Before.not_bytes_lt {a b : Hit} (h : a.Before b) :
    ¬ Text.bytes b.key < Text.bytes a.key := by
  intro hlt
  rcases h with hkey | ⟨hkey, _⟩
  · exact List.lt_irrefl _ (List.lt_trans hkey hlt)
  · rw [hkey] at hlt
    exact List.lt_irrefl _ hlt

/-- The hit that the walk keeps of a declaration is the one under its smallest key. -/
theorem least_of_mem_firstHits (keyed : m.Keyed) {query : String} {h : Hit}
    (hh : h ∈ firstHits [] (opened m query)) : ∃ d, m.get? h.qualifiedName = some d ∧
      h = hitOf h.primary d ∧ Least query d h.key h.primary := by
  obtain ⟨d, hstored, hfiled, hhit, hopens⟩ :=
    (mem_opened_iff keyed).mp ((firstHits_sublist _ _).subset hh)
  have hname : h.qualifiedName = d.qualifiedName := congrArg Hit.qualifiedName hhit
  refine ⟨d, hname ▸ hstored, hhit, hfiled, hopens, ?_⟩
  intro key' primary' hfiled' hopens'
  have hother := hitOf_mem_opened keyed hstored hfiled' hopens'
  rw [← hfiled'.key_hitOf]
  rcases first_of_mem_firstHits (ordered_opened keyed query) hh hother hname.symm with heq | hbefore
  · rw [heq]
    exact List.lt_irrefl _
  · exact hbefore.not_bytes_lt

/-- **Searching by opening is a scan of all declarations**, sorted by their smallest keys. -/
theorem listed_startingWith (keyed : m.Keyed) (query : String) :
    Listed m query (startingWith (ofModel m) query) := by
  rw [startingWith_eq]
  have hordered := (ordered_opened keyed query).sublist (firstHits_sublist [] _)
  refine ⟨nodup_names_firstHits _ _, ?_, hordered, fun h hh => least_of_mem_firstHits keyed hh, ?_⟩
  · intro n
    rw [mem_names_firstHits_iff, ← mem_names_opened_iff keyed]
    simp
  · intro h hh
    obtain ⟨d, hstored, hfiled, hhit, -⟩ :=
      (mem_opened_iff keyed).mp ((firstHits_sublist _ _).subset hh)
    have hmem : h ∈ bucket m h.key := (mem_bucket_iff keyed).mpr ⟨d, hstored, hfiled, hhit⟩
    exact ⟨_, get?_ofModel_of_mem_bucket keyed hmem, hmem⟩

/-- A name with two keys that start alike, and one that has the same letters further inside. -/
def apps : Model := declaring ["Apple", "Apps\\App", "Snapp"]

/-- A short key may come before other declarations, and the qualified name of the same declaration
behind them. -/
theorem listed_startingWith_app :
    apps.Keyed ∧ Listed apps "APP" (startingWith (ofModel apps) "APP") ∧
      (startingWith (ofModel apps) "APP").map (fun h => (h.qualifiedName, h.primary)) =
        [("Apps\\App", false), ("Apple", true)] := by
  have keyed : apps.Keyed := keyed_declaring _
  refine ⟨keyed, listed_startingWith keyed "APP", ?_⟩
  decide +kernel

end CodeAtlas.Search
