/-
  CodeAtlas.Proofs.Overlay.Coverage — what a coverage sheet counts.

  A record belongs to one place: a path that names no parsed file, a file that has no such line, or
  a line of a file.  A sheet holds the number of records at each place of the first two kinds, and
  the sum of the counts at each line.  Whether a sum leaves the range of counters depends on the sum
  alone, since counts are never negative and a sum of some of them is no larger than that of all.

  Main results:
    * `ofRecords_cases` — a sheet is made, and then it is the tally of the records, or the counts of
      some line are too many.
    * `ofRecords_eq_of_perm` — the order of the records does not matter, for the sheet or the fault.
-/
import CodeAtlas.Overlay.Coverage
import CodeAtlas.Proofs.Loop
import CodeAtlas.Proofs.Table

namespace CodeAtlas.CoverageSheet

variable {m : Model} {l : Locator} {rs : List CoverageRecord} {s : CoverageSheet}

/-! ## §1. Places -/

/-- Where a record belongs. -/
inductive Place where
  | unknown (path : String)
  | beyond (file : String)
  | line (file : String) (n : Nat)
  deriving DecidableEq

/-- The place of a record. -/
def placeOf (m : Model) (l : Locator) (r : CoverageRecord) : Place :=
  match l.locate r.path with
  | none => .unknown r.path
  | some file => if hasLine m file r.line then .line file r.line else .beyond file

/-- The records at a place. -/
def recordsAt (m : Model) (l : Locator) (rs : List CoverageRecord) (p : Place) :
    List CoverageRecord :=
  rs.filter fun r => placeOf m l r = p

/-- The sum of the counts of some records. -/
def sumOf : List CoverageRecord → Nat
  | [] => 0
  | r :: rest => r.count + sumOf rest

theorem recordsAt_concat (m : Model) (l : Locator) (rs : List CoverageRecord) (r : CoverageRecord)
    (p : Place) : recordsAt m l (rs ++ [r]) p =
      if placeOf m l r = p then recordsAt m l rs p ++ [r] else recordsAt m l rs p := by
  unfold recordsAt
  rw [List.filter_append, List.filter_singleton]
  by_cases h : placeOf m l r = p
  · simp [h]
  · simp [h]

theorem recordsAt_perm {rs' : List CoverageRecord} (h : rs.Perm rs') (p : Place) :
    (recordsAt m l rs p).Perm (recordsAt m l rs' p) := h.filter _

theorem sumOf_nil : sumOf [] = 0 := rfl

theorem sumOf_append (rs rs' : List CoverageRecord) : sumOf (rs ++ rs') = sumOf rs + sumOf rs' := by
  induction rs with
  | nil => rw [List.nil_append, sumOf, Nat.zero_add]
  | cons r rest ih => rw [List.cons_append, sumOf, sumOf, ih, Nat.add_assoc]

theorem sumOf_concat (rs : List CoverageRecord) (r : CoverageRecord) :
    sumOf (rs ++ [r]) = sumOf rs + r.count := sumOf_append rs [r]

theorem sumOf_perm {rs rs' : List CoverageRecord} (h : rs.Perm rs') : sumOf rs = sumOf rs' := by
  induction h with
  | nil => rfl
  | cons r _ ih => rw [sumOf, sumOf, ih]
  | swap r r' rest => exact Nat.add_left_comm ..
  | trans _ _ ih ih' => rw [ih, ih']

/-- The counts of the first records come to no more than those of all. -/
theorem sumOf_recordsAt_append_le (done rest : List CoverageRecord) (p : Place) :
    sumOf (recordsAt m l done p) ≤ sumOf (recordsAt m l (done ++ rest) p) := by
  unfold recordsAt
  rw [List.filter_append, sumOf_append]
  exact Nat.le_add_right _ _

/-! ## §2. One record -/

/-- The sum that a sheet holds for a line of a file. -/
def count? (s : CoverageSheet) (file : String) (n : Nat) : Option Nat :=
  (s.lines.get? file).bind (·.get? n)

/-- A sheet with another sum for a line of a file. -/
def setCount (s : CoverageSheet) (file : String) (n sum : Nat) : CoverageSheet :=
  { s with lines := s.lines.insert file (((s.lines.get? file).getD ∅).insert n sum) }

theorem get?_getD_lines (s : CoverageSheet) (file : String) (n : Nat) :
    ((s.lines.get? file).getD ∅).get? n = s.count? file n := by
  unfold count?
  cases s.lines.get? file <;> rfl

theorem count?_setCount (s : CoverageSheet) (file f : String) (n k sum : Nat) :
    (s.setCount file n sum).count? f k = if f = file ∧ k = n then some sum else s.count? f k := by
  by_cases hf : f = file
  · subst hf
    have hlines : (s.setCount f n sum).lines.get? f =
        some (((s.lines.get? f).getD ∅).insert n sum) := by simp [setCount]
    unfold count?
    rw [hlines, Option.bind_some, Table.get?_insert, get?_getD_lines]
    simp [count?]
  · unfold count? setCount
    simp [hf]

/-- A record is sorted out by its place. -/
theorem add_eq (m : Model) (l : Locator) (s : CoverageSheet) (r : CoverageRecord) :
    add m l s r =
      match placeOf m l r with
      | .unknown path => .ok { s with unknown := countUnder s.unknown path }
      | .beyond file => .ok { s with beyond := countUnder s.beyond file }
      | .line file n => (addCount ((s.count? file n).getD 0) r.count).map (s.setCount file n) := by
  unfold add placeOf
  cases l.locate r.path with
  | none => rfl
  | some file =>
    by_cases h : hasLine m file r.line = true
    · simp only [h, if_true]
      unfold addLine
      rw [get?_getD_lines]
      cases addCount ((s.count? file r.line).getD 0) r.count <;> rfl
    · simp [h]

/-! ## §3. Tallies -/

/-- A sheet is the tally of some records: it holds what they come to at each place, and nothing for
a place without records. -/
structure Tallied (m : Model) (l : Locator) (rs : List CoverageRecord) (s : CoverageSheet) :
    Prop where
  unknown : ∀ path, s.unknown.get? path = groupValue List.length (recordsAt m l rs (.unknown path))
  beyond : ∀ file, s.beyond.get? file = groupValue List.length (recordsAt m l rs (.beyond file))
  count : ∀ file n, s.count? file n = groupValue sumOf (recordsAt m l rs (.line file n))
  present : ∀ file, s.lines.get? file = none ↔ ∀ n, recordsAt m l rs (.line file n) = []
  bounded : ∀ file n, sumOf (recordsAt m l rs (.line file n)) < counterLimit

/-- One record more under a key. -/
theorem get?_countUnder {t : Table String Nat} {key : String} {rs : List CoverageRecord}
    (h : t.get? key = groupValue List.length rs) (r : CoverageRecord) (k : String) :
    (countUnder t key).get? k =
      if k = key then groupValue List.length (rs ++ [r]) else t.get? k := by
  unfold countUnder
  rw [Table.get?_upsert, h, getD_groupValue List.length_nil, groupValue_concat, List.length_append]
  rfl

namespace Tallied

theorem empty (m : Model) (l : Locator) : Tallied m l [] {} where
  unknown _ := rfl
  beyond _ := rfl
  count _ _ := rfl
  present _ := ⟨fun _ _ => rfl, fun _ => rfl⟩
  bounded _ _ := by
    show 0 < counterLimit
    decide

variable {r : CoverageRecord} (h : Tallied m l rs s)
include h

theorem unknown_concat {path : String} (place : placeOf m l r = .unknown path) :
    Tallied m l (rs ++ [r]) { s with unknown := countUnder s.unknown path } where
  unknown k := by
    rw [recordsAt_concat, place, get?_countUnder (h.unknown path) r k]
    by_cases hk : k = path
    · rw [if_pos hk, hk, if_pos rfl]
    · rw [if_neg hk, if_neg (fun heq => hk (Place.unknown.inj heq).symm)]
      exact h.unknown k
  -- the other places have the records they had
  beyond := by simpa [recordsAt_concat, place] using h.beyond
  count := by simpa [recordsAt_concat, place, count?] using h.count
  present := by simpa [recordsAt_concat, place] using h.present
  bounded := by simpa [recordsAt_concat, place] using h.bounded

theorem beyond_concat {file : String} (place : placeOf m l r = .beyond file) :
    Tallied m l (rs ++ [r]) { s with beyond := countUnder s.beyond file } where
  beyond k := by
    rw [recordsAt_concat, place, get?_countUnder (h.beyond file) r k]
    by_cases hk : k = file
    · rw [if_pos hk, hk, if_pos rfl]
    · rw [if_neg hk, if_neg (fun heq => hk (Place.beyond.inj heq).symm)]
      exact h.beyond k
  unknown := by simpa [recordsAt_concat, place] using h.unknown
  count := by simpa [recordsAt_concat, place, count?] using h.count
  present := by simpa [recordsAt_concat, place] using h.present
  bounded := by simpa [recordsAt_concat, place] using h.bounded

theorem line_concat {file : String} {n : Nat} (place : placeOf m l r = .line file n)
    (small : sumOf (recordsAt m l rs (.line file n)) + r.count < counterLimit) :
    Tallied m l (rs ++ [r])
      (s.setCount file n (sumOf (recordsAt m l rs (.line file n)) + r.count)) where
  unknown := by simpa [recordsAt_concat, place, setCount] using h.unknown
  beyond := by simpa [recordsAt_concat, place, setCount] using h.beyond
  count f k := by
    rw [count?_setCount, recordsAt_concat, place]
    by_cases hat : f = file ∧ k = n
    · obtain ⟨rfl, rfl⟩ := hat
      rw [if_pos ⟨rfl, rfl⟩, if_pos rfl, groupValue_concat, sumOf_concat]
    · have hplace : Place.line file n ≠ .line f k := by
        intro heq
        exact hat ⟨(Place.line.inj heq).1.symm, (Place.line.inj heq).2.symm⟩
      rw [if_neg hat, if_neg hplace]
      exact h.count f k
  present f := by
    unfold setCount
    rw [Table.get?_insert]
    by_cases hf : f = file
    · subst hf
      rw [if_pos rfl]
      refine ⟨fun hsome => absurd hsome (by simp), fun hnil => ?_⟩
      have hn := hnil n
      rw [recordsAt_concat, if_pos place] at hn
      exact absurd hn (by simp)
    · rw [if_neg hf, h.present]
      refine forall_congr' fun k => ?_
      rw [recordsAt_concat, place, if_neg (fun heq => hf (Place.line.inj heq).1.symm)]
  bounded f k := by
    rw [recordsAt_concat, place]
    split
    next heq => rw [← heq, sumOf_concat]; exact small
    next => exact h.bounded f k

end Tallied

/-- **One record**: the tally goes on, or the record takes the sum of its line out of range. -/
theorem add_cases (h : Tallied m l rs s) (r : CoverageRecord) :
    (∃ s', add m l s r = .ok s' ∧ Tallied m l (rs ++ [r]) s') ∨
      add m l s r = .error .sumOverflow ∧
        ∃ file n, counterLimit ≤ sumOf (recordsAt m l (rs ++ [r]) (.line file n)) := by
  cases place : placeOf m l r with
  | unknown path => exact .inl ⟨_, by rw [add_eq, place], h.unknown_concat place⟩
  | beyond file => exact .inl ⟨_, by rw [add_eq, place], h.beyond_concat place⟩
  | line file n =>
    have hadd : add m l s r = (addCount (sumOf (recordsAt m l rs (.line file n))) r.count).map
        (s.setCount file n) := by
      rw [add_eq, place]
      show (addCount ((s.count? file n).getD 0) r.count).map _ = _
      rw [h.count, getD_groupValue sumOf_nil]
    rw [hadd]
    unfold addCount
    by_cases small : sumOf (recordsAt m l rs (.line file n)) + r.count < counterLimit
    · rw [if_pos small]
      exact .inl ⟨_, rfl, h.line_concat place small⟩
    · rw [if_neg small]
      refine .inr ⟨rfl, file, n, ?_⟩
      rw [recordsAt_concat, if_pos place, sumOf_concat]
      omega

/-- **All records**: they are tallied, or the counts of some line come to too much. -/
theorem ofRecords_cases (m : Model) (l : Locator) (rs : List CoverageRecord) :
    (∃ s, ofRecords m l rs = .ok s ∧ Tallied m l rs s) ∨
      ofRecords m l rs = .error .sumOverflow ∧
        ∃ file n, counterLimit ≤ sumOf (recordsAt m l rs (.line file n)) := by
  have run : (∃ s, ofRecords m l rs = .ok s ∧ Tallied m l rs s) ∨
      ∃ e, ofRecords m l rs = .error e ∧
        (e = .sumOverflow ∧ ∃ file n, counterLimit ≤ sumOf (recordsAt m l rs (.line file n))) := by
    apply foldlM_invariant (Tallied.empty m l)
    intro done r rest s hsplit h
    rcases add_cases h r with hok | ⟨herr, file, n, hlarge⟩
    · exact .inl hok
    · refine .inr ⟨_, herr, rfl, file, n, Nat.le_trans hlarge ?_⟩
      -- the records to come can only add to the sum
      have hlist : rs = done ++ [r] ++ rest := by rw [hsplit, List.append_assoc]; rfl
      rw [hlist]
      exact sumOf_recordsAt_append_le _ rest _
  rcases run with hok | ⟨e, herr, he, hlarge⟩
  · exact .inl hok
  · exact .inr ⟨he ▸ herr, hlarge⟩

/-! ## §4. The order of records -/

/-- Records have one tally, in whatever order they come. -/
theorem Tallied.eq_of_perm {rs' : List CoverageRecord} {s' : CoverageSheet} (h : Tallied m l rs s)
    (h' : Tallied m l rs' s') (perm : rs.Perm rs') : s = s' := by
  have hunknown : s.unknown = s'.unknown := by
    apply Table.ext_get?
    intro path
    rw [h.unknown, h'.unknown]
    exact groupValue_perm List.Perm.length_eq (recordsAt_perm perm _)
  have hbeyond : s.beyond = s'.beyond := by
    apply Table.ext_get?
    intro file
    rw [h.beyond, h'.beyond]
    exact groupValue_perm List.Perm.length_eq (recordsAt_perm perm _)
  have hcount : ∀ file n, s.count? file n = s'.count? file n := by
    intro file n
    rw [h.count, h'.count]
    exact groupValue_perm sumOf_perm (recordsAt_perm perm _)
  have hlines : s.lines = s'.lines := by
    apply Table.ext_get?
    intro file
    have hnone : s.lines.get? file = none ↔ s'.lines.get? file = none := by
      rw [h.present, h'.present]
      refine forall_congr' fun n => ?_
      rw [← List.length_eq_zero_iff, ← List.length_eq_zero_iff, (recordsAt_perm perm _).length_eq]
    have hline := hcount file
    unfold count? at hline
    cases hs : s.lines.get? file with
    | none => exact (hnone.mp hs).symm
    | some t =>
      cases hs' : s'.lines.get? file with
      | none => rw [hnone.mpr hs'] at hs; exact absurd hs (by simp)
      | some t' =>
        rw [hs, hs'] at hline
        exact congrArg some (Table.ext_get? hline)
  cases s
  cases s'
  simp_all

/-- **The order of coverage records does not matter**: they give one sheet, or a fault in any
order. -/
theorem ofRecords_eq_of_perm (m : Model) (l : Locator) {rs rs' : List CoverageRecord}
    (perm : rs.Perm rs') : ofRecords m l rs = ofRecords m l rs' := by
  have hsum : ∀ p, sumOf (recordsAt m l rs p) = sumOf (recordsAt m l rs' p) :=
    fun p => sumOf_perm (recordsAt_perm perm p)
  rcases ofRecords_cases m l rs with ⟨s, hok, h⟩ | ⟨herr, file, n, hlarge⟩
  · rcases ofRecords_cases m l rs' with ⟨s', hok', h'⟩ | ⟨_, file, n, hlarge⟩
    · rw [hok, hok', h.eq_of_perm h' perm]
    · have hbound := h.bounded file n
      rw [hsum] at hbound
      omega
  · rcases ofRecords_cases m l rs' with ⟨s', _, h'⟩ | ⟨herr', _⟩
    · have hbound := h'.bounded file n
      rw [← hsum] at hbound
      omega
    · rw [herr, herr']

end CodeAtlas.CoverageSheet
