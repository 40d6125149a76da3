/-
  CodeAtlas.Proofs.Pattern.Matching — sets of places find exactly the matches of a pattern.

  What a pattern matches is said without places: a part of a text fits a pattern, given the texts in
  front of it and behind it, and each constructor of patterns has its rule.  Matching goes from sets
  of places to sets of places instead, all starts at once, and stops repeating when no place is new.
  Both agree on every pattern and every text.

  Main results:
    * `Pattern.Fits` — what a pattern matches, by one rule for each constructor.
    * `Places.has_after`, `Places.has_within` — the two loops over sets of places are the steps of a
      relation, exactly so many or up to so many.
    * `Pattern.realizes_plan` — a plan goes from place to place as its pattern matches.
    * `Pattern.isMatch_iff` — a text has a match iff SOME part of it fits the pattern.
-/
import CodeAtlas.Pattern.Matching

namespace CodeAtlas

/-! ## §1. Sets of places -/

namespace Places

/-- A place is in a set. -/
def Has (s : Places) (i : Nat) : Prop := Nat.testBit s i = true

variable {a b : Places} {i j : Nat}

theorem has_or : Has (a ||| b) i ↔ Has a i ∨ Has b i := by
  unfold Has
  rw [Nat.testBit_or, Bool.or_eq_true]

theorem has_and : Has (a &&& b) i ↔ Has a i ∧ Has b i := by
  unfold Has
  rw [Nat.testBit_and, Bool.and_eq_true]

theorem has_shiftLeft {width : Nat} : Has (a <<< width) j ↔ ∃ i, Has a i ∧ i + width = j := by
  unfold Has
  rw [Nat.testBit_shiftLeft, Bool.and_eq_true, decide_eq_true_eq]
  constructor
  · intro h
    exact ⟨j - width, h.2, by omega⟩
  · rintro ⟨i, hi, rfl⟩
    exact ⟨by omega, by rwa [Nat.add_sub_cancel]⟩

theorem has_except : Has (except a b) i ↔ Has a i ∧ ¬ Has b i := by
  unfold Has except
  rw [Nat.testBit_xor, Nat.testBit_or]
  cases Nat.testBit a i <;> cases Nat.testBit b i <;> simp

theorem not_has_zero : ¬ Has 0 i := by
  unfold Has
  rw [Nat.zero_testBit]
  simp

theorem ne_zero_iff : a ≠ 0 ↔ ∃ i, Has a i := by
  constructor
  · exact Nat.exists_testBit_of_ne_zero
  · rintro ⟨i, hi⟩ rfl
    exact not_has_zero hi

theorem has_passing {test : Cursor → Bool} {places : List Cursor} :
    Has (passing test places) i ↔ ∃ c, places[i]? = some c ∧ test c = true := by
  induction places generalizing i with
  | nil => simp [passing, not_has_zero]
  | cons c places ih =>
    rw [passing, has_or, has_shiftLeft]
    cases i with
    | zero =>
      -- the first place is told by the lowest bit, which the shift leaves free
      by_cases hc : test c = true <;> simp [Has, hc]
    | succ i =>
      have hfirst : ¬ Has (if test c then 1 else 0) (i + 1) := by
        by_cases hc : test c = true <;> simp [Has, hc, Nat.testBit_add_one]
      have hrest : (∃ k, Has (passing test places) k ∧ k + 1 = i + 1) ↔
          Has (passing test places) i := by
        constructor
        · rintro ⟨k, hk, hki⟩
          rwa [Nat.add_right_cancel hki] at hk
        · intro h
          exact ⟨i, h, rfl⟩
      rw [hrest, ih]
      simp [hfirst]

/-- No place of a set lies behind the last one. -/
def Upto (last : Nat) (s : Places) : Prop := ∀ i, Has s i → i ≤ last

/-- A function from sets to sets goes from each place to those that a relation leads to. -/
def Realizes (last : Nat) (step : Places → Places) (R : Nat → Nat → Prop) : Prop :=
  ∀ s, Upto last s → ∀ j, Has (step s) j ↔ ∃ i, Has s i ∧ R i j

/-! ## §2. Repeated steps -/

/-- A place is reached from another in so many steps. -/
inductive Trip (R : Nat → Nat → Prop) : Nat → Nat → Nat → Prop
  | stay (i : Nat) : Trip R 0 i i
  | step {n i k j : Nat} (first : R i k) (rest : Trip R n k j) : Trip R (n + 1) i j

/-- Steps go forwards and not past the last place. -/
def Forward (last : Nat) (R : Nat → Nat → Prop) : Prop := ∀ i j, R i j → i ≤ j ∧ j ≤ last

variable {last n : Nat} {R : Nat → Nat → Prop} {step : Places → Places} {s latest found : Places}

theorem trip_zero_iff : Trip R 0 i j ↔ i = j := by
  constructor
  · intro h
    cases h
    rfl
  · rintro rfl
    exact .stay i

theorem trip_succ_iff : Trip R (n + 1) i j ↔ ∃ k, R i k ∧ Trip R n k j := by
  constructor
  · intro h
    cases h with
    | step first rest => exact ⟨_, first, rest⟩
  · rintro ⟨k, first, rest⟩
    exact .step first rest

theorem trip_add_iff {m : Nat} : Trip R (n + m) i j ↔ ∃ k, Trip R n i k ∧ Trip R m k j := by
  induction n generalizing i with
  | zero => simp [trip_zero_iff]
  | succ n ih =>
    have hassoc : n + 1 + m = n + m + 1 := by omega
    rw [hassoc, trip_succ_iff]
    constructor
    · rintro ⟨k, first, rest⟩
      obtain ⟨l, hl, hrest⟩ := ih.mp rest
      exact ⟨l, .step first hl, hrest⟩
    · rintro ⟨l, hl, hrest⟩
      obtain ⟨k, first, hk⟩ := trip_succ_iff.mp hl
      exact ⟨k, first, ih.mpr ⟨l, hk, hrest⟩⟩

/-- What every step keeps is kept by any number of steps. -/
theorem Trip.keeps {P : Nat → Prop} (trip : Trip R n i j) (hstep : ∀ i j, P i → R i j → P j)
    (hi : P i) : P j := by
  induction trip with
  | stay i => exact hi
  | step first _ ih => exact ih (hstep _ _ hi first)

theorem Forward.trip (h : Forward last R) (trip : Trip R n i j) (hi : i ≤ last) :
    i ≤ j ∧ j ≤ last := by
  induction trip with
  | stay i => exact ⟨Nat.le_refl i, hi⟩
  | step first rest ih =>
    have hfirst := h _ _ first
    have hrest := ih hfirst.2
    exact ⟨Nat.le_trans hfirst.1 hrest.1, hrest.2⟩

/-- Steps that stay where they are can be left out, and the others are no more than there are
places to pass. -/
theorem Forward.shorten (h : Forward last R) (trip : Trip R n i j) (hi : i ≤ last) :
    ∃ k, k ≤ j - i ∧ Trip R k i j := by
  induction trip with
  | stay i => exact ⟨0, Nat.zero_le _, .stay i⟩
  | @step n i m j first rest ih =>
    have hfirst := h _ _ first
    have hrest := h.trip rest hfirst.2
    obtain ⟨k, hk, htrip⟩ := ih hfirst.2
    by_cases him : i = m
    · rw [him]
      exact ⟨k, hk, htrip⟩
    · exact ⟨k + 1, by omega, .step first htrip⟩

theorem Realizes.upto (real : Realizes last step R) (forward : Forward last R)
    (hs : Upto last s) : Upto last (step s) := by
  intro j hj
  obtain ⟨i, _, hij⟩ := (real s hs j).mp hj
  exact (forward i j hij).2

/-- A step of the set is the first step of a trip. -/
theorem Realizes.trip_succ (real : Realizes last step R) (hs : Upto last s) :
    (∃ k, Has (step s) k ∧ Trip R n k j) ↔ ∃ i, Has s i ∧ Trip R (n + 1) i j := by
  constructor
  · rintro ⟨k, hk, htrip⟩
    obtain ⟨i, hi, hik⟩ := (real s hs k).mp hk
    exact ⟨i, hi, .step hik htrip⟩
  · rintro ⟨i, hi, htrip⟩
    obtain ⟨k, hik, hrest⟩ := trip_succ_iff.mp htrip
    exact ⟨k, (real s hs k).mpr ⟨i, hi, hik⟩, hrest⟩

/-- A set that a step leaves as it is stays so. -/
theorem Realizes.fixed (real : Realizes last step R) (hs : Upto last s) (hfix : step s = s)
    (n : Nat) : Has s j ↔ ∃ i, Has s i ∧ Trip R n i j := by
  induction n with
  | zero => simp [trip_zero_iff]
  | succ n ih => rw [ih, ← real.trip_succ hs, hfix]

/-- **The first loop takes exactly so many steps**, although it stops early at a fixed set. -/
theorem has_after (real : Realizes last step R) (forward : Forward last R) (hs : Upto last s) :
    Has (after step n s) j ↔ ∃ i, Has s i ∧ Trip R n i j := by
  induction n generalizing s with
  | zero => simp [after, trip_zero_iff]
  | succ n ih =>
    unfold after
    by_cases hfix : step s = s
    · simp only [hfix, if_true]
      exact real.fixed hs hfix (n + 1)
    · simp only [hfix, if_false]
      rw [ih (real.upto forward hs), real.trip_succ hs]

/-- **The second loop takes up to so many steps.**  It goes on from the latest places only: whatever
a step leads to from an older place has been found before. -/
theorem has_within (real : Realizes last step R) (forward : Forward last R)
    (hfound : Upto last found) (hlatest : ∀ i, Has latest i → Has found i)
    (older : ∀ i j, Has found i → ¬ Has latest i → R i j → Has found j) :
    Has (within step n latest found) j ↔ ∃ i k, Has found i ∧ k ≤ n ∧ Trip R k i j := by
  induction n generalizing latest found with
  | zero =>
    constructor
    · intro h
      exact ⟨j, 0, h, Nat.le_refl 0, .stay j⟩
    · rintro ⟨i, k, hi, hk, htrip⟩
      rw [Nat.le_zero.mp hk, trip_zero_iff] at htrip
      rwa [htrip] at hi
  | succ n ih =>
    have hupto : Upto last latest := fun i hi => hfound i (hlatest i hi)
    -- one step from a place found leads to a place found or to a new one
    have hstep : ∀ i j, Has found i → R i j → Has found j ∨ Has (except (step latest) found) j := by
      intro i j hi hij
      by_cases hold : Has found j
      · exact .inl hold
      · by_cases hnew : Has latest i
        · exact .inr (has_except.mpr ⟨(real latest hupto j).mpr ⟨i, hnew, hij⟩, hold⟩)
        · exact .inl (older i j hi hnew hij)
    have hnew : ∀ j, Has (except (step latest) found) j → ∃ i, Has found i ∧ R i j := by
      intro j hj
      obtain ⟨i, hi, hij⟩ := (real latest hupto j).mp (has_except.mp hj).1
      exact ⟨i, hlatest i hi, hij⟩
    unfold within
    generalize except (step latest) found = new at hstep hnew
    dsimp only
    by_cases hzero : new = 0
    · rw [if_pos hzero]
      constructor
      · intro h
        exact ⟨j, 0, h, Nat.zero_le _, .stay j⟩
      · rintro ⟨i, k, hi, _, htrip⟩
        apply htrip.keeps _ hi
        intro l m hl hlm
        rw [hzero] at hstep
        exact (hstep l m hl hlm).resolve_right not_has_zero
    · rw [if_neg hzero, ih]
      · constructor
        · rintro ⟨i, k, hi, hk, htrip⟩
          rcases has_or.mp hi with hi | hi
          · exact ⟨i, k, hi, by omega, htrip⟩
          · obtain ⟨l, hl, hli⟩ := hnew i hi
            exact ⟨l, k + 1, hl, by omega, .step hli htrip⟩
        · rintro ⟨i, k, hi, hk, htrip⟩
          cases htrip with
          | stay => exact ⟨_, 0, has_or.mpr (.inl hi), Nat.zero_le _, .stay _⟩
          | @step k _ m _ first rest =>
            exact ⟨m, k, has_or.mpr (hstep i m hi first), by omega, rest⟩
      · intro i hi
        rcases has_or.mp hi with hi | hi
        · exact hfound i hi
        · obtain ⟨l, _, hli⟩ := hnew i hi
          exact (forward l i hli).2
      · intro i hi
        exact has_or.mpr (.inr hi)
      · intro i j hi hold hij
        exact has_or.mpr (hstep i j ((has_or.mp hi).resolve_right hold) hij)

end Places

/-! ## §3. What a pattern matches -/

/-- What can be said of a part of a text: the text in front of it, the part, the text behind it. -/
abbrev Span : Type := List Char → List Char → List Char → Prop

namespace Span

/-- Two parts one behind the other. -/
def followedBy (F G : Span) : Span := fun front part back =>
  ∃ first second, part = first ++ second ∧ F front first (second ++ back) ∧
    G (front ++ first) second back

/-- So many parts one behind the other. -/
def repeated (F : Span) : Nat → Span
  | 0 => fun _ part _ => part = []
  | n + 1 => F.followedBy (F.repeated n)

end Span

/-- What a pattern matches.  A repetition takes at least `least` and at most `most` parts; a bound
below the least number is that number. -/
def Pattern.Fits : Pattern → Span
  | empty => fun _ part _ => part = []
  | literal cs => fun _ part _ => part = cs
  | one s => fun _ part _ => ∃ c, part = [c] ∧ s.mem c = true
  | look a => fun front part back => part = [] ∧ a.holds ⟨front.getLast?, back⟩ = true
  | group _ p => p.Fits
  | seq p q => p.Fits.followedBy q.Fits
  | alt p q => fun front part back => p.Fits front part back ∨ q.Fits front part back
  | loop p least most _ => fun front part back =>
    ∃ n, least ≤ n ∧ (∀ m, most = some m → n ≤ max least m) ∧ p.Fits.repeated n front part back

/-! ## §4. Parts of a text by their places -/

/-- In a text, a part that starts at one place and ends at another is as described. -/
def Span.Leads (text : List Char) (F : Span) (i j : Nat) : Prop :=
  ∃ front part back, text = front ++ part ++ back ∧ front.length = i ∧
    (front ++ part).length = j ∧ F front part back

namespace Span

variable {text : List Char} {F G : Span} {i j n : Nat}

theorem forward_leads : Places.Forward text.length (Leads text F) := by
  rintro i j ⟨front, part, back, rfl, rfl, rfl, _⟩
  simp only [List.length_append]
  omega

/-- Two parts one behind the other meet at a place. -/
theorem leads_followedBy_iff :
    Leads text (F.followedBy G) i j ↔ ∃ k, Leads text F i k ∧ Leads text G k j := by
  constructor
  · rintro ⟨front, _, back, rfl, rfl, rfl, first, second, rfl, hF, hG⟩
    refine ⟨(front ++ first).length, ⟨front, first, second ++ back, ?_, rfl, rfl, hF⟩,
      ⟨front ++ first, second, back, ?_, rfl, ?_, hG⟩⟩
    · simp only [List.append_assoc]
    · simp only [List.append_assoc]
    · rw [List.append_assoc]
  · rintro ⟨k, ⟨front, first, rest, htext, rfl, rfl, hF⟩,
      ⟨front', second, back, htext', hlen, rfl, hG⟩⟩
    -- both descriptions cut the text at the same place
    have hcut : front ++ first ++ rest = front' ++ (second ++ back) := by
      rw [← htext, htext', List.append_assoc]
    obtain ⟨rfl, rfl⟩ := List.append_inj hcut hlen.symm
    refine ⟨front, first ++ second, back, ?_, rfl, ?_, first, second, rfl, hF, hG⟩
    · rw [htext']
      simp only [List.append_assoc]
    · rw [List.append_assoc]

theorem leads_repeated_iff (hi : i ≤ text.length) :
    Leads text (F.repeated n) i j ↔ Places.Trip (Leads text F) n i j := by
  induction n generalizing i with
  | zero =>
    rw [Places.trip_zero_iff]
    constructor
    · rintro ⟨front, _, back, rfl, rfl, rfl, rfl⟩
      rw [List.append_nil]
    · rintro rfl
      refine ⟨text.take i, [], text.drop i, by simp, ?_, ?_, rfl⟩
      · rw [List.length_take]
        omega
      · rw [List.append_nil, List.length_take]
        omega
  | succ n ih =>
    show Leads text (F.followedBy (F.repeated n)) i j ↔ _
    rw [leads_followedBy_iff, Places.trip_succ_iff]
    constructor
    · rintro ⟨k, hfirst, hrest⟩
      exact ⟨k, hfirst, (ih (forward_leads i k hfirst).2).mp hrest⟩
    · rintro ⟨k, hfirst, hrest⟩
      exact ⟨k, hfirst, (ih (forward_leads i k hfirst).2).mpr hrest⟩

end Span

theorem Cursor.getElem?_allFrom {prev : Option Char} {text : List Char} {i : Nat} {c : Cursor} :
    (Cursor.allFrom prev text)[i]? = some c ↔ ∃ front back, text = front ++ back ∧
      front.length = i ∧ c = ⟨front.getLast?.or prev, back⟩ := by
  induction i generalizing prev text with
  | zero =>
    have hfirst : (Cursor.allFrom prev text)[0]? = some ⟨prev, text⟩ := by
      cases text <;> rfl
    rw [hfirst]
    constructor
    · rintro ⟨⟩
      exact ⟨[], text, rfl, rfl, rfl⟩
    · rintro ⟨front, back, rfl, hlen, rfl⟩
      rw [List.length_eq_zero_iff.mp hlen]
      rfl
  | succ i ih =>
    cases text with
    | nil =>
      constructor
      · intro h
        exact absurd h (by simp [Cursor.allFrom])
      · rintro ⟨front, back, htext, hlen, rfl⟩
        rw [(List.append_eq_nil_iff.mp htext.symm).1] at hlen
        exact absurd hlen (by simp)
    | cons d text =>
      -- the character in front of a later place is the last one of the front, or `d`
      have hlast : ∀ front : List Char,
          (d :: front).getLast?.or prev = front.getLast?.or (some d) := by
        intro front
        rw [List.getLast?_cons]
        cases front.getLast? <;> rfl
      rw [Cursor.allFrom, List.getElem?_cons_succ, ih]
      constructor
      · rintro ⟨front, back, rfl, rfl, rfl⟩
        exact ⟨d :: front, back, rfl, rfl, by rw [hlast]⟩
      · rintro ⟨front, back, htext, hlen, rfl⟩
        cases front with
        | nil => exact absurd hlen (by simp)
        | cons e front =>
          obtain ⟨rfl, rfl⟩ := List.cons.inj htext
          exact ⟨front, back, rfl, by simpa using hlen, by rw [hlast]⟩

theorem Cursor.length_allFrom (prev : Option Char) (text : List Char) :
    (Cursor.allFrom prev text).length = text.length + 1 := by
  induction text generalizing prev with
  | nil => rfl
  | cons c text ih => rw [Cursor.allFrom, List.length_cons, ih, List.length_cons]

/-! ## §5. Plans -/

namespace Pattern

open CodeAtlas.Places CodeAtlas.Span

variable {text : List Char}

/-- A part of fixed width goes on from the places where it fits. -/
theorem realizes_hop {F : Span} {test : Cursor → Bool} {width : Nat}
    (fits : ∀ front back, test ⟨front.getLast?, back⟩ = true ↔
      ∃ part rest, back = part ++ rest ∧ F front part rest)
    (wide : ∀ front part back, F front part back → part.length = width) :
    Realizes text.length (Plan.hop (passing test (Cursor.allFrom none text)) width).reach
      (Leads text F) := by
  intro s hs j
  show Has ((s &&& passing test (Cursor.allFrom none text)) <<< width) j ↔ _
  rw [has_shiftLeft]
  simp only [has_and, has_passing, Cursor.getElem?_allFrom, Option.or_none]
  constructor
  · rintro ⟨i, ⟨hi, c, ⟨front, back, htext, hlen, rfl⟩, htest⟩, rfl⟩
    obtain ⟨part, rest, rfl, hF⟩ := (fits front back).mp htest
    refine ⟨i, hi, front, part, rest, ?_, hlen, ?_, hF⟩
    · rw [htext, List.append_assoc]
    · rw [List.length_append, hlen, wide _ _ _ hF]
  · rintro ⟨i, hi, front, part, rest, htext, hlen, hend, hF⟩
    refine ⟨i, ⟨hi, _, ⟨front, part ++ rest, ?_, hlen, rfl⟩, ?_⟩, ?_⟩
    · rw [htext, List.append_assoc]
    · exact (fits front (part ++ rest)).mpr ⟨part, rest, rfl, hF⟩
    · rw [← hend, List.length_append, hlen, wide _ _ _ hF]

theorem realizes_seq {F G : Span} {p q : Plan} (hp : Realizes text.length p.reach (Leads text F))
    (hq : Realizes text.length q.reach (Leads text G)) :
    Realizes text.length (Plan.seq p q).reach (Leads text (F.followedBy G)) := by
  intro s hs j
  show Has (q.reach (p.reach s)) j ↔ _
  rw [hq _ (hp.upto forward_leads hs)]
  simp only [leads_followedBy_iff]
  constructor
  · rintro ⟨k, hk, hG⟩
    obtain ⟨i, hi, hF⟩ := (hp s hs k).mp hk
    exact ⟨i, hi, k, hF, hG⟩
  · rintro ⟨i, hi, k, hF, hG⟩
    exact ⟨k, (hp s hs k).mpr ⟨i, hi, hF⟩, hG⟩

theorem realizes_alt {F G : Span} {p q : Plan} (hp : Realizes text.length p.reach (Leads text F))
    (hq : Realizes text.length q.reach (Leads text G)) :
    Realizes text.length (Plan.alt p q).reach
      (Leads text fun front part back => F front part back ∨ G front part back) := by
  intro s hs j
  show Has (p.reach s ||| q.reach s) j ↔ _
  rw [has_or, hp s hs j, hq s hs j]
  constructor
  · rintro (⟨i, hi, front, part, back, h⟩ | ⟨i, hi, front, part, back, h⟩)
    · exact ⟨i, hi, front, part, back, h.1, h.2.1, h.2.2.1, .inl h.2.2.2⟩
    · exact ⟨i, hi, front, part, back, h.1, h.2.1, h.2.2.1, .inr h.2.2.2⟩
  · rintro ⟨i, hi, front, part, back, htext, hlen, hend, h | h⟩
    · exact .inl ⟨i, hi, front, part, back, htext, hlen, hend, h⟩
    · exact .inr ⟨i, hi, front, part, back, htext, hlen, hend, h⟩

/-- A repetition by the number of its parts, place by place. -/
theorem leads_loop_iff {F : Span} {least : Nat} {most : Option Nat} {i j : Nat}
    (hi : i ≤ text.length) :
    Leads text (fun front part back =>
        ∃ n, least ≤ n ∧ (∀ m, most = some m → n ≤ max least m) ∧
          F.repeated n front part back) i j ↔
      ∃ n, least ≤ n ∧ (∀ m, most = some m → n ≤ max least m) ∧ Trip (Leads text F) n i j := by
  constructor
  · rintro ⟨front, part, back, htext, hlen, hend, n, hleast, hmost, h⟩
    exact ⟨n, hleast, hmost,
      (leads_repeated_iff hi).mp ⟨front, part, back, htext, hlen, hend, h⟩⟩
  · rintro ⟨n, hleast, hmost, htrip⟩
    obtain ⟨front, part, back, htext, hlen, hend, h⟩ := (leads_repeated_iff hi).mpr htrip
    exact ⟨front, part, back, htext, hlen, hend, n, hleast, hmost, h⟩

/-- A repetition without a bound needs no more steps than there are places. -/
theorem realizes_loop {F : Span} {p : Plan} (real : Realizes text.length p.reach (Leads text F))
    (least : Nat) (most : Option Nat) :
    Realizes text.length
      (Plan.loop p least ((most.map (· - least)).getD (Cursor.allFrom none text).length)).reach
      (Leads text fun front part back =>
        ∃ n, least ≤ n ∧ (∀ m, most = some m → n ≤ max least m) ∧
          F.repeated n front part back) := by
  intro s hs j
  rw [Cursor.length_allFrom]
  generalize hmore : (most.map (· - least)).getD (text.length + 1) = more
  have hfirst : ∀ k, Has (after p.reach least s) k ↔ ∃ i, Has s i ∧ Trip (Leads text F) least i k :=
    fun k => has_after real forward_leads hs
  have hupto : Upto text.length (after p.reach least s) := by
    intro k hk
    obtain ⟨i, hi, htrip⟩ := (hfirst k).mp hk
    exact (forward_leads.trip htrip (hs i hi)).2
  show Has (within p.reach more (after p.reach least s) (after p.reach least s)) j ↔ _
  rw [has_within real forward_leads hupto (fun _ h => h) (fun _ _ h hnot _ => absurd h hnot)]
  constructor
  · rintro ⟨k, m, hk, hm, htrip⟩
    obtain ⟨i, hi, hleast⟩ := (hfirst k).mp hk
    refine ⟨i, hi, (leads_loop_iff (hs i hi)).mpr ⟨least + m, by omega, ?_, ?_⟩⟩
    · rintro bound rfl
      have hbound : bound - least = more := hmore
      omega
    · exact trip_add_iff.mpr ⟨k, hleast, htrip⟩
  · rintro ⟨i, hi, hleads⟩
    obtain ⟨n, hleast, hmost, htrip⟩ := (leads_loop_iff (hs i hi)).mp hleads
    obtain ⟨m, rfl⟩ := Nat.exists_eq_add_of_le hleast
    obtain ⟨k, hk, hrest⟩ := trip_add_iff.mp htrip
    have hkin : Has (after p.reach least s) k := (hfirst k).mpr ⟨i, hi, hk⟩
    cases most with
    | some bound =>
      have hbound : bound - least = more := hmore
      have hle := hmost bound rfl
      exact ⟨k, m, hkin, by omega, hrest⟩
    | none =>
      -- any number of steps can be replaced by one that is small enough
      have hall : text.length + 1 = more := hmore
      obtain ⟨m', hm', hshort⟩ := forward_leads.shorten hrest (hupto k hkin)
      have hj := (forward_leads.trip hrest (hupto k hkin)).2
      exact ⟨k, m', hkin, by omega, hshort⟩

/-- **A plan goes from place to place as its pattern matches.** -/
theorem realizes_plan (text : List Char) (p : Pattern) :
    Realizes text.length (p.plan (Cursor.allFrom none text)).reach (Leads text p.Fits) := by
  induction p with
  | empty =>
    apply realizes_hop
    · intro front back
      simp [Fits]
    · rintro front part back rfl
      rfl
  | literal cs =>
    apply realizes_hop
    · intro front back
      simp only [Fits, List.isPrefixOf_iff_prefix]
      constructor
      · rintro ⟨rest, rfl⟩
        exact ⟨cs, rest, rfl, rfl⟩
      · rintro ⟨part, rest, rfl, rfl⟩
        exact ⟨rest, rfl⟩
    · rintro front part back rfl
      rfl
  | one set =>
    apply realizes_hop
    · intro front back
      simp only [Fits]
      cases back with
      | nil => simp
      | cons c back =>
        constructor
        · intro h
          exact ⟨[c], back, rfl, c, rfl, by simpa using h⟩
        · rintro ⟨_, rest, hback, d, rfl, hd⟩
          obtain ⟨rfl, rfl⟩ := List.cons.inj hback
          simpa using hd
    · rintro front part back ⟨c, rfl, _⟩
      rfl
  | look a =>
    apply realizes_hop
    · intro front back
      simp only [Fits]
      constructor
      · intro h
        exact ⟨[], back, rfl, rfl, h⟩
      · rintro ⟨_, rest, rfl, rfl, h⟩
        exact h
    · rintro front part back ⟨rfl, _⟩
      rfl
  | group index p ih => exact ih
  | seq p q ihp ihq => exact realizes_seq ihp ihq
  | alt p q ihp ihq => exact realizes_alt ihp ihq
  | loop p least most isLazy ih => exact realizes_loop ih least most

/-! ## §6. Matching -/

/-- **A text has a match iff some part of it fits the pattern.** -/
theorem isMatch_iff {p : Pattern} {text : String} : p.isMatch text = true ↔
    ∃ front part back, text.toList = front ++ part ++ back ∧ p.Fits front part back := by
  have hall : ∀ i, Has (passing (fun _ => true) (Cursor.allFrom none text.toList)) i ↔
      i ≤ text.toList.length := by
    intro i
    rw [has_passing, ← Nat.lt_succ_iff, Nat.succ_eq_add_one, ← Cursor.length_allFrom none]
    constructor
    · rintro ⟨c, hc, _⟩
      exact (List.getElem?_eq_some_iff.mp hc).1
    · intro hi
      exact ⟨_, List.getElem?_eq_getElem hi, rfl⟩
  unfold isMatch matchesChars
  rw [bne_iff_ne, ne_zero_iff]
  simp only [realizes_plan text.toList p _ (fun i hi => (hall i).mp hi), hall]
  constructor
  · rintro ⟨j, i, _, front, part, back, htext, _, _, hfits⟩
    exact ⟨front, part, back, htext, hfits⟩
  · rintro ⟨front, part, back, htext, hfits⟩
    refine ⟨(front ++ part).length, front.length, ?_, front, part, back, htext, rfl, rfl, hfits⟩
    rw [htext]
    simp only [List.length_append]
    omega

end Pattern
end CodeAtlas
