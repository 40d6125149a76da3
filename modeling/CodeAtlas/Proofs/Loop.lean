/-
  CodeAtlas.Proofs.Loop — invariants of loops over lists, and steps that may fail.

  A loop takes the elements of a list in one after the other.  An invariant may speak about the
  elements taken in so far: it has to hold at the start, with none taken in, and each round has to
  carry it over to one element more.  The round may use which elements came before and which are
  still to come.
-/

namespace CodeAtlas

variable {α β ε : Type}

/-- Two steps that end well, end well one by one. -/
theorem exists_of_bind_eq_ok {x : Except ε α} {f : α → Except ε β} {b : β} (h : x >>= f = .ok b) :
    ∃ a, x = .ok a ∧ f a = .ok b := by
  cases x with
  | error e => exact nomatch h
  | ok a => exact ⟨a, rfl, h⟩

theorem eq_ok_of_mapError {δ : Type} {x : Except ε α} {f : ε → δ} {a : α}
    (h : x.mapError f = .ok a) : x = .ok a := by
  cases x with
  | error e => exact nomatch h
  | ok b => rw [Except.ok.inj h]

/-- **The invariant of a loop.** -/
theorem foldl_invariant {f : β → α → β} {P : List α → β → Prop} {l : List α} {b : β}
    (start : P [] b)
    (step : ∀ done a rest b, l = done ++ a :: rest → P done b → P (done ++ [a]) (f b a)) :
    P l (l.foldl f b) := by
  -- the elements split into those taken in and those to come; the induction is on the latter
  have run : ∀ rest done b, l = done ++ rest → P done b → P l (rest.foldl f b) := by
    intro rest
    induction rest with
    | nil =>
      intro done b hl hb
      rw [hl, List.append_nil]
      exact hb
    | cons a rest ih =>
      intro done b hl hb
      apply ih (done ++ [a])
      · rw [hl, List.append_assoc]; rfl
      · exact step done a rest b hl hb
  exact run l [] b rfl start

/-- **The invariant of a loop that may fail.**  A round that fails ends the loop, and what `Q` says
about its failure holds of the whole loop. -/
theorem foldlM_invariant {f : β → α → Except ε β} {P : List α → β → Prop} {Q : ε → Prop}
    {l : List α} {b : β} (start : P [] b)
    (step : ∀ done a rest b, l = done ++ a :: rest → P done b →
      (∃ b', f b a = .ok b' ∧ P (done ++ [a]) b') ∨ ∃ e, f b a = .error e ∧ Q e) :
    (∃ b', l.foldlM f b = .ok b' ∧ P l b') ∨ ∃ e, l.foldlM f b = .error e ∧ Q e := by
  have run : ∀ rest done b, l = done ++ rest → P done b →
      (∃ b', rest.foldlM f b = .ok b' ∧ P l b') ∨ ∃ e, rest.foldlM f b = .error e ∧ Q e := by
    intro rest
    induction rest with
    | nil =>
      intro done b hl hb
      rw [List.append_nil] at hl
      exact .inl ⟨b, rfl, hl ▸ hb⟩
    | cons a rest ih =>
      intro done b hl hb
      rw [List.foldlM_cons]
      rcases step done a rest b hl hb with ⟨b', hok, hP⟩ | ⟨e, herr, hQ⟩
      · rw [hok]
        exact ih (done ++ [a]) b' (by rw [hl, List.append_assoc]; rfl) hP
      · rw [herr]
        exact .inr ⟨e, rfl, hQ⟩
  exact run l [] b rfl start

/-- What every round keeps, a loop that ends well keeps. -/
theorem foldlM_keeps {f : β → α → Except ε β} {P : β → Prop} {l : List α} {b b' : β}
    (h : l.foldlM f b = .ok b') (start : P b)
    (round : ∀ a ∈ l, ∀ b b', f b a = .ok b' → P b → P b') : P b' := by
  have run : (∃ c, l.foldlM f b = .ok c ∧ P c) ∨ ∃ e, l.foldlM f b = .error e ∧ True := by
    apply foldlM_invariant (P := fun _ c => P c) start
    intro done a rest c hsplit hc
    cases hf : f c a with
    | ok c' => exact .inl ⟨c', rfl, round a (by rw [hsplit]; simp) c c' hf hc⟩
    | error e => exact .inr ⟨e, rfl, trivial⟩
  rw [h] at run
  rcases run with ⟨c, hc, hP⟩ | ⟨e, he, _⟩
  · rw [Except.ok.inj hc]
    exact hP
  · exact absurd he (by simp)

/-- A loop whose rounds all end well ends well, and keeps what they keep. -/
theorem foldlM_succeeds {f : β → α → Except ε β} {P : β → Prop} {l : List α} {b : β} (start : P b)
    (round : ∀ a ∈ l, ∀ b, P b → ∃ b', f b a = .ok b' ∧ P b') :
    ∃ b', l.foldlM f b = .ok b' ∧ P b' := by
  have run : (∃ b', l.foldlM f b = .ok b' ∧ P b') ∨ ∃ e, l.foldlM f b = .error e ∧ False := by
    apply foldlM_invariant (P := fun _ c => P c) start
    intro done a rest c hsplit hc
    exact .inl (round a (by rw [hsplit]; simp) c hc)
  rcases run with hok | ⟨_, _, hfalse⟩
  · exact hok
  · exact hfalse.elim

end CodeAtlas
