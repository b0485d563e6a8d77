import Mathlib.Tactic.Common

/-! Fallible stateful programs. A program returns a value or an error together with the
state it reached; as in Go, an error does not undo what was done before it. -/

namespace Tokengine

abbrev Program (σ ε α : Type) := ExceptT ε (StateM σ) α

theorem passed {ε α : Type} {condition : Prop} [Decidable condition] {e : ε} {rest : Except ε α} {val : α}
    (found : (if condition then .error e else rest) = .ok val) : ¬condition ∧ rest = .ok val := by
  split at found
  · cases found
  next unmet => exact ⟨unmet, found⟩

namespace Program

variable {σ τ ε ε' α β : Type}

/-- Handle the error of a call as a value, as in `x, err := f()`. -/
def attempt (p : Program σ ε α) : Program σ ε' (Except ε α) := fun s => (.ok (p s).1, (p s).2)

def logged (p : Program σ ε α) : Program σ ε' Unit := fun s => (.ok (), (p s).2)

def zoom (get : τ → σ) (put : σ → τ → τ) (p : Program σ ε α) : Program τ ε α :=
  fun t => ((p (get t)).1, put (p (get t)).2 t)

variable (p : Program σ ε α)

theorem bind_at (f : α → Program σ ε β) (s : σ) : (p >>= f) s = match p s with
      | (.ok a, t) => f a t
      | (.error e, t) => (.error e, t) := by
  change ExceptT.bindCont f (p s).1 (p s).2 = _
  rcases p s with ⟨_ | _, t⟩ <;> rfl

variable {f : α → Program σ ε β} {e : ε}

theorem bind_ok {p : Program σ ε α} {s t : σ} {a : α} (run : p s = (.ok a, t)) : (p >>= f) s = f a t := by
  rw [bind_at, run]

theorem bind_error {p : Program σ ε α} {s t : σ} (run : p s = (.error e, t)) : (p >>= f) s = (.error e, t) := by
  rw [bind_at, run]

/-- A sequence succeeds only by way of a successful first part. -/
theorem bind_eq_ok {p : Program σ ε α} {s u : σ} {b : β} (run : (p >>= f) s = (.ok b, u)) :
    ∃ a t, p s = (.ok a, t) ∧ f a t = (.ok b, u) := by
  rw [bind_at] at run
  rcases first : p s with ⟨e | a, t⟩
  · rw [first] at run
    cases run
  · rw [first] at run
    exact ⟨a, t, rfl, run⟩

theorem bind_eq_error {p : Program σ ε α} {s u : σ} (run : (p >>= f) s = (.error e, u)) :
    p s = (.error e, u) ∨ ∃ a t, p s = (.ok a, t) ∧ f a t = (.error e, u) := by
  rcases first : p s with ⟨e' | a, t⟩
  · rw [bind_error first] at run
    cases run
    exact .inl rfl
  · exact .inr ⟨a, t, rfl, (bind_ok first).symm.trans run⟩

/-- A program that succeeds has passed the check it starts with. -/
theorem guard_ok {condition : Prop} [Decidable condition] {rest : Program σ ε α} {s t : σ} {a : α}
    (run : (if condition then throw e else rest) s = (.ok a, t)) : ¬condition ∧ rest s = (.ok a, t) := by
  split at run
  · cases run
  next passed => exact ⟨passed, run⟩

theorem get_bind (f : σ → Program σ ε α) (s : σ) : ((get : Program σ ε σ) >>= f) s = f s s := rfl

@[simp]
theorem attempt_at (s : σ) : (attempt p : Program σ ε' (Except ε α)) s = (.ok (p s).1, (p s).2) := rfl

theorem attempt_bind (f : Except ε α → Program σ ε' β) (s : σ) :
    (attempt p >>= f) s = f (p s).1 (p s).2 := bind_ok (attempt_at p s)

theorem logged_bind (f : Unit → Program σ ε' β) (s : σ) : (logged p >>= f) s = f () (p s).2 := rfl

@[simp]
theorem zoom_at (get : τ → σ) (put : σ → τ → τ) (p : Program σ ε α) (t : τ) :
    zoom get put p t = ((p (get t)).1, put (p (get t)).2 t) := rfl

def Keeps (related : σ → σ → Prop) (p : Program σ ε α) : Prop := ∀ s, related s (p s).2

theorem keeps_attempt {related : σ → σ → Prop} {p : Program σ ε α} (kept : Keeps related p) :
    Keeps related (attempt p : Program σ ε' (Except ε α)) := kept

section Keeps

variable {related : σ → σ → Prop} [IsPreorder σ related]

theorem keeps_pure (a : α) : Keeps related (pure a : Program σ ε α) := refl_of related

theorem keeps_throw (e : ε) : Keeps related (throw e : Program σ ε α) := refl_of related

theorem keeps_guard {refused : Prop} [Decidable refused] {e : ε} {p : Program σ ε α} (kept : Keeps related p) :
    Keeps related (if refused then throw e else p) := by
  split
  · exact keeps_throw e
  · exact kept

theorem keeps_bind {p : Program σ ε α} (first : Keeps related p)
    (rest : ∀ a, Keeps related (f a)) : Keeps related (p >>= f) := by
  intro s
  have moved := first s
  rw [bind_at]
  rcases run : p s with ⟨e | a, t⟩
  · rw [run] at moved
    exact moved
  · rw [run] at moved
    exact trans_of related moved (rest a t)

end Keeps

/-- From a state that satisfies `pre` the program returns a value with `post`, or ends in a state with `fails`. -/
def Ensures (pre : σ → Prop) (p : Program σ ε α) (post : α → σ → Prop) (fails : σ → Prop) : Prop :=
  ∀ s, pre s → (∀ a t, p s = (.ok a, t) → post a t) ∧ ∀ e t, p s = (.error e, t) → fails t

section Ensures

variable {pre : σ → Prop} {post : α → σ → Prop} {fails : σ → Prop}

theorem ensures_pure {a : α} (holds : ∀ s, pre s → post a s) : Ensures pre (pure a : Program σ ε α) post fails := by
  intro s start
  refine ⟨fun _ _ run => ?_, fun _ _ run => ?_⟩
  · cases run
    exact holds s start
  · cases run

theorem ensures_throw (holds : ∀ s, pre s → fails s) : Ensures pre (throw e : Program σ ε α) post fails := by
  intro s start
  refine ⟨fun _ _ run => ?_, fun _ _ run => ?_⟩
  · cases run
  · cases run
    exact holds s start

variable {p : Program σ ε α} {fails' : σ → Prop}

theorem ensures_guard {refused : Prop} [Decidable refused] (ends : ∀ s, pre s → fails s) (rest : Ensures pre p post fails) :
    Ensures pre (if refused then throw e else p) post fails := by
  split
  · exact ensures_throw ends
  · exact rest

theorem ensures_bind {middle : α → σ → Prop} {post : β → σ → Prop}
    (first : Ensures pre p middle fails) (rest : ∀ a, Ensures (middle a) (f a) post fails) :
    Ensures pre (p >>= f) post fails := by
  intro s start
  obtain ⟨returns, ends⟩ := first s start
  rcases run : p s with ⟨e | a, t⟩
  · rw [bind_error run]
    refine ⟨fun _ _ ran => ?_, fun _ _ ran => ?_⟩
    · cases ran
    · cases ran
      exact ends _ _ run
  · rw [bind_ok run]
    exact rest a t (returns a t run)

/-- A caught error is a value. -/
theorem ensures_attempt {post : Except ε α → σ → Prop}
    (tried : Ensures pre p (fun a => post (.ok a)) fun s => ∀ e, post (.error e) s) :
    Ensures pre (attempt p : Program σ ε' (Except ε α)) post fails := by
  intro s start
  obtain ⟨returns, ends⟩ := tried s start
  refine ⟨fun res t run => ?_, fun _ _ run => ?_⟩
  · cases run
    rcases ran : p s with ⟨e | a, t⟩
    · exact ends e t ran e
    · exact returns a t ran
  · cases run

theorem ensures_mono {pre' : σ → Prop} {post' : α → σ → Prop} (ensures : Ensures pre p post fails)
    (stronger : ∀ s, pre' s → pre s) (weaker : ∀ a s, post a s → post' a s) (worse : ∀ s, fails s → fails' s) :
    Ensures pre' p post' fails' := fun s start =>
  ⟨fun a t run => weaker a t ((ensures s (stronger s start)).1 a t run),
    fun e t run => worse t ((ensures s (stronger s start)).2 e t run)⟩

theorem ensures_state {holds : σ → Prop} (ensures : Ensures pre p (fun _ => holds) holds) {s : σ} (start : pre s) :
    holds (p s).2 := by
  rcases run : p s with ⟨e | a, t⟩
  · exact (ensures s start).2 e t run
  · exact (ensures s start).1 a t run

abbrev Preserves (holds : σ → Prop) (p : Program σ ε α) : Prop := Ensures holds p (fun _ => holds) holds

theorem preserves_iff : Preserves pre p ↔ ∀ s, pre s → pre (p s).2 := by
  refine ⟨fun preserved s => ensures_state preserved, fun kept s start => ⟨fun a t run => ?_, fun e t run => ?_⟩⟩
  all_goals
    have moved := kept s start
    rw [run] at moved
    exact moved

theorem preserves_attempt (preserved : Preserves pre p) :
    Ensures pre (attempt p : Program σ ε' (Except ε α)) (fun _ => pre) fails :=
  ensures_attempt (ensures_mono preserved (fun _ start => start) (fun _ _ ends => ends) fun _ ends _ => ends)

theorem ensures_fails (ensures : Ensures pre p post fails) (worse : ∀ s, fails s → fails' s) : Ensures pre p post fails' :=
  ensures_mono ensures (fun _ start => start) (fun _ _ ends => ends) worse

end Ensures

end Program

end Tokengine
