import Mathlib.Data.List.Basic
import Mathlib.Data.List.Induction

/-! Runs of a system whose steps are chosen from outside: by callers, or by a scheduler. A step
that is not enabled has no successor. -/

namespace Tokengine.Runs
open List Option

variable {σ ι : Type} {holds : σ → Prop}

def exec (step : σ → ι → Option σ) : σ → List ι → Option σ
  | s, [] => some s
  | s, a :: rest => (step s a).bind fun t => exec step t rest

/-- Every step of a run is taken in a state in which `guard` allows it. -/
def Guarded (step : σ → ι → Option σ) (guard : σ → ι → Prop) : σ → List ι → Prop
  | _, [] => True
  | s, a :: rest => guard s a ∧ ∀ t, step s a = some t → Guarded step guard t rest

/-- A run on fixed inputs is evaluated once, together with what is asked of its end. -/
theorem exists_end {run : Option σ} [DecidablePred holds]
    (shown : (run.any fun s => decide (holds s)) = true) : ∃ s, run = some s ∧ holds s := by
  cases run with
  | none => cases shown
  | some s => exact ⟨s, rfl, of_decide_eq_true shown⟩

theorem exists_end_of {run : Option σ} (ends : run.isSome = true)
    (shows : ∀ s, run = some s → holds s) : ∃ s, run = some s ∧ holds s := by
  obtain ⟨s, same⟩ := isSome_iff_exists.mp ends
  exact ⟨s, same, shows s same⟩

variable {step : σ → ι → Option σ} {guard : σ → ι → Prop} {s t : σ} {a : ι} {rest labels : List ι}

theorem exec_cons (run : exec step s (a :: rest) = some t) :
    ∃ middle, step s a = some middle ∧ exec step middle rest = some t :=
  bind_eq_some_iff.mp run

theorem exec_append (step : σ → ι → Option σ) (s : σ) (labels rest : List ι) :
    exec step s (labels ++ rest) = (exec step s labels).bind fun t => exec step t rest := by
  induction labels generalizing s with
  | nil => rfl
  | cons a labels tail =>
    rw [cons_append, exec, exec, Option.bind_assoc]
    exact congrArg (Option.bind (step s a)) (funext tail)

theorem exec_concat (run : exec step s (labels ++ [a]) = some t) :
    ∃ middle, exec step s labels = some middle ∧ step middle a = some t := by
  rw [exec_append] at run
  obtain ⟨middle, before, last⟩ := bind_eq_some_iff.mp run
  obtain ⟨_, taken, ended⟩ := exec_cons last
  exact ⟨middle, before, Option.some.inj ended ▸ taken⟩

/-- What one more step preserves holds after every run, of the steps so far and the state they have led to. -/
theorem exec_history {invariant : List ι → σ → Prop} (start : invariant [] s)
    (keeps : ∀ done middle a t, invariant done middle → step middle a = some t → invariant (done ++ [a]) t)
    (run : exec step s labels = some t) : invariant labels t := by
  induction labels using List.reverseRecOn generalizing t with
  | nil => exact Option.some.inj run ▸ start
  | append_singleton done a earlier =>
    obtain ⟨middle, before, taken⟩ := exec_concat run
    exact keeps done middle a t (earlier before) taken

theorem guarded_cons (now : guard s a) (taken : step s a = some t) (later : Guarded step guard t rest) :
    Guarded step guard s (a :: rest) := by
  refine ⟨now, fun t' same => ?_⟩
  cases taken.symm.trans same
  exact later

theorem guarded_mono {guard' : σ → ι → Prop} (weaker : ∀ s a, guard s a → guard' s a)
    (allowed : Guarded step guard s labels) : Guarded step guard' s labels := by
  induction labels generalizing s with
  | nil => trivial
  | cons a rest tail => exact ⟨weaker s a allowed.1, fun t taken => tail (allowed.2 t taken)⟩

theorem guarded_always (always : ∀ s a, guard s a) (labels : List ι) (s : σ) : Guarded step guard s labels := by
  induction labels generalizing s with
  | nil => trivial
  | cons a rest tail => exact ⟨always s a, fun t _ => tail t⟩

instance decidableGuarded [∀ s a, Decidable (guard s a)] :
    (s : σ) → (labels : List ι) → Decidable (Guarded step guard s labels)
  | _, [] => isTrue trivial
  | s, a :: rest => match taken : step s a with
    | none => decidable_of_iff (guard s a) ⟨fun now => ⟨now, fun _ same => nomatch taken.symm.trans same⟩, And.left⟩
    | some t =>
      haveI := decidableGuarded t rest
      decidable_of_iff (guard s a ∧ Guarded step guard t rest)
        ⟨fun holds => guarded_cons holds.1 taken holds.2, fun holds => ⟨holds.1, holds.2 t taken⟩⟩

variable {invariant : σ → Prop}

/-- What every allowed step preserves holds after every run of allowed steps. -/
theorem exec_invariant (keeps : ∀ s a t, invariant s → guard s a → step s a = some t → invariant t)
    (start : invariant s) (allowed : Guarded step guard s labels) (run : exec step s labels = some t) : invariant t := by
  induction labels generalizing s with
  | nil => exact Option.some.inj run ▸ start
  | cons a rest tail =>
    obtain ⟨middle, first, remaining⟩ := exec_cons run
    exact tail (keeps s a middle start allowed.1 first) (allowed.2 middle first) remaining

def Along (step : σ → ι → Option σ) (holds : σ → Prop) (s : σ) (labels : List ι) : Prop :=
  ∀ done, done <+: labels → ∀ t, exec step s done = some t → holds t

theorem along_cons : Along step holds s (a :: rest) ↔ holds s ∧ ∀ t, step s a = some t → Along step holds t rest := by
  constructor
  · intro along
    refine ⟨along [] nil_prefix s rfl, fun middle taken done initial t run => ?_⟩
    apply along (a :: done) ((prefix_cons_inj a).mpr initial) t
    rw [exec, taken]
    exact run
  · rintro ⟨first, later⟩ done initial t run
    cases done with
    | nil => exact Option.some.inj run ▸ first
    | cons b done =>
      obtain ⟨rfl, shorter⟩ := cons_prefix_cons.mp initial
      obtain ⟨middle, taken, remaining⟩ := exec_cons run
      exact later middle taken done shorter t remaining

/-- What every allowed step preserves holds all along a run of allowed steps. -/
theorem along_of_guarded (keeps : ∀ s a t, invariant s → guard s a → step s a = some t → invariant t)
    (start : invariant s) (allowed : Guarded step guard s labels) : Along step invariant s labels := by
  induction labels generalizing s with
  | nil =>
    intro done initial t run
    cases prefix_nil.mp initial
    exact Option.some.inj run ▸ start
  | cons a rest tail =>
    refine along_cons.mpr ⟨start, fun middle taken => ?_⟩
    exact tail (keeps s a middle start allowed.1 taken) (allowed.2 middle taken)

/-- When the guard of a step says exactly that the next state has the property, the guarded runs
are those that have it all along. -/
theorem guarded_iff_along (keeps : ∀ s a t, invariant s → step s a = some t → invariant t)
    (sharp : ∀ s a t, invariant s → holds s → step s a = some t → (guard s a ↔ holds t))
    (stuck : ∀ s a, step s a = none → guard s a) (start : invariant s) (first : holds s) (labels : List ι) :
    Guarded step guard s labels ↔ Along step holds s labels := by
  induction labels generalizing s with
  | nil =>
    refine ⟨fun _ done initial t run => ?_, fun _ => trivial⟩
    cases prefix_nil.mp initial
    exact Option.some.inj run ▸ first
  | cons a rest tail =>
    rw [along_cons]
    constructor
    · rintro ⟨now, later⟩
      refine ⟨first, fun t taken => ?_⟩
      exact (tail (keeps s a t start taken) ((sharp s a t start first taken).mp now)).mp (later t taken)
    · rintro ⟨_, later⟩
      refine ⟨?_, fun t taken => ?_⟩
      · cases taken : step s a with
        | none => exact stuck s a taken
        | some t =>
          have now := later t taken [] nil_prefix t rfl
          exact (sharp s a t start first taken).mpr now
      · have next := later t taken [] nil_prefix t rfl
        exact (tail (keeps s a t start taken) next).mpr (later t taken)

end Tokengine.Runs
