import Tokengine.Lib.Runs

/-! Machines that answer every input with a list of outputs, and monitors that read the outputs one by one. -/

namespace Tokengine.Transducer
open Runs List Option

variable {σ ι ω κ : Type}

def run (step : σ → ι → List ω × σ) : σ → List ι → List ω × σ
  | s, [] => ([], s)
  | s, a :: rest => ((step s a).1 ++ (run step (step s a).2 rest).1, (run step (step s a).2 rest).2)

variable {step : σ → ι → List ω × σ} {watch : κ → ω → Option κ} {guard : σ → ι → Prop} {related : σ → κ → Prop} {s : σ}
  {invariant : σ → Prop}

/-- What every step keeps holds in the end. -/
theorem run_invariant (keeps : ∀ s a, invariant s → invariant (step s a).2)
    (start : invariant s) (inputs : List ι) : invariant (run step s inputs).2 := by
  induction inputs generalizing s with
  | nil => exact start
  | cons a rest tail => exact tail (keeps s a start)

/-- What every step has of its outputs, the run has of all of them. -/
theorem run_outputs {good : ω → Prop} (keeps : ∀ s a, invariant s → invariant (step s a).2)
    (outputs : ∀ s a, invariant s → ∀ w ∈ (step s a).1, good w) (start : invariant s) (inputs : List ι) :
    ∀ w ∈ (run step s inputs).1, good w := by
  induction inputs generalizing s with
  | nil => exact nofun
  | cons a rest tail =>
    intro w mem
    rcases mem_append.mp mem with now | later
    · exact outputs s a start w now
    · exact tail (keeps s a start) w later

/-- Every input comes in a state in which `guard` allows it. -/
def Allowed (step : σ → ι → List ω × σ) (guard : σ → ι → Prop) : σ → List ι → Prop
  | _, [] => True
  | s, a :: rest => guard s a ∧ Allowed step guard (step s a).2 rest

instance decidableAllowed [∀ s a, Decidable (guard s a)] :
    (s : σ) → (inputs : List ι) → Decidable (Allowed step guard s inputs)
  | _, [] => isTrue trivial
  | s, a :: rest => @instDecidableAnd _ _ inferInstance (decidableAllowed (step s a).2 rest)

variable (keeps : ∀ s k a, related s k → guard s a → ∃ next, exec watch k (step s a).1 = some next ∧ related (step s a).2 next)

include keeps

/-- The monitor accepts the outputs of a run if it accepts those of every allowed step. -/
theorem run_accepted {k : κ} (start : related s k) {inputs : List ι} (allowed : Allowed step guard s inputs) :
    ∃ last, exec watch k (run step s inputs).1 = some last ∧ related (run step s inputs).2 last := by
  induction inputs generalizing s k with
  | nil => exact ⟨k, rfl, start⟩
  | cons a rest tail =>
    obtain ⟨next, now, follows⟩ := keeps s k a start allowed.1
    obtain ⟨last, later, ends⟩ := tail follows allowed.2
    refine ⟨last, ?_, ends⟩
    rw [run, exec_append, now]
    exact later

/-- A monitor that rejects the outputs of every other step accepts no other run. -/
theorem allowed_of_accepted {fair : ι → Prop}
    (sharp : ∀ s k a, related s k → fair a → ¬guard s a → exec watch k (step s a).1 = none) {k last : κ} (start : related s k) {inputs : List ι} (fairly : ∀ a ∈ inputs, fair a)
    (accepted : exec watch k (run step s inputs).1 = some last) : Allowed step guard s inputs := by
  induction inputs generalizing s k with
  | nil => trivial
  | cons a rest tail =>
    rw [run, exec_append] at accepted
    obtain ⟨next, now, later⟩ := bind_eq_some_iff.mp accepted
    have allowed : guard s a := by
      by_contra refused
      rw [sharp s k a start (fairly a mem_cons_self) refused] at now
      cases now
    obtain ⟨other, same, follows⟩ := keeps s k a start allowed
    cases now.symm.trans same
    exact ⟨allowed, tail follows (fun b later => fairly b (mem_cons_of_mem a later)) later⟩

end Tokengine.Transducer
