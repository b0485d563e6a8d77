import Mathlib.Algebra.GroupWithZero.Nat
import Mathlib.Data.List.Basic

/-! Choice by lot. Each candidate holds as many consecutive numbers as its share, and the number drawn decides. -/

namespace Tokengine.Lots
open List

variable {α : Type} (share : α → Nat)

def total (cands : List α) : Nat := (cands.map share).sum

def draw : List α → Nat → Option α
  | [], _ => none
  | cand :: rest, number => if number < share cand then some cand else draw rest (number - share cand)

variable {share} {cands : List α} {number : Nat}

theorem draw_some (within : number < total share cands) : ∃ cand ∈ cands, draw share cands number = some cand := by
  induction cands generalizing number with
  | nil => exact absurd within (Nat.not_lt_zero _)
  | cons cand rest tail =>
    rw [draw]
    split
    · exact ⟨cand, mem_cons_self, rfl⟩
    next beyond =>
      have bound : number < share cand + total share rest := within
      obtain ⟨other, mem, drawn⟩ := @tail (number - share cand) (by omega)
      exact ⟨other, mem_cons_of_mem _ mem, drawn⟩

theorem draw_append (first : List α) (rest : List α) (number : Nat) :
    draw share (first ++ rest) (total share first + number) = draw share rest number := by
  induction first with
  | nil => exact congrArg _ (Nat.zero_add number)
  | cons cand others tail =>
    have sum : total share (cand :: others) + number = share cand + (total share others + number) := Nat.add_assoc ..
    rw [sum, cons_append, draw, if_neg (by omega), Nat.add_sub_cancel_left, tail]

/-- Each number of the first share draws the first candidate, and the other numbers are drawn among the others. -/
theorem count_draw [DecidableEq α] (cands : List α) (chosen : α) :
    ((List.range (total share cands)).countP fun number => decide (draw share cands number = some chosen)) =
      cands.count chosen * share chosen := by
  induction cands with
  | nil => exact (Nat.zero_mul _).symm
  | cons cand rest tail =>
    have own : ((List.range (share cand)).countP fun number =>
        decide (draw share (cand :: rest) number = some chosen)) = if cand = chosen then share cand else 0 := by
      rw [countP_congr (q := fun _ => decide (cand = chosen))]
      · by_cases same : cand = chosen <;> simp [same]
      · intro number mem
        simp [draw, mem_range.mp mem]
    have others : (((List.range (total share rest)).map (share cand + ·)).countP fun number =>
        decide (draw share (cand :: rest) number = some chosen)) = rest.count chosen * share chosen := by
      rw [countP_map, ← tail]
      refine countP_congr fun number _ => ?_
      rw [Function.comp_apply, draw, if_neg (by omega), Nat.add_sub_cancel_left]
    rw [show total share (cand :: rest) = share cand + total share rest from rfl, range_add,
      countP_append, own, others, count_cons]
    by_cases same : cand = chosen
    · simp [same, Nat.add_mul, Nat.add_comm]
    · simp [same]

end Tokengine.Lots
