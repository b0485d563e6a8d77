import Mathlib.Data.List.Basic

/-! Texts that come in pieces, some of which may get lost on the way. -/

namespace Tokengine.Pieces
open List

def concat : List String → String
  | [] => ""
  | piece :: rest => piece ++ concat rest

theorem concat_append (first second : List String) : concat (first ++ second) = concat first ++ concat second := by
  induction first with
  | nil => rw [nil_append, concat, String.empty_append]
  | cons piece rest tail => rw [cons_append, concat, concat, tail, String.append_assoc]

def Arrives (sent full : String) : Prop := sent.length ≤ full.length ∧ (sent.length = full.length → sent = full)

theorem arrives_self (full : String) : Arrives full full := ⟨Nat.le_refl _, fun _ => rfl⟩

theorem arrives_empty (full : String) : Arrives "" full := by
  refine ⟨Nat.zero_le _, fun same => ?_⟩
  exact (String.length_eq_zero_iff.mp same.symm).symm

theorem arrives_prefix (sent missing : String) : Arrives sent (sent ++ missing) := by
  rw [Arrives, String.length_append]
  refine ⟨Nat.le_add_right _ _, fun same => ?_⟩
  have none : missing = "" := String.length_eq_zero_iff.mp (by omega)
  rw [none, String.append_empty]

section Concat

variable {α : Type} {sent full : α → String} {items : List α}

theorem length_concat_le (arrive : ∀ item ∈ items, Arrives (sent item) (full item)) :
    (concat (items.map sent)).length ≤ (concat (items.map full)).length := by
  induction items with
  | nil => exact Nat.le_refl _
  | cons item rest tail =>
    have first := (arrive item mem_cons_self).1
    have later := tail fun other mem => arrive other (mem_cons_of_mem _ mem)
    simp only [map_cons, concat, String.length_append]
    omega

/-- The whole arrives if and only if every piece does. -/
theorem concat_eq_iff (arrive : ∀ item ∈ items, Arrives (sent item) (full item)) :
    concat (items.map sent) = concat (items.map full) ↔ ∀ item ∈ items, sent item = full item := by
  constructor
  · intro same
    induction items with
    | nil => exact nofun
    | cons item rest tail =>
      have later : ∀ other ∈ rest, Arrives (sent other) (full other) :=
        fun other mem => arrive other (mem_cons_of_mem _ mem)
      have bound := length_concat_le later
      have first := arrive item mem_cons_self
      have lengths := congrArg String.length same
      simp only [map_cons, concat, String.length_append] at lengths
      have head : sent item = full item := first.2 (by have := first.1; omega)
      simp only [map_cons, concat, head, String.append_right_inj] at same
      rw [forall_mem_cons]
      exact ⟨head, tail later same⟩
  · intro all
    rw [map_congr_left all]

end Concat

end Tokengine.Pieces
