import Mathlib.Algebra.BigOperators.Group.Finset.Basic
import Mathlib.Algebra.Ring.Int.Defs
import Tokengine.Lib.Table

/-! Sums over the rows of a keyed table, and over the processes of a machine. -/

namespace Tokengine
open Function

/-- The sum over all processes when one of them moves. -/
theorem sum_range_update {γ : Type} {pid count : Nat} (inside : pid < count) (accts : Nat → γ) (acct : γ) (val : γ → Int) :
    ∑ other ∈ Finset.range count, val (update accts pid acct other) =
      ∑ other ∈ Finset.range count, val (accts other) + (val acct - val (accts pid)) := by
  have mem : pid ∈ Finset.range count := Finset.mem_range.mpr inside
  rw [← Finset.add_sum_erase _ _ mem, ← Finset.add_sum_erase _ (fun other => val (accts other)) mem,
    update_self]
  have rest : ∑ other ∈ (Finset.range count).erase pid, val (update accts pid acct other) =
      ∑ other ∈ (Finset.range count).erase pid, val (accts other) := by
    apply Finset.sum_congr rfl
    intro other others
    rw [update_of_ne (Finset.ne_of_mem_erase others)]
  rw [rest]
  omega

end Tokengine

namespace Tokengine.Table

variable {κ ρ : Type} {key : ρ → κ} {weight : ρ → Int} {table : Table key} {change : ρ → ρ}

def total (table : Table key) (weight : ρ → Int) : Int := (table.rows.map weight).sum

theorem total_eq_zero (weightless : ∀ row ∈ table.rows, weight row = 0) : table.total weight = 0 := by
  apply List.sum_eq_zero
  intro val mem
  obtain ⟨row, stored, rfl⟩ := List.mem_map.mp mem
  exact weightless row stored

theorem total_modify (keeps : ∀ row, key (change row) = key row)
    (same : ∀ row, weight (change row) = weight row) : (table.modify change keeps).total weight = table.total weight := by
  simp only [total, modify, List.map_map]
  exact congrArg List.sum (List.map_congr_left fun row _ => same row)

theorem total_eq_countP (table : Table key) (counts : ρ → Bool) :
    table.total (fun row => if counts row then 1 else 0) = table.rows.countP counts := by
  unfold total
  induction table.rows with
  | nil => rfl
  | cons row rest tail =>
    rw [List.map_cons, List.sum_cons, tail, List.countP_cons]
    split
    · push_cast; omega
    · simp

variable [DecidableEq κ]

theorem sum_replace (weight : ρ → Int) {rows : List ρ} {row old : ρ} (distinct : (rows.map key).Nodup)
    (mem : old ∈ rows) (same : key old = key row) :
    ((rows.map fun other => if key other = key row then row else other).map weight).sum =
      (rows.map weight).sum - weight old + weight row := by
  induction rows with
  | nil => exact absurd mem List.not_mem_nil
  | cons first rest tail =>
    rw [List.map_cons, List.nodup_cons] at distinct
    simp only [List.map_cons, List.sum_cons]
    rcases List.mem_cons.mp mem with rfl | later
    · have others : (rest.map fun other => if key other = key row then row else other) = rest := by
        conv_rhs => rw [← List.map_id rest]
        refine List.map_congr_left fun other stored => if_neg fun equal => ?_
        exact distinct.1 (List.mem_map.mpr ⟨other, stored, equal.trans same.symm⟩)
      rw [others, if_pos same]
      omega
    · have ne : ¬key first = key row := fun equal =>
        distinct.1 (List.mem_map.mpr ⟨old, later, same.trans equal.symm⟩)
      rw [tail distinct.2 later, if_neg ne]
      omega

/-- A saved row takes the place of the row with its key. -/
theorem total_save (table : Table key) (row : ρ) (weight : ρ → Int) :
    (table.save row).total weight = table.total weight - table.column weight (key row) + weight row := by
  cases found : table.lookup (key row) with
  | none =>
    have absent := lookup_none.mp found
    have rows : (table.save row).rows = table.rows ++ [row] := if_neg absent
    rw [column, found, total, rows, total]
    simp only [List.map_append, List.sum_append, List.map_cons, List.map_nil, List.sum_cons, List.sum_nil, Option.map_none,
      Option.getD_none]
    omega
  | some old =>
    obtain ⟨mem, same⟩ := lookup_some found
    have present : key row ∈ table.rows.map key := List.mem_map.mpr ⟨old, mem, same⟩
    have rows : (table.save row).rows = table.rows.map fun other => if key other = key row then row else other :=
      if_pos present
    rw [column_of_lookup found, total, rows]
    exact sum_replace weight table.distinct mem same

theorem total_update (keeps : ∀ row, key (change row) = key row)
    (same : ∀ row, weight (change row) = weight row) (k : κ) : (table.update k change).total weight = table.total weight := by
  cases found : table.lookup k with
  | none => rw [update_of_none found]
  | some row =>
    have stored : table.lookup (key (change row)) = some row := by rw [keeps, (lookup_some found).2, found]
    rw [update_of_lookup found, total_save, column_of_lookup stored, same]
    omega

theorem total_delete_le (pos : ∀ row, 0 ≤ weight row) (k : κ) : (table.delete k).total weight ≤ table.total weight := by
  simp only [total, delete]
  induction table.rows with
  | nil => exact Int.le_refl _
  | cons row rest tail =>
    have weighs := pos row
    rw [List.filter_cons]
    split
    all_goals
      simp only [List.map_cons, List.sum_cons]
      omega

end Tokengine.Table
