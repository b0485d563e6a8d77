import Mathlib.Algebra.BigOperators.Group.List.Basic
import Mathlib.Algebra.Ring.Int.Defs
import Tokengine.Lib.Table

/-! Amounts collected under keys: a finite map to which amounts are added and which is taken
apart entry by entry, in any order. -/

namespace Tokengine
open Table

variable {κ : Type} [DecidableEq κ]

abbrev Deltas (κ : Type) [DecidableEq κ] : Type := Table (Prod.fst : κ × Int → κ)

namespace Deltas

def add (deltas : Deltas κ) (k : κ) (amount : Int) : Deltas κ :=
  match deltas.lookup k with
  | none => deltas.save (k, amount)
  | some entry => deltas.save (k, entry.2 + amount)

def total (deltas : Deltas κ) (k : κ) : Int := deltas.column Prod.snd k

def entriesTotal (entries : List (κ × Int)) (k : κ) : Int :=
  ((entries.filter fun entry => entry.1 = k).map Prod.snd).sum

theorem total_add (deltas : Deltas κ) (k k' : κ) (amount : Int) :
    (deltas.add k amount).total k' = deltas.total k' + if k' = k then amount else 0 := by
  unfold add total column
  by_cases same : k' = k
  · subst same
    cases found : deltas.lookup k' <;> simp
  · cases deltas.lookup k <;> simp [lookup_save, same]

@[simp]
theorem total_empty (k : κ) : total (Table.empty : Deltas κ) k = 0 := rfl

@[simp]
theorem entriesTotal_nil (k : κ) : entriesTotal [] k = 0 := rfl

theorem entriesTotal_cons (entry : κ × Int) (rest : List (κ × Int)) (k : κ) :
    entriesTotal (entry :: rest) k = (if k = entry.1 then entry.2 else 0) + entriesTotal rest k := by
  unfold entriesTotal
  by_cases same : k = entry.1
  · simp [same]
  · simp [same, Ne.symm same]

variable {entries : List (κ × Int)}

/-- Taking one entry out takes its amount out. -/
theorem entriesTotal_eraseIdx {i : Nat} {entry : κ × Int} (found : entries[i]? = some entry)
    (k : κ) : entriesTotal entries k = (if k = entry.1 then entry.2 else 0) + entriesTotal (entries.eraseIdx i) k := by
  induction entries generalizing i with
  | nil => cases found
  | cons first rest tail =>
    cases i with
    | zero =>
      cases found
      exact entriesTotal_cons entry rest k
    | succ i =>
      have later := tail found
      rw [List.eraseIdx_cons_succ, entriesTotal_cons, entriesTotal_cons, later]
      omega

theorem entriesTotal_absent {k : κ} (absent : k ∉ entries.map Prod.fst) : entriesTotal entries k = 0 := by
  have none : entries.filter (fun entry => entry.1 = k) = [] := by
    apply List.filter_eq_nil_iff.mpr
    intro entry listed same
    exact absent (of_decide_eq_true same ▸ List.mem_map_of_mem listed)
  rw [entriesTotal, none]
  rfl

/-- The entries of a map hold for each key what was collected under it. -/
theorem entriesTotal_rows (deltas : Deltas κ) (k : κ) : entriesTotal deltas.rows k = deltas.total k := by
  obtain ⟨rows, distinct⟩ := deltas
  unfold total column lookup
  induction rows with
  | nil => rfl
  | cons first rest tail =>
    obtain ⟨fresh, distinct'⟩ := List.nodup_cons.mp distinct
    rw [entriesTotal_cons]
    by_cases same : k = first.1
    · subst same
      rw [entriesTotal_absent fresh]
      simp
    · have other : ¬first.1 = k := fun hit => same hit.symm
      rw [if_neg same, tail distinct', List.find?_cons_of_neg (by simpa using other), Int.zero_add]

end Deltas

end Tokengine
