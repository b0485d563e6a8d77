import Mathlib.Data.List.Nodup

/-! Keyed tables. The rows of a table have distinct keys by construction, so that saving
a row touches one row and every other key keeps its answer. -/

namespace Tokengine
open List

variable {κ ρ : Type} [DecidableEq κ] {key : ρ → κ}

@[ext]
structure Table (key : ρ → κ) where
  rows : List ρ
  distinct : (rows.map key).Nodup

instance [DecidableEq ρ] : DecidableEq (Table key) := fun first second =>
  decidable_of_iff (first.rows = second.rows) Table.ext_iff.symm

namespace Table

def empty : Table key := ⟨[], nodup_nil⟩

/-- `SELECT … WHERE key = k LIMIT 1`. -/
def lookup (table : Table key) (k : κ) : Option ρ :=
  table.rows.find? (fun row => decide (key row = k))

def saveRows (key : ρ → κ) (rows : List ρ) (row : ρ) : List ρ :=
  if key row ∈ rows.map key then rows.map (fun other => if key other = key row then row else other)
  else rows ++ [row]

theorem map_key_replace (rows : List ρ) (row : ρ) :
    (rows.map (fun other => if key other = key row then row else other)).map key = rows.map key := by
  rw [map_map]
  apply map_congr_left
  intro other _
  by_cases same : key other = key row <;> simp [same]

theorem saveRows_nodup (rows : List ρ) (row : ρ) (distinct : (rows.map key).Nodup) :
    ((saveRows key rows row).map key).Nodup := by
  unfold saveRows
  split
  · rw [map_key_replace]; exact distinct
  next absent =>
  rw [map_append, nodup_append]
  refine ⟨distinct, by simp, ?_⟩
  intro k mem k' member' same
  simp only [map_cons, map_nil, mem_singleton] at member'
  exact absent (member' ▸ same ▸ mem)

/-- `INSERT … ON CONFLICT DO UPDATE`: every column of the row is written back. -/
def save (table : Table key) (row : ρ) : Table key :=
  ⟨saveRows key table.rows row, saveRows_nodup _ _ table.distinct⟩

/-- `UPDATE … SET … WHERE key = k`: no row, no effect. -/
def update (table : Table key) (k : κ) (change : ρ → ρ) : Table key :=
  match table.lookup k with
  | some row => table.save (change row)
  | none => table

variable {k : κ} {row : ρ}

variable {table : Table key}

theorem lookup_some (found : table.lookup k = some row) : row ∈ table.rows ∧ key row = k :=
  ⟨mem_of_find?_eq_some found, by simpa using find?_some found⟩

theorem lookup_none : table.lookup k = none ↔ k ∉ table.rows.map key := by
  simp [lookup]

theorem lookup_of_mem (mem : row ∈ table.rows) : table.lookup (key row) = some row := by
  cases found : table.lookup (key row) with
  | none => exact absurd (mem_map_of_mem mem) (lookup_none.mp found)
  | some other =>
    have ⟨present, same⟩ := lookup_some found
    rw [inj_on_of_nodup_map table.distinct present mem same]

variable {other : ρ}

theorem mem_save : other ∈ (table.save row).rows ↔ other = row ∨ (other ∈ table.rows ∧ key other ≠ key row) := by
  simp only [save, saveRows]
  split
  next present =>
    obtain ⟨old, mem, same⟩ := mem_map.mp present
    simp only [mem_map]
    constructor
    · rintro ⟨third, memberThird, rfl⟩
      by_cases replaced : key third = key row
      · simp [replaced]
      · simp [replaced, memberThird]
    · rintro (rfl | ⟨memberOther, ne⟩)
      · exact ⟨old, mem, by simp [same]⟩
      · exact ⟨other, memberOther, by simp [ne]⟩
  next absent =>
  have fresh : ∀ third ∈ table.rows, key third ≠ key row :=
    fun third mem same => absent (mem_map.mpr ⟨third, mem, same⟩)
  simp only [mem_append, mem_singleton]
  constructor
  · rintro (mem | rfl)
    · exact Or.inr ⟨mem, fresh _ mem⟩
    · exact Or.inl rfl
  · rintro (rfl | ⟨mem, _⟩)
    · exact Or.inr rfl
    · exact Or.inl mem

/-- Saving a row answers its own key and leaves every other key alone. -/
theorem lookup_save (table : Table key) (row : ρ) (k : κ) :
    (table.save row).lookup k = if k = key row then some row else table.lookup k := by
  split
  next same =>
    subst same
    exact lookup_of_mem (mem_save.mpr (Or.inl rfl))
  next ne =>
  cases found : table.lookup k with
  | none =>
    rw [lookup_none] at found ⊢
    intro present
    obtain ⟨other, mem, same⟩ := mem_map.mp present
    rcases mem_save.mp mem with rfl | ⟨old, _⟩
    · exact ne same.symm
    · exact found (mem_map.mpr ⟨other, old, same⟩)
  | some other =>
    obtain ⟨mem, rfl⟩ := lookup_some found
    exact lookup_of_mem (mem_save.mpr (Or.inr ⟨mem, ne⟩))

@[simp]
theorem lookup_save_self (table : Table key) (row : ρ) : (table.save row).lookup (key row) = some row := by
  rw [lookup_save, if_pos rfl]

theorem lookup_save_of_ne (ne : k ≠ key row) (table : Table key) : (table.save row).lookup k = table.lookup k := by
  rw [lookup_save, if_neg ne]

theorem save_self (present : table.lookup (key row) = some row) : table.save row = table := by
  obtain ⟨mem, _⟩ := lookup_some present
  ext1
  simp only [save, saveRows, if_pos (mem_map_of_mem mem)]
  calc
    _ = table.rows.map id := by
      apply map_congr_left
      intro other memberOther
      split
      next same => exact (inj_on_of_nodup_map table.distinct memberOther mem same).symm
      · rfl
    _ = table.rows := map_id _

/-- The later of two saves of one key wins. -/
theorem save_save (table : Table key) (first second : ρ) (same : key second = key first) :
    (table.save first).save second = table.save second := by
  ext1
  by_cases present : key first ∈ table.rows.map key
  · simp only [save, saveRows, same, if_pos present]
    rw [map_key_replace, if_pos present, map_map]
    apply map_congr_left
    intro other _
    by_cases hit : key other = key first <;> simp [hit]
  · have kept : ∀ other ∈ table.rows, ¬key other = key first :=
      fun other mem hit => present (mem_map.mpr ⟨other, mem, hit⟩)
    simp only [save, saveRows, same, if_neg present]
    rw [if_pos (by simp), map_append]
    congr 1
    · calc
        _ = table.rows.map id := map_congr_left (fun other mem => by simp [kept other mem])
        _ = table.rows := map_id _
    · simp

theorem update_of_lookup (found : table.lookup k = some row) (change : ρ → ρ) :
    table.update k change = table.save (change row) := by
  rw [update, found]

theorem update_of_none (missing : table.lookup k = none) (change : ρ → ρ) : table.update k change = table := by
  rw [update, missing]

section Update

variable (change : ρ → ρ) (keeps : ∀ row, key (change row) = key row)
include keeps

theorem lookup_update (table : Table key) (k k' : κ) :
    (table.update k change).lookup k' = if k' = k then (table.lookup k).map change else table.lookup k' := by
  cases found : table.lookup k with
  | none =>
    rw [update_of_none found]
    split
    next same => rw [same, found]; rfl
    · rfl
  | some row =>
    have same := (lookup_some found).2
    rw [update_of_lookup found, lookup_save, keeps, same]
    rfl

theorem isSome_lookup_update (table : Table key) (k k' : κ) :
    ((table.update k change).lookup k').isSome = (table.lookup k').isSome := by
  rw [lookup_update change keeps]
  split
  next same => rw [same, Option.isSome_map]
  · rfl

/-- A change shows only in what it changes. -/
theorem map_lookup_update_same {α : Type} {val : ρ → α} (same : ∀ row, val (change row) = val row) (table : Table key)
    (k k' : κ) : ((table.update k change).lookup k').map val = (table.lookup k').map val := by
  rw [lookup_update change keeps]
  split
  next here =>
    rw [here, Option.map_map]
    exact congrArg (Option.map · _) (funext same)
  · rfl

theorem update_update (table : Table key) (k : κ) (again : ρ → ρ) (keepsAgain : ∀ row, key (again row) = key row) :
    (table.update k change).update k again = table.update k (again ∘ change) := by
  cases found : table.lookup k with
  | none => rw [update_of_none found, update_of_none found, update_of_none found]
  | some row =>
    have changed : (table.update k change).lookup k = some (change row) := by
      rw [lookup_update change keeps, if_pos rfl, found]
      rfl
    rw [update_of_lookup changed, update_of_lookup found, update_of_lookup found,
      save_save _ _ _ (by rw [keepsAgain])]
    rfl

end Update

/-- Rows with other keys do not touch a row. -/
theorem lookup_saves {rows : List ρ} (others : ∀ row ∈ rows, key row ≠ k) (table : Table key) :
    (rows.foldl save table).lookup k = table.lookup k := by
  induction rows generalizing table with
  | nil => rfl
  | cons row rest tail =>
    rw [foldl_cons, tail (fun other mem => others other (mem_cons_of_mem _ mem)), lookup_save,
      if_neg (others row mem_cons_self).symm]

def column (table : Table key) (val : ρ → Int) (k : κ) : Int := ((table.lookup k).map val).getD 0

theorem column_of_lookup (found : table.lookup k = some row) (val : ρ → Int) : table.column val k = val row := by
  rw [column, found]
  rfl

section

variable (change : ρ → ρ) {val : ρ → Int} {amount : Int} (keeps : ∀ row, key (change row) = key row) (adds : ∀ row, val (change row) = val row + amount)
include change keeps adds

/-- Adding to a column of an existing row moves that column of that row alone. -/
theorem column_update (present : (table.lookup k).isSome) (k' : κ) :
    (table.update k change).column val k' = table.column val k' + if k' = k then amount else 0 := by
  obtain ⟨row, found⟩ := Option.isSome_iff_exists.mp present
  rw [column, column, lookup_update change keeps]
  by_cases same : k' = k
  · simp [same, found, adds]
  · simp [same]

/-- The same for the column as a query sees it, without a row included. -/
theorem map_lookup_update (k' : κ) : ((table.update k change).lookup k').map val =
      ((table.lookup k').map val).map (· + if k' = k then amount else 0) := by
  rw [lookup_update change keeps]
  by_cases same : k' = k
  · subst same
    cases table.lookup k' with
    | none => simp
    | some row => simp [adds]
  · cases table.lookup k' <;> simp [same]

end

/-- `DELETE … WHERE key = k`. -/
def delete (table : Table key) (k : κ) : Table key :=
  ⟨table.rows.filter fun row => decide (key row ≠ k), table.distinct.sublist (filter_sublist.map _)⟩

theorem mem_delete : row ∈ (table.delete k).rows ↔ row ∈ table.rows ∧ key row ≠ k := by
  simp [delete, List.mem_filter]

/-- `UPDATE … SET …`: every row is changed, and keeps its key. -/
def modify (table : Table key) (change : ρ → ρ) (keeps : ∀ row, key (change row) = key row) : Table key :=
  ⟨table.rows.map change, by
    have same : key ∘ change = key := funext keeps
    rw [map_map, same]
    exact table.distinct⟩

omit [DecidableEq κ] in
theorem mem_modify {change : ρ → ρ} (keeps : ∀ row, key (change row) = key row) :
    row ∈ (table.modify change keeps).rows ↔ ∃ old ∈ table.rows, change old = row := mem_map

theorem lookup_modify {change : ρ → ρ} (keeps : ∀ row, key (change row) = key row) (table : Table key) (k : κ) :
    (table.modify change keeps).lookup k = (table.lookup k).map change := by
  simp only [lookup, modify, find?_map, Function.comp_def, keeps]

/-- `DELETE … WHERE`: the rows that stay. -/
def filter (table : Table key) (stays : ρ → Bool) : Table key :=
  ⟨table.rows.filter stays, table.distinct.sublist (filter_sublist.map _)⟩

omit [DecidableEq κ] in
theorem mem_filter {stays : ρ → Bool} :
    row ∈ (table.filter stays).rows ↔ row ∈ table.rows ∧ stays row = true := List.mem_filter

/-- Rows that are kept or dropped by their key. -/
theorem lookup_filter (keeps : κ → Bool) (table : Table key) (k : κ) :
    (table.filter fun row => keeps (key row)).lookup k = if keeps k = true then table.lookup k else none := by
  simp only [lookup, filter, find?_filter]
  split
  next kept =>
    congr 1
    funext row
    by_cases same : key row = k
    · simp [same, kept]
    · simp [same]
  next dropped =>
  rw [find?_eq_none]
  intro row _
  by_cases same : key row = k
  · simp [same, dropped]
  · simp [same]

theorem lookup_delete (table : Table key) (k k' : κ) : (table.delete k).lookup k' = if k' = k then none else table.lookup k' := by
  have filtered := lookup_filter (fun key => decide (key ≠ k)) table k'
  rw [show table.delete k = table.filter fun row => decide (key row ≠ k) from rfl, filtered]
  by_cases same : k' = k <;> simp [same]

/-- `INSERT … ON CONFLICT DO NOTHING`. -/
def insertAbsent (table : Table key) (row : ρ) : Table key :=
  match table.lookup (key row) with
  | some _ => table
  | none => table.save row

theorem mem_insertAbsent :
    other ∈ (table.insertAbsent row).rows ↔ other ∈ table.rows ∨ other = row ∧ table.lookup (key row) = none := by
  unfold insertAbsent
  split
  next found => simp [found]
  next absent =>
  have missing : ∀ old ∈ table.rows, key old ≠ key row := fun old mem same =>
    lookup_none.mp absent (same ▸ mem_map_of_mem mem)
  rw [mem_save]
  constructor
  · rintro (rfl | ⟨mem, _⟩)
    · exact .inr ⟨rfl, absent⟩
    · exact .inl mem
  · rintro (mem | ⟨rfl, _⟩)
    · exact .inr ⟨mem, missing other mem⟩
    · exact .inl rfl

/-- Rows of distinct keys that the table does not have are all inserted. -/
theorem mem_insertAll {rows : List ρ} (distinct : (rows.map key).Nodup)
    (absent : ∀ row ∈ rows, table.lookup (key row) = none) :
    other ∈ (rows.foldl insertAbsent table).rows ↔ other ∈ table.rows ∨ other ∈ rows := by
  induction rows generalizing table with
  | nil => simp
  | cons row rest tail =>
    rw [map_cons, nodup_cons] at distinct
    have first := absent row mem_cons_self
    have later : ∀ next ∈ rest, (table.insertAbsent row).lookup (key next) = none := by
      intro next mem
      have ne : key next ≠ key row := fun same => distinct.1 (same ▸ mem_map_of_mem mem)
      simp only [insertAbsent, first]
      rw [lookup_save_of_ne ne]
      exact absent next (mem_cons_of_mem _ mem)
    rw [foldl_cons, tail distinct.2 later, mem_insertAbsent, mem_cons, or_assoc]
    simp [first]

theorem update_id (table : Table key) (k : κ) : table.update k id = table := by
  cases found : table.lookup k with
  | none => exact update_of_none found _
  | some row =>
    rw [update_of_lookup found]
    exact save_self (by rw [id, (lookup_some found).2, found])

end Table

def chunksWithin {α : Type} (size : Nat) : Nat → List α → List (List α)
  | 0, _ => []
  | _ + 1, [] => []
  | fuel + 1, item :: rest => (item :: rest).take size :: chunksWithin size fuel ((item :: rest).drop size)

/-- `lo.Chunk`. -/
def chunk {α : Type} (size : Nat) (items : List α) : List (List α) := chunksWithin size items.length items

theorem flatten_chunksWithin {α : Type} {size : Nat} (pos : 0 < size) {fuel : Nat} {items : List α}
    (enough : items.length ≤ fuel) : (chunksWithin size fuel items).flatten = items := by
  induction fuel generalizing items with
  | zero =>
    cases length_eq_zero_iff.mp (Nat.le_zero.mp enough)
    rfl
  | succ fuel tail =>
    cases items with
    | nil => rfl
    | cons item rest =>
      have shorter : ((item :: rest).drop size).length ≤ fuel := by
        rw [length_drop]
        simp only [length_cons] at enough ⊢
        omega
      rw [chunksWithin, flatten_cons, tail shorter, take_append_drop]

theorem flatten_chunk {α : Type} {size : Nat} (pos : 0 < size) (items : List α) :
    (chunk size items).flatten = items := flatten_chunksWithin pos Nat.le.refl

end Tokengine
