import Mathlib.Data.List.Perm.Subperm
import Mathlib.Data.Rat.Floor

/-! The additional ratios of a task. They stand in a map, so that each loop over them has an order of its own, and the quota
is cut to a whole number after every step. -/

namespace Tokengine.Tasks.Ratios
open List

/-- `int` of a `float64`. -/
def toInt (val : Rat) : Int := val.num.tdiv val.den

def applyRatios (quota : Int) (ratios : List Rat) : Int :=
  ratios.foldl (fun quota ra => if ra ≠ 1 then toInt (quota * ra) else quota) quota

/-- The quota without the ratios, as the first loop of `recalcQuotaFromRatios` leaves it. -/
def divided (quota : Int) (otherRatios : List Rat) : Int :=
  otherRatios.foldl (fun quota ra => if ra ≠ 1 ∧ 0 < ra then toInt (quota / ra) else quota) quota

def recalcQuotaFromRatios (quota : Int) (otherRatios ratios : List Rat) : Int :=
  toInt (ratios.foldl (fun res ra => if ra ≠ 1 then res * ra else res) (divided quota otherRatios : Rat))

def product (ratios : List Rat) : Rat := ratios.foldr (· * ·) 1

def Whole (val : Rat) : Prop := ∃ quota : Int, val = quota

@[simp] theorem toInt_intCast (quota : Int) : toInt quota = quota := by
  simp [toInt]

theorem toInt_neg (val : Rat) : toInt (-val) = -toInt val := by
  simp [toInt, Int.neg_tdiv]

theorem toInt_cut (val : Rat) :
    |(toInt val : Rat)| ≤ |val| ∧ (|val| ≤ |(toInt val : Rat)| → (toInt val : Rat) = val) := by
  have cut : ∀ val : Rat, 0 ≤ val →
      |(toInt val : Rat)| ≤ |val| ∧ (|val| ≤ |(toInt val : Rat)| → (toInt val : Rat) = val) := by
    intro val nonneg
    have floor : toInt val = ⌊val⌋ := by
      rw [toInt, Rat.floor_def', Int.tdiv_eq_ediv_of_nonneg (Rat.num_nonneg.mpr nonneg)]
    have above : (0 : Rat) ≤ ⌊val⌋ := by exact_mod_cast Int.floor_nonneg.mpr nonneg
    rw [floor, abs_of_nonneg nonneg, abs_of_nonneg above]
    exact ⟨Int.floor_le val, le_antisymm (Int.floor_le val)⟩
  rcases le_total 0 val with nonneg | nonpos
  · exact cut val nonneg
  · have opposite := cut (-val) (neg_nonneg.mpr nonpos)
    rwa [toInt_neg, Int.cast_neg, abs_neg, abs_neg, neg_inj] at opposite

theorem toInt_of_whole {val : Rat} (whole : Whole val) : (toInt val : Rat) = val := by
  obtain ⟨quota, rfl⟩ := whole
  rw [toInt_intCast]

theorem apply_step (quota : Int) (ra : Rat) : (if ra ≠ 1 then toInt (quota * ra) else quota) = toInt (quota * ra) := by
  split
  · rfl
  next one => rw [not_not.mp one, mul_one, toInt_intCast]

theorem divide_step {ra : Rat} (pos : 0 < ra) (quota : Int) :
    (if ra ≠ 1 ∧ 0 < ra then toInt (quota / ra) else quota) = toInt (quota / ra) := by
  by_cases one : ra = 1
  · simp [one]
  · rw [if_pos ⟨one, pos⟩]

theorem product_perm {first second : List Rat} (same : first.Perm second) : product first = product second :=
  same.foldr_eq' (fun first _ second _ rest => mul_left_comm second first rest) 1

variable {ratios : List Rat}

theorem product_pos (pos : ∀ ra ∈ ratios, 0 < ra) : 0 < product ratios := by
  induction ratios with
  | nil => exact one_pos
  | cons ra rest tail =>
    exact mul_pos (pos ra mem_cons_self) (tail fun other mem => pos other (mem_cons_of_mem _ mem))

theorem applyRatios_exact {quota : Int} {order : List Rat}
    (whole : ∀ part rest, order = part ++ rest → Whole (quota * product part)) :
    (applyRatios quota order : Rat) = quota * product order := by
  induction order generalizing quota with
  | nil => exact (mul_one _).symm
  | cons ra rest tail =>
    have first : (toInt (quota * ra) : Rat) = quota * ra := by
      apply toInt_of_whole
      simpa [product] using whole [ra] rest rfl
    have later := @tail (toInt (quota * ra)) fun part more split => by
      rw [first, mul_assoc]
      exact whole (ra :: part) more (congrArg (ra :: ·) split)
    rw [applyRatios, foldl_cons, apply_step]
    refine later.trans ?_
    rw [first, mul_assoc]
    rfl

theorem divided_cons {ra : Rat} (pos : 0 < ra) (quota : Int) (rest : List Rat) :
    divided quota (ra :: rest) = divided (toInt (quota / ra)) rest := by
  rw [divided, foldl_cons, divide_step pos, divided]

/-- Dividing never leaves more than there was, and the quota comes back iff every quotient on the way is whole. -/
theorem divided_product {order : List Rat} (pos : ∀ ra ∈ order, 0 < ra) (quota : Int) :
    |(divided quota order : Rat)| * product order ≤ |(quota : Rat)| ∧
      (divided quota order * product order = quota ↔ ∀ part rest, order = part ++ rest → Whole (quota / product part)) := by
  induction order generalizing quota with
  | nil =>
    refine ⟨(mul_one _).le, fun _ part rest split => ?_, fun _ => mul_one _⟩
    obtain ⟨rfl, rfl⟩ := append_eq_nil_iff.mp split.symm
    exact ⟨quota, div_one _⟩
  | cons ra rest tail =>
    have ra_pos := pos ra mem_cons_self
    have rest_pos := product_pos fun other mem => pos other (mem_cons_of_mem ra mem)
    obtain ⟨bound, exact_iff⟩ := tail (fun other mem => pos other (mem_cons_of_mem _ mem)) (toInt (quota / ra))
    obtain ⟨cut, kept⟩ := toInt_cut (quota / ra)
    have scaled : |(quota : Rat)| = |(quota : Rat) / ra| * ra := by
      rw [abs_div, abs_of_pos ra_pos, div_mul_cancel₀ _ ra_pos.ne']
    have step : toInt (quota / ra) = (quota : Rat) / ra →
        (divided (toInt (quota / ra)) rest * product rest = toInt (quota / ra) ↔
          divided (toInt (quota / ra)) rest * (ra * product rest) = (quota : Rat)) := fun same => by
      rw [same, eq_div_iff ra_pos.ne']
      ring_nf
    rw [divided_cons ra_pos]
    change |(divided _ rest : Rat)| * (ra * product rest) ≤ _ ∧ ((divided _ rest : Rat) * (ra * product rest) = _ ↔ _)
    refine ⟨?_, fun same part more split => ?_, fun whole => ?_⟩
    · calc |(divided (toInt (quota / ra)) rest : Rat)| * (ra * product rest)
          = |(divided (toInt (quota / ra)) rest : Rat)| * product rest * ra := by ring
        _ ≤ |(quota : Rat) / ra| * ra := mul_le_mul_of_nonneg_right (bound.trans cut) ra_pos.le
        _ = |(quota : Rat)| := scaled.symm
    · have first : (toInt (quota / ra) : Rat) = quota / ra := by
        apply kept
        have size := congrArg abs same
        rw [abs_mul, abs_of_pos (mul_pos ra_pos rest_pos), scaled] at size
        nlinarith
      cases part with
      | nil => exact ⟨quota, div_one _⟩
      | cons head part =>
        obtain ⟨rfl, later⟩ := List.cons.inj split
        have whole := exact_iff.mp ((step first).mpr same) part more later
        rwa [first, div_div] at whole
    · have first : (toInt (quota / ra) : Rat) = quota / ra := by
        apply toInt_of_whole
        simpa [product] using whole [ra] rest rfl
      refine (step first).mp (exact_iff.mpr fun part more split => ?_)
      rw [first, div_div]
      exact whole (ra :: part) more (congrArg (ra :: ·) split)

theorem recalc_eq (quota : Int) (otherRatios ratios : List Rat) :
    recalcQuotaFromRatios quota otherRatios ratios = toInt (divided quota otherRatios * product ratios) := by
  have loop : ∀ val : Rat, ratios.foldl (fun res ra => if ra ≠ 1 then res * ra else res) val =
      val * product ratios := by
    induction ratios with
    | nil => exact fun val => (mul_one val).symm
    | cons ra rest tail =>
      intro val
      have step : (if ra ≠ 1 then val * ra else val) = val * ra := by
        by_cases one : ra = 1
        · simp [one]
        · rw [if_pos one]
      rw [foldl_cons, step, tail, mul_assoc]
      rfl
  rw [recalcQuotaFromRatios, loop]

theorem ratios_exact_iff (pos : ∀ ra ∈ ratios, 0 < ra) :
    (∀ quota : Int, (∀ part, part.Subperm ratios → Whole (quota * product part)) →
      ∀ order, order.Perm ratios → applyRatios quota order = applyRatios quota ratios) ∧
    ∀ quota : Int, (∀ order again, order.Perm ratios → again.Perm ratios → recalcQuotaFromRatios quota order again = quota) ↔
      ∀ part, part.Subperm ratios → Whole (quota / product part) := by
  constructor
  · intro quota whole
    have exact_in : ∀ order, order.Perm ratios → (applyRatios quota order : Rat) = quota * product ratios := by
      intro order same
      rw [← product_perm same]
      apply applyRatios_exact
      rintro part rest rfl
      exact whole part ((sublist_append_left part rest).subperm.trans same.subperm)
    intro order same
    exact_mod_cast (exact_in order same).trans (exact_in ratios (.refl _)).symm
  · intro quota
    have each : ∀ order again, order.Perm ratios → again.Perm ratios → (recalcQuotaFromRatios quota order again = quota ↔
        ∀ part rest, order = part ++ rest → Whole (quota / product part)) := by
      intro order again same same'
      obtain ⟨bound, exact_iff⟩ := divided_product (fun ra mem => pos ra (same.mem_iff.mp mem)) quota
      rw [recalc_eq, product_perm same', ← product_perm same, ← exact_iff]
      constructor
      · intro returned
        have cut := (toInt_cut (divided quota order * product order)).2
        rw [returned, abs_mul, abs_of_pos (product_pos fun ra mem => pos ra (same.mem_iff.mp mem))] at cut
        exact (cut bound).symm
      · intro whole
        rw [whole, toInt_intCast]
    constructor
    · intro all part within
      obtain ⟨sub, same, sublist⟩ := within
      obtain ⟨rest, whole⟩ := sublist.exists_perm_append
      rw [← product_perm same]
      exact (each (sub ++ rest) ratios whole.symm (.refl _)).mp (all _ _ whole.symm (.refl _)) sub rest rfl
    · intro whole order again same same'
      apply (each order again same same').mpr
      rintro part rest rfl
      exact whole part ((sublist_append_left part rest).subperm.trans same.subperm)

theorem doubled_ratio_exact : recalcQuotaFromRatios 4 [2] [2] = 4 := by
  apply ((@ratios_exact_iff [2] (by simp)).2 4).mpr _ _ _ (.refl _) (.refl _)
  rintro part ⟨sub, same, sublist⟩
  rcases sublist_singleton.mp sublist with rfl | rfl
  · exact ⟨4, by rw [← product_perm same]; norm_num [product]⟩
  · exact ⟨2, by rw [← product_perm same]; norm_num [product]⟩

theorem ratios_cut : applyRatios 1 [1 / 2, 2] = 0 ∧ applyRatios 1 [2, 1 / 2] = 1 ∧ applyRatios 1 [3 / 2] = 1 ∧
      recalcQuotaFromRatios 1 [3 / 2] [3 / 2] = 0 := by decide +kernel

end Tokengine.Tasks.Ratios
