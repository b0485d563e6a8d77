import Mathlib.Data.List.Dedup
import Tokengine.Lib.Lots
import Tokengine.Channels.Cache

/-! How often each channel of the chosen priority is drawn. With the memory cache the numbers that draw a channel are in
proportion to its weight. `GetChannel` stops one number too late: the first ability has one number more than its
weight is worth, and the last one has one less. -/

namespace Tokengine.Channels.Draws
open Lots List

/-! ### With the memory cache -/

def sumWeight (targets : List Channel) : Nat := (targets.map Channel.getWeight).sum

def smoothing (targets : List Channel) : Nat × Nat :=
  if sumWeight targets = 0 then (1, 100) else if sumWeight targets / targets.length < 10 then (100, 0) else (1, 0)

def share (targets : List Channel) (ch : Channel) : Nat :=
  ch.getWeight * (smoothing targets).1 + (smoothing targets).2

/-- The numbers that may be drawn. -/
def numbers (targets : List Channel) : List Nat := range (total (share targets) targets)

theorem drawFrom_eq (factor adjustment : Nat) (channels : List Channel) (number : Nat) :
    drawFrom factor adjustment channels number =
      draw (fun ch => ch.getWeight * factor + adjustment) channels number := by
  induction channels generalizing number with
  | nil => rfl
  | cons ch rest tail =>
    simp only [drawFrom, draw]
    rw [tail]

theorem total_share (targets : List Channel) :
    total (share targets) targets = sumWeight targets * (smoothing targets).1 + targets.length * (smoothing targets).2 := by
  have smoothed : ∀ channels : List Channel, total (share targets) channels =
      sumWeight channels * (smoothing targets).1 + channels.length * (smoothing targets).2 := by
    intro channels
    induction channels with
    | nil => simp [total, sumWeight]
    | cons ch rest tail =>
      rw [total, map_cons, sum_cons, ← total, tail, share, sumWeight, sumWeight, map_cons, sum_cons,
        length_cons, Nat.add_mul, Nat.add_mul]
      omega
  exact smoothed targets

theorem drawByWeight_eq (targets : List Channel) (random : Nat) :
    drawByWeight targets random = draw (share targets) targets (random % total (share targets) targets) := by
  rw [total_share]
  unfold share smoothing sumWeight drawByWeight
  dsimp only
  split
  next none => rw [drawFrom_eq, none, Nat.zero_mul, Nat.zero_add]
  · split <;> simp only [drawFrom_eq, Nat.mul_zero, Nat.add_zero, Nat.mul_one]

theorem total_pos {targets : List Channel} (nonempty : targets ≠ []) : 0 < total (share targets) targets := by
  have length := length_pos_iff.mpr nonempty
  rw [total_share]
  unfold smoothing
  split
  · simp only; omega
  next some => split <;> simp only <;> omega

theorem cachedChannels_eq {cache : Cache} {ids : List Int} (exist : ∀ id ∈ ids, (cache.channelsIDM.lookup id).isSome = true) :
    cachedChannels cache ids = .ok (ids.filterMap cache.channelsIDM.lookup) := by
  induction ids with
  | nil => rfl
  | cons id rest tail =>
    obtain ⟨ch, found⟩ := Option.isSome_iff_exists.mp (exist id mem_cons_self)
    rw [cachedChannels, found, tail fun other mem => exist other (mem_cons_of_mem _ mem), filterMap_cons, found]
    rfl

theorem exists_tiers (channels : List Channel) : ∃ tiers : List Int, tiers.Pairwise (· > ·) ∧
      (∀ priority, priority ∈ tiers ↔ ∃ ch ∈ channels, ch.getPriority = priority) ∧
      ∀ retry, targetPriority channels retry = tiers.getD (min retry (tiers.length - 1)) 0 := by
  refine ⟨(channels.map Channel.getPriority).dedup.insertionSort fun first second => second ≤ first, ?_,
    fun priority => ?_, fun _ => rfl⟩
  · have sorted := pairwise_insertionSort (fun first second : Int => second ≤ first) (channels.map Channel.getPriority).dedup
    have nodup := (perm_insertionSort (fun first second : Int => second ≤ first) _).nodup_iff.mpr
      (nodup_dedup (channels.map Channel.getPriority))
    exact (sorted.and nodup).imp fun both => lt_of_le_of_ne both.1 both.2.symm
  · rw [mem_insertionSort, mem_dedup, mem_map]

def listed (cache : Cache) (group model : String) : List Channel :=
  (satisfying cache group model).filterMap cache.channelsIDM.lookup

def tier (channels : List Channel) (retry : Nat) : List Channel :=
  channels.filter fun ch => ch.getPriority = targetPriority channels retry

def targets (cache : Cache) (group model : String) (retry : Nat) : List Channel := tier (listed cache group model) retry

theorem tier_nonempty {channels : List Channel} (nonempty : channels ≠ []) (retry : Nat) : tier channels retry ≠ [] := by
  obtain ⟨tiers, _, members, target⟩ := exists_tiers channels
  obtain ⟨first, mem⟩ := exists_mem_of_ne_nil _ nonempty
  have pos := length_pos_of_mem ((members _).mpr ⟨first, mem, rfl⟩)
  have inside : min retry (tiers.length - 1) < tiers.length := by omega
  have chosen : targetPriority channels retry ∈ tiers := by
    rw [target, getD_eq_getElem?_getD, getElem?_eq_getElem inside]
    exact getElem_mem inside
  obtain ⟨ch, listed, same⟩ := (members _).mp chosen
  exact ne_nil_of_mem (mem_filter.mpr ⟨listed, decide_eq_true same⟩)

variable {cache : Cache} {group model : String} (several : 2 ≤ (satisfying cache group model).length)
  (exist : ∀ id ∈ satisfying cache group model, (cache.channelsIDM.lookup id).isSome = true)
include several exist

theorem chosen_by_draw (retry random : Nat) : ∃ ch ∈ targets cache group model retry,
      draw (share (targets cache group model retry)) (targets cache group model retry)
        (random % total (share (targets cache group model retry)) (targets cache group model retry)) = some ch ∧
      getRandomSatisfiedChannel cache group model retry random = .ok (some ch) := by
  have nonempty : listed cache group model ≠ [] := by
    intro none
    obtain ⟨id, mem⟩ := exists_mem_of_length_pos (Nat.lt_of_lt_of_le Nat.zero_lt_two several)
    obtain ⟨ch, found⟩ := Option.isSome_iff_exists.mp (exist id mem)
    have kept : ch ∈ listed cache group model := mem_filterMap.mpr ⟨id, mem, found⟩
    exact not_mem_nil (none ▸ kept)
  have targets := tier_nonempty nonempty retry
  obtain ⟨ch, mem, drawn⟩ := draw_some (Nat.mod_lt random (total_pos targets))
  refine ⟨ch, mem, drawn, ?_⟩
  have among : getRandomSatisfiedChannel cache group model retry random =
      chooseAmong group model retry random (listed cache group model) := by
    unfold getRandomSatisfiedChannel
    split
    next none => simp [none] at several
    next one => simp [one] at several
    · rw [cachedChannels_eq exist]; rfl
  rw [among]
  unfold chooseAmong
  dsimp only
  rw [← tier, if_neg targets, drawByWeight_eq, drawn]

/-- With the memory cache the choice never fails, it is made in the tier that `retry` points to, and each listing of a
channel has its weight in lots of one size. -/
theorem memory_draw_proportional (retry : Nat) : (∃ tiers : List Int, tiers.Pairwise (· > ·) ∧
      (∀ priority, priority ∈ tiers ↔ ∃ ch ∈ listed cache group model, ch.getPriority = priority) ∧
      ∀ ch ∈ targets cache group model retry, ch.getPriority = tiers.getD (min retry (tiers.length - 1)) 0) ∧
    (∀ random, ∃ ch ∈ targets cache group model retry,
      getRandomSatisfiedChannel cache group model retry random = .ok (some ch)) ∧
    ∃ lot, 0 < lot ∧ ∀ ch ∈ targets cache group model retry,
      ((numbers (targets cache group model retry)).countP fun random =>
        decide (getRandomSatisfiedChannel cache group model retry random = .ok (some ch))) =
      (targets cache group model retry).count ch *
        (if sumWeight (targets cache group model retry) = 0 then lot else ch.getWeight * lot) := by
  have drawn := chosen_by_draw several exist retry
  refine ⟨?_, fun random => ?_, ?_⟩
  · obtain ⟨tiers, decreasing, members, target⟩ := exists_tiers (listed cache group model)
    refine ⟨tiers, decreasing, members, fun ch mem => ?_⟩
    exact (of_decide_eq_true (mem_filter.mp mem).2).trans (target retry)
  · obtain ⟨ch, mem, _, chosen⟩ := drawn random
    exact ⟨ch, mem, chosen⟩
  generalize targets cache group model retry = targets at drawn ⊢
  have counted : ∀ ch, ((numbers targets).countP fun random =>
      decide (getRandomSatisfiedChannel cache group model retry random = .ok (some ch))) =
      targets.count ch * share targets ch := by
    intro ch
    rw [numbers, ← count_draw]
    refine countP_congr fun random within => ?_
    obtain ⟨other, _, draws, chooses⟩ := drawn random
    rw [Nat.mod_eq_of_lt (mem_range.mp within)] at draws
    simp [draws, chooses]
  by_cases none : sumWeight targets = 0
  · refine ⟨100, by decide, fun ch mem => ?_⟩
    have weightless : ch.getWeight = 0 := List.sum_eq_zero_iff_forall_eq_nat.mp none _ (mem_map_of_mem mem)
    rw [counted, if_pos none, share, smoothing, if_pos none, weightless, Nat.zero_mul, Nat.zero_add]
  · refine ⟨(smoothing targets).1, ?_, fun ch _ => ?_⟩
    · rw [smoothing, if_neg none]
      split <;> decide
    · rw [counted, if_neg none, share, smoothing, if_neg none]
      split <;> rfl

omit several exist

def pairCache : Cache where
  lists := fun _ => some fun _ => [1, 2]
  channelsIDM := (Table.empty.save { id := 1, weight := some 1 }).save { id := 2, weight := some 3 }

theorem pair_draw_proportional : ∃ ch ∈ targets pairCache "default" "m" 0,
    getRandomSatisfiedChannel pairCache "default" "m" 0 7 = .ok (some ch) :=
  (memory_draw_proportional (by decide) (by decide) 0).2.1 7

/-! ### In the database -/

/-- The loop of `GetChannel` over the abilities that it has found. -/
def choose {α : Type} (share : α → Nat) : List α → Int → Option α
  | [], _ => none
  | cand :: rest, weight =>
    if weight - share cand ≤ 0 then some cand else choose share rest (weight - share cand)

/-- The shares and their sum are within the range of `int`, so that `int(weightSum)` is the sum. -/
def abilityShare (ability : Ability) : Nat := ability.weight + 10

/-- The id that `GetChannel` looks up for a number of `GetRandomInt`. -/
def chosenChannelId (abilities : List Ability) (weight : Int) : Int :=
  ((choose abilityShare abilities weight).map Ability.channelId).getD 0

/-- The loop with the places of the abilities. -/
def chosenPlace (abilities : List Ability) (weight : Int) : Option (Ability × Nat) :=
  choose (fun place => abilityShare place.1) abilities.zipIdx weight

section Database

variable {α β : Type} {share : α → Nat}

theorem choose_map (f : β → α) (cands : List β) (weight : Int) :
    choose share (cands.map f) weight = (choose (fun cand => share (f cand)) cands weight).map f := by
  induction cands generalizing weight with
  | nil => rfl
  | cons cand rest tail =>
    simp only [map_cons, choose]
    split
    · rfl
    · exact tail _

theorem chosenChannelId_eq (abilities : List Ability) (weight : Int) :
    chosenChannelId abilities weight = ((chosenPlace abilities weight).map fun place => place.1.channelId).getD 0 := by
  rw [chosenChannelId, chosenPlace, ← zipIdx_map_fst 0 abilities, choose_map, Option.map_map, zipIdx_map_fst]
  rfl

theorem choose_eq_draw {cands : List α} (pos : ∀ cand, 0 < share cand) (number : Nat) :
    choose share cands number = draw share cands (number - 1) := by
  induction cands generalizing number with
  | nil => rfl
  | cons cand rest tail =>
    have least := pos cand
    rw [choose, draw]
    by_cases within : number ≤ share cand
    · rw [if_pos (by omega), if_pos (by omega)]
    · rw [if_neg (by omega), if_neg (by omega), ← Int.ofNat_sub (by omega), tail, Nat.sub_right_comm]

/-- The number 0 draws the first candidate once more, and the last number of the last candidate is never drawn. -/
theorem count_choose [DecidableEq α] (pos : ∀ cand, 0 < share cand) {first last : α} {cands : List α}
    (starts : cands.head? = some first) (ends : cands.getLast? = some last) (chosen : α) :
    ((range (total share cands)).countP fun number : Nat => decide (choose share cands number = some chosen)) +
        (if last = chosen then 1 else 0) = cands.count chosen * share chosen + if first = chosen then 1 else 0 := by
  obtain ⟨front, rfl⟩ := getLast?_eq_some_iff.mp ends
  have least := pos last
  have size : total share (front ++ [last]) = total share front + (share last - 1) + 1 := by
    simp only [total, map_append, sum_append, map_singleton, sum_singleton]
    omega
  have drawsLast : draw share (front ++ [last]) (total share front + (share last - 1)) = some last := by
    rw [draw_append, draw, if_pos (by omega)]
  have drawsFirst : draw share (front ++ [last]) 0 = some first := by
    cases cands : front ++ [last] with
    | nil => simp at cands
    | cons cand rest =>
      rw [cands] at starts
      rw [draw, if_pos (pos cand)]
      exact starts
  have shifted : ∀ size, (((range size).map Nat.succ).countP fun number : Nat =>
      decide (choose share (front ++ [last]) number = some chosen)) =
        (range size).countP fun number => decide (draw share (front ++ [last]) number = some chosen) := by
    intro size
    rw [countP_map]
    refine countP_congr fun number _ => ?_
    simp [choose_eq_draw pos]
  have all := @count_draw α share _ (front ++ [last]) chosen
  rw [size, range_succ, countP_append, countP_singleton, drawsLast] at all
  rw [size, range_succ_eq_map, countP_cons, shifted, choose_eq_draw pos 0, drawsFirst]
  simp only [Option.some_inj, decide_eq_true_eq] at all ⊢
  omega

/-- The numbers that choose an ability are worth its weight, for every ability, iff there is only one. -/
theorem database_draw_exact_iff {abilities : List Ability} (nonempty : abilities ≠ []) :
    (∀ place ∈ abilities.zipIdx, ((range (total abilityShare abilities)).countP fun weight : Nat =>
      decide (chosenPlace abilities weight = some place)) = place.1.weight + 10) ↔ abilities.length = 1 := by
  have nodup : abilities.zipIdx.Nodup := .of_map Prod.snd (by rw [zipIdx_map_snd]; exact nodup_range')
  have sizes : total (fun place => abilityShare place.1) abilities.zipIdx = total abilityShare abilities := by
    rw [total, total, ← zipIdx_map_fst 0 abilities, map_map, zipIdx_map_fst]
    rfl
  have filled : abilities.zipIdx ≠ [] := fun none => nonempty (zipIdx_eq_nil_iff.mp none)
  obtain ⟨first, starts⟩ := Option.ne_none_iff_exists'.mp (mt head?_eq_none_iff.mp filled)
  obtain ⟨last, ends⟩ := Option.ne_none_iff_exists'.mp (mt getLast?_eq_none_iff.mp filled)
  have counted : ∀ place ∈ abilities.zipIdx, ((range (total abilityShare abilities)).countP fun weight : Nat =>
      decide (chosenPlace abilities weight = some place)) + (if last = place then 1 else 0) =
        place.1.weight + 10 + if first = place then 1 else 0 := by
    intro place mem
    have counts := @count_choose _ (fun place => abilityShare place.1) _
      (fun place => Nat.succ_pos _) first last _ starts ends place
    rw [@List.count_eq_one_of_mem _ instBEqOfDecidableEq _ _ _ nodup mem, Nat.one_mul, sizes] at counts
    exact counts
  have mem : first ∈ abilities.zipIdx := mem_of_mem_head? starts
  constructor
  · intro worth
    have counts := counted first mem
    rw [worth first mem, if_pos rfl] at counts
    obtain ⟨front, split⟩ := getLast?_eq_some_iff.mp ends
    rw [← length_zipIdx (l := abilities) (i := 0), split]
    cases front with
    | nil => rfl
    | cons other rest =>
      rw [split] at starts nodup
      cases starts
      have same : last = first := by
        by_contra ne
        simp [ne] at counts
      simp [same] at nodup
  · intro single place found
    obtain ⟨ability, rfl⟩ := length_eq_one_iff.mp single
    have counts := counted place found
    cases starts
    cases ends
    exact Nat.add_right_cancel counts

theorem single_ability_exact :
    ((range 15).countP fun weight : Nat => decide (chosenPlace [⟨"default", "m", 1, true, 0, 5, none⟩] weight =
      some (⟨"default", "m", 1, true, 0, 5, none⟩, 0))) = 15 :=
  (database_draw_exact_iff (cons_ne_nil _ _)).mpr rfl _ mem_cons_self

/-- Of two abilities without weight, one is chosen by eleven numbers and the other by nine. -/
theorem first_ability_preferred : ((range 20).countP fun weight : Nat => decide (chosenChannelId
      [⟨"default", "m", 1, true, 0, 0, none⟩, ⟨"default", "m", 2, true, 0, 0, none⟩] weight = 1)) = 11 ∧
    ((range 20).countP fun weight : Nat => decide (chosenChannelId
      [⟨"default", "m", 1, true, 0, 0, none⟩, ⟨"default", "m", 2, true, 0, 0, none⟩] weight = 2)) = 9 := by decide

end Database

end Tokengine.Channels.Draws
