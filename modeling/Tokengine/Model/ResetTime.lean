import Tokengine.Lib.Text
import Tokengine.Model.Database

/-! When the quota of a subscription is reset. Times are Unix seconds; the local time zone
has a fixed offset. -/

namespace Tokengine.Model.ResetTime
open Database

inductive ResetPeriod where
  | never
  | daily
  | weekly
  | monthly
  | custom
  deriving DecidableEq

def normalizeResetPeriod (period : String) : ResetPeriod :=
  match Text.trimSpace period with
  | "daily" => .daily
  | "weekly" => .weekly
  | "monthly" => .monthly
  | "custom" => .custom
  | _ => .never

def secondsPerDay : Int := 86400

def localDay (utcOffset time : Int) : Int := (time + utcOffset) / secondsPerDay

def startOfDay (utcOffset day : Int) : Int := day * secondsPerDay - utcOffset

/-- `Time.Weekday`: Sunday is 0, and 1970-01-01 was a Thursday. -/
def weekday (day : Int) : Int := (day + 4) % 7

structure MarchDate where
  year : Int
  /-- March is 0. -/
  month : Int

def marchDate (day : Int) : MarchDate :=
  let shifted := day + 719468
  let era := shifted / 146097
  let dayOfEra := shifted % 146097
  let yearOfEra := (dayOfEra - dayOfEra / 1460 + dayOfEra / 36524 - dayOfEra / 146096) / 365
  let dayOfYear := dayOfEra - (365 * yearOfEra + yearOfEra / 4 - yearOfEra / 100)
  ⟨era * 400 + yearOfEra, (5 * dayOfYear + 2) / 153⟩

def firstOfMonth (date : MarchDate) : Int :=
  let year := date.year + date.month / 12
  let month := date.month % 12
  365 * year + year / 4 - year / 100 + year / 400 + (153 * month + 2) / 5 - 719468

/-- `int64` arithmetic wraps around. -/
def wrap64 (val : Int) : Int := (BitVec.ofInt 64 val).toInt

def nanosPerSecond : Int := 1000000000

/-- The next reset after `base`; 0 means that there is none. -/
def calcNextResetTime (utcOffset base : Int) (plan : SubscriptionPlan) (endUnix : Int) : Int :=
  let day := localDay utcOffset base
  let bounded (next : Int) := if endUnix > 0 ∧ next > endUnix then 0 else next
  match normalizeResetPeriod plan.quotaResetPeriod with
  | .never => 0
  | .daily => bounded (startOfDay utcOffset (day + 1))
  | .weekly =>
    let weekday := if weekday day = 0 then 7 else weekday day
    bounded (startOfDay utcOffset (day + (8 - weekday)))
  | .monthly =>
    let date := marchDate day
    bounded (startOfDay utcOffset (firstOfMonth { date with month := date.month + 1 }))
  | .custom =>
    if plan.quotaResetCustomSeconds ≤ 0 then 0
    else bounded (base + wrap64 (plan.quotaResetCustomSeconds * nanosPerSecond) / nanosPerSecond)

example : calcNextResetTime 0 1709164800 ⟨1, "", " monthly ", 0, .quota⟩ 0 = 1709251200 := by decide

/-- The rounds of `for next > 0 && next <= now`: the last base, the time after it and whether any
round was made. `none` stands for a loop that is still running after the given number of rounds. -/
def advance (following : Int → Int) (now : Int) : Nat → Int → Int → Bool → Option (Int × Int × Bool)
  | 0, _, _, _ => none
  | rounds + 1, base, next, advanced =>
    if 0 < next ∧ next ≤ now then advance following now rounds next (following next) true
    else some (base, next, advanced)

def resetNeverEnds : String := "reset loop does not end"

/-- The row that `maybeResetUserSubscriptionWithPlanTx` saves, if it saves one. A loop that does
not end is reported as an error. -/
def dueReset (utcOffset now : Int) (plan : SubscriptionPlan) (sub : UserSubscription) :
    Except String (Option UserSubscription) :=
  if 0 < sub.nextResetTime ∧ now < sub.nextResetTime then .ok none
  else if normalizeResetPeriod plan.quotaResetPeriod = .never then .ok none
  else
    let base := if sub.lastResetTime ≤ 0 then sub.startTime else sub.lastResetTime
    let following := fun time => calcNextResetTime utcOffset time plan sub.endTime
    match advance following now ((now - base).toNat + base.toNat + 2) base (following base) false with
    | none => .error resetNeverEnds
    | some (base, next, false) =>
      if sub.nextResetTime = 0 ∧ 0 < next then
        .ok (some { sub with nextResetTime := next, lastResetTime := base })
      else .ok none
    | some (base, next, true) =>
      .ok (some { sub with amountUsed := 0, lastResetTime := base, nextResetTime := next })

def ResetOf (sub later : UserSubscription) : Prop :=
  ∃ used last next, later = { sub with amountUsed := used, lastResetTime := last, nextResetTime := next } ∧
    (used = sub.amountUsed ∨ used = 0)

theorem ResetOf.refl (sub : UserSubscription) : ResetOf sub sub :=
  ⟨sub.amountUsed, sub.lastResetTime, sub.nextResetTime, rfl, Or.inl rfl⟩

variable {sub later : UserSubscription}

theorem ResetOf.id_eq (reset : ResetOf sub later) : later.id = sub.id := by
  obtain ⟨_, _, _, rfl, _⟩ := reset
  rfl

variable {utcOffset now : Int} {plan : SubscriptionPlan}

theorem dueReset_resetOf (due : dueReset utcOffset now plan sub = .ok (some later)) : ResetOf sub later := by
  unfold dueReset at due
  split at due
  · cases due
  split at due
  · cases due
  dsimp only at due
  split at due
  · cases due
  next base next _ =>
    split at due
    · cases due
      exact ⟨_, base, next, rfl, Or.inl rfl⟩
    · cases due
  next base next _ =>
    cases due
    exact ⟨0, base, next, rfl, Or.inr rfl⟩

/-- The loop ends at a time that is not due. If it has made a round, the base is a time that was due. -/
theorem advance_ends {following : Int → Int} {rounds : Nat} {base base' next' : Int} {advanced advanced' : Bool}
    (ends : advance following now rounds base (following base) advanced = some (base', next', advanced')) :
    next' = following base' ∧ ¬(0 < next' ∧ next' ≤ now) ∧
      (base' = base ∧ advanced' = advanced ∨ 0 < base' ∧ advanced' = true ∧ 0 < following base ∧ following base ≤ now) := by
  induction rounds generalizing base advanced with
  | zero => cases ends
  | succ rounds tail =>
    unfold advance at ends
    split at ends
    next due =>
      obtain ⟨same, ended, ⟨rfl, rfl⟩ | ⟨pos, rfl, _⟩⟩ := tail ends
      · exact ⟨same, ended, Or.inr ⟨due.1, rfl, due⟩⟩
      · exact ⟨same, ended, Or.inr ⟨pos, rfl, due⟩⟩
    next ended =>
      cases ends
      exact ⟨rfl, ended, Or.inl ⟨rfl, rfl⟩⟩

def periodStart (sub : UserSubscription) : Int := if sub.lastResetTime ≤ 0 then sub.startTime else sub.lastResetTime

/-- What a saved reset can be: the next reset is only announced, or a new period begins with no usage. -/
structure Renews (now : Int) (sub later : UserSubscription) : Prop where
  reset : ResetOf sub later
  period : periodStart later = periodStart sub ∧ later.amountUsed = sub.amountUsed ∨
    periodStart later ≠ periodStart sub ∧ later.amountUsed = 0
  undue : ¬(0 < later.nextResetTime ∧ later.nextResetTime ≤ now)

theorem dueReset_renews (due : dueReset utcOffset now plan sub = .ok (some later)) : Renews now sub later := by
  have reset := dueReset_resetOf due
  unfold dueReset at due
  split at due
  · cases due
  split at due
  · cases due
  dsimp only at due
  split at due
  · cases due
  next ends =>
    obtain ⟨same, ended, ⟨rfl, _⟩ | ⟨_, impossible, _⟩⟩ := advance_ends ends
    · split at due
      · cases due
        refine ⟨reset, Or.inl ⟨?_, rfl⟩, ended⟩
        simp only [periodStart]
        split <;> omega
      · cases due
    · cases impossible
  next base _ ends =>
  obtain ⟨same, ended, ⟨_, impossible⟩ | ⟨pos, _, wasDue⟩⟩ := advance_ends ends
  · cases impossible
  cases due
  refine ⟨reset, Or.inr ⟨fun equal => ?_, rfl⟩, ended⟩
  have started : periodStart sub = base := by
    rw [← equal]
    exact if_neg (Int.not_le.mpr pos)
  rw [← started] at same
  rw [same] at ended
  exact ended wasDue

/-- A row that has just been reset is not due again. -/
theorem dueReset_again (due : dueReset utcOffset now plan sub = .ok (some later)) :
    dueReset utcOffset now plan later = .ok none := by
  have undue := (dueReset_renews due).undue
  unfold dueReset at due ⊢
  split at due
  · cases due
  split at due
  · cases due
  next periodic =>
  by_cases ahead : 0 < later.nextResetTime ∧ now < later.nextResetTime
  · rw [if_pos ahead]
  rw [if_neg ahead, if_neg periodic]
  dsimp only at due
  split at due
  · cases due
  · split at due
    next announced =>
      cases due
      dsimp only at undue ahead
      omega
    · cases due
  next base next ends =>
    obtain ⟨same, _, ⟨_, impossible⟩ | ⟨pos, _, _⟩⟩ := advance_ends ends
    · cases impossible
    cases due
    dsimp only at undue ahead ⊢
    rw [if_neg (Int.not_le.mpr pos), advance, ← same, if_neg undue]
    exact if_neg (by omega)

theorem dueReset_none_used (none : dueReset utcOffset now plan sub = .ok none) (used : Int) :
    dueReset utcOffset now plan { sub with amountUsed := used } = .ok Option.none := by
  unfold dueReset at none ⊢
  dsimp only at none ⊢
  by_cases ahead : 0 < sub.nextResetTime ∧ now < sub.nextResetTime
  · rw [if_pos ahead]
  rw [if_neg ahead] at none ⊢
  by_cases never : normalizeResetPeriod plan.quotaResetPeriod = .never
  · rw [if_pos never]
  rw [if_neg never] at none ⊢
  split at none
  · cases none
  next next advanced =>
    split at none
    · cases none
    next unset =>
      rw [advanced]
      exact if_neg unset
  · cases none

end Tokengine.Model.ResetTime
