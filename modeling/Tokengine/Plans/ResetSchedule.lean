import Mathlib.Order.Bounds.Defs
import Tokengine.Model.Wrapping
import Tokengine.Plans.Store

/-! Progress of the plan arithmetic. A calendar period leads to its next boundary; a number of seconds leads to a later
time if its nanoseconds, wrapped to 64 bits, still make up a second. Then the catch-up loop ends, and where it ends does
not depend on the moments at which it ran before. -/

namespace Tokengine.Plans.ResetSchedule
open Model Database ResetTime Text Option

section Calendar

/-- The days of the years before the given one. -/
def daysBefore (year : Int) : Int := 365 * year + year / 4 - year / 100 + year / 400

theorem daysBefore_era (era year : Int) : daysBefore (era * 400 + year) = 146097 * era + daysBefore year := by
  have quarters : (era * 400 + year) / 4 = era * 100 + year / 4 := by omega
  have centuries : (era * 400 + year) / 100 = era * 4 + year / 100 := by omega
  have eras : (era * 400 + year) / 400 = era + year / 400 := by omega
  simp only [daysBefore, quarters, centuries, eras]
  omega

theorem daysBefore_succ (year : Int) :
    daysBefore year + 365 ≤ daysBefore (year + 1) ∧ daysBefore (year + 1) ≤ daysBefore year + 366 := by
  unfold daysBefore
  have leap : year / 4 ≤ (year + 1) / 4 ∧ (year + 1) / 4 ≤ year / 4 + 1 := by omega
  by_cases turn : (year + 1) % 100 = 0
  · omega
  · have same : (year + 1) / 100 = year / 100 := by omega
    omega

theorem yearOfEra_bounds {day year : Int} (low : 0 ≤ day) (high : day < 146097)
    (is : (day - day / 1460 + day / 36524 - day / 146096) / 365 = year) :
    0 ≤ year ∧ year < 400 ∧ daysBefore year ≤ day ∧ day < daysBefore (year + 1) := by
  unfold daysBefore
  by_cases last : day = 146096
  · omega
  have within : day / 146096 = 0 := by omega
  have leaps : year / 4 = day / 1460 ∨ year / 4 = day / 1460 - 1 := by omega
  have hundreds : year / 100 = day / 36524 := by
    have centuries : day / 36524 = 0 ∨ day / 36524 = 1 ∨ day / 36524 = 2 ∨ day / 36524 = 3 := by omega
    rcases centuries with century | century | century | century <;> omega
  by_cases turn : (year + 1) % 100 = 0
  · omega
  have same : (year + 1) / 100 = year / 100 := by omega
  rcases leaps with later | turned
  · have leap : year / 4 ≤ (year + 1) / 4 := by omega
    omega
  · have leap : (year + 1) / 4 = year / 4 + 1 := by omega
    omega

theorem firstOfMonth_eq (year month : Int) :
    firstOfMonth ⟨year, month⟩ = daysBefore (year + month / 12) + (153 * (month % 12) + 2) / 5 - 719468 := rfl

theorem firstOfMonth_succ (year month : Int) : firstOfMonth ⟨year, month⟩ < firstOfMonth ⟨year, month + 1⟩ ∧
    firstOfMonth ⟨year, month + 1⟩ ≤ firstOfMonth ⟨year, month⟩ + 31 := by
  rw [firstOfMonth_eq, firstOfMonth_eq]
  by_cases turn : month % 12 = 11
  · have next : year + (month + 1) / 12 = year + month / 12 + 1 := by omega
    have longer := daysBefore_succ (year + month / 12)
    rw [next, turn]
    omega
  · have same : (month + 1) / 12 = month / 12 := by omega
    rw [same]
    omega

theorem firstOfMonth_add (date : MarchDate) {months : Int} (later : 0 < months) :
    firstOfMonth date < firstOfMonth { date with month := date.month + months } ∧
      firstOfMonth { date with month := date.month + months } ≤ firstOfMonth date + 31 * months := by
  induction months, later using Int.leInduction with
  | base => exact firstOfMonth_succ date.year date.month
  | succ months _ earlier =>
    have next := firstOfMonth_succ date.year (date.month + months)
    rw [← Int.add_assoc]
    omega

theorem firstOfMonth_mono {year month later : Int} (order : month ≤ later) :
    firstOfMonth ⟨year, month⟩ ≤ firstOfMonth ⟨year, later⟩ := by
  rcases Int.le_iff_eq_or_lt.mp order with rfl | before
  · exact Int.le_refl _
  · have moved := (firstOfMonth_add ⟨year, month⟩ (Int.sub_pos.mpr before)).1
    rw [show month + (later - month) = later by omega] at moved
    exact Int.le_of_lt moved

theorem firstOfMonth_next {first second : MarchDate} (before : firstOfMonth first < firstOfMonth second) :
    firstOfMonth { first with month := first.month + 1 } ≤ firstOfMonth second := by
  -- months are counted from one year, so that they follow one another
  have counted : ∀ year month, firstOfMonth ⟨year, month⟩ = firstOfMonth ⟨0, 12 * year + month⟩ := fun year month => by
    have years : (0 : Int) + (12 * year + month) / 12 = year + month / 12 := by omega
    have months : (12 * year + month) % 12 = month % 12 := by omega
    rw [firstOfMonth_eq, firstOfMonth_eq, years, months]
  rw [counted, counted second.year second.month]
  rw [counted first.year first.month, counted second.year second.month] at before
  apply firstOfMonth_mono
  by_contra after
  exact Int.not_le.mpr before (firstOfMonth_mono (by omega))

/-- A day lies in its month. -/
theorem marchDate_month (day : Int) : firstOfMonth (marchDate day) ≤ day ∧
    day < firstOfMonth { marchDate day with month := (marchDate day).month + 1 } := by
  simp only [marchDate, firstOfMonth_eq]
  generalize at_day : (day + 719468) % 146097 = dayOfEra
  generalize year_is : (dayOfEra - dayOfEra / 1460 + dayOfEra / 36524 - dayOfEra / 146096) / 365 = year
  obtain ⟨first, last, begun, left⟩ := yearOfEra_bounds (by omega) (by omega) year_is
  have started : daysBefore year = 365 * year + year / 4 - year / 100 := by
    unfold daysBefore
    omega
  have length := (daysBefore_succ year).2
  rw [← started]
  generalize in_year : dayOfEra - daysBefore year = dayOfYear
  have month : (5 * dayOfYear + 2) / 153 / 12 = 0 := by omega
  rw [month, Int.add_zero, Int.add_assoc, daysBefore_era, daysBefore_era]
  refine ⟨by omega, ?_⟩
  by_cases turn : (5 * dayOfYear + 2) / 153 = 11
  · rw [turn]
    change day < 146097 * _ + daysBefore (year + 1) + 0 - 719468
    omega
  · have next : ((5 * dayOfYear + 2) / 153 + 1) / 12 = 0 := by omega
    rw [next, Int.add_zero]
    omega

theorem lt_startOfDay_iff (utcOffset time day : Int) : time < startOfDay utcOffset day ↔ localDay utcOffset time < day := by
  simp only [localDay, startOfDay, secondsPerDay]
  omega

/-- Clock values for which no sum overflows. -/
structure Ordinary (clock : Clock) : Prop where
  now : 0 ≤ clock.now ∧ clock.now < 2 ^ 62
  zone : -secondsPerDay ≤ clock.utcOffset ∧ clock.utcOffset ≤ secondsPerDay

theorem dateToAbsDays_eq {date : MarchDate} (low : 0 ≤ date.year + date.month / 12)
    (high : date.year + date.month / 12 < 10 ^ 15) : dateToAbsDays date = firstOfMonth date + 106751991073400 := by
  have shifted := daysBefore_era 730692556 (date.year + date.month / 12)
  rw [firstOfMonth_eq]
  unfold dateToAbsDays
  generalize date.year + date.month / 12 = year at *
  rw [show 730692556 * 400 + year = year + 292277022400 by omega] at shifted
  generalize is : year + 292277022400 = absolute at *
  have small : 146097 * (absolute / 100) % 2 ^ 64 = 146097 * (absolute / 100) := by omega
  have same : absolute % 2 ^ 64 = absolute := by omega
  have centuries : 146097 * (absolute / 100) / 4 = 36524 * (absolute / 100) + absolute / 400 := by omega
  have years : 1461 * (absolute % 100) / 4 = 365 * (absolute % 100) + absolute % 100 / 4 := by omega
  have leaps : absolute / 4 = 25 * (absolute / 100) + absolute % 100 / 4 := by omega
  rw [daysBefore, leaps] at shifted
  dsimp only
  rw [same, small, centuries, years]
  omega

theorem marchDate_year {clock : Clock} (ordinary : Ordinary clock) :
    let date := marchDate (localDay clock.utcOffset clock.now)
    0 ≤ date.year + date.month / 12 ∧ date.year + date.month / 12 < 10 ^ 12 := by
  obtain ⟨begun, left⟩ := marchDate_month (localDay clock.utcOffset clock.now)
  obtain ⟨⟨first, last⟩, zone⟩ := ordinary
  unfold secondsPerDay at zone
  simp only [localDay, secondsPerDay] at begun left ⊢
  generalize marchDate _ = date at *
  rw [firstOfMonth_eq] at begun left
  unfold daysBefore at begun left
  omega

theorem lt_addMonths {clock : Clock} (ordinary : Ordinary clock) {months : Int} (later : 0 < months)
    (moderate : months ≤ 12 * 10 ^ 11) : clock.now < addMonths clock.utcOffset clock.now months := by
  obtain ⟨low, high⟩ := marchDate_year ordinary
  have moved := firstOfMonth_add (marchDate (localDay clock.utcOffset clock.now)) later
  unfold addMonths
  generalize marchDate _ = date at *
  dsimp only
  rw [dateToAbsDays_eq low (by omega), dateToAbsDays_eq (by dsimp only; omega) (by dsimp only; omega)]
  obtain ⟨first, last⟩ := ordinary.now
  unfold secondsPerDay
  rw [Wrapping.wrap64_of_inRange ⟨by omega, by omega⟩]
  omega

end Calendar

/-- The seconds, as nanoseconds of an `int64`, are at least one second. -/
def Advances (seconds : Int) : Prop := nanosPerSecond ≤ wrap64 (seconds * nanosPerSecond)

instance (seconds : Int) : Decidable (Advances seconds) := inferInstanceAs (Decidable (_ ≤ _))

theorem lt_addSeconds_iff (start seconds : Int) : start < addSeconds start seconds ↔ Advances seconds := by
  simp only [addSeconds, Advances, nanosPerSecond]
  omega

/-- What the reset period of a plan needs: seconds that survive the conversion to nanoseconds. -/
def Resets (plan : SubscriptionPlan) : Prop :=
  normalizeResetPeriod plan.quotaResetPeriod = .custom → 0 < plan.quotaResetCustomSeconds →
    Advances plan.quotaResetCustomSeconds

/-- The days that begin a new period. -/
def Turns : ResetPeriod → Int → Prop
  | .daily, _ => True
  | .weekly, day => weekday day = 1
  | .monthly, day => ∃ date, day = firstOfMonth date
  | _, _ => False

/-- The moments at which a quota is reset: the local midnight that begins a day, a Monday or the first of a month, or
every so many seconds after `base`. -/
def Boundary (utcOffset : Int) (period : ResetPeriod) (seconds base time : Int) : Prop :=
  if period = .custom then 0 < seconds ∧ ∃ k : Int, 0 < k ∧ time = base + k * seconds
  else ∃ day, Turns period day ∧ time = startOfDay utcOffset day

/-- What the code adds for a number of seconds that is positive. -/
def Adds (plan : SubscriptionPlan) (seconds : Int) : Prop :=
  normalizeResetPeriod plan.quotaResetPeriod = .custom →
    if plan.quotaResetCustomSeconds ≤ 0 then seconds ≤ 0
    else 0 < seconds ∧ wrap64 (plan.quotaResetCustomSeconds * nanosPerSecond) / nanosPerSecond = seconds

section Next

variable {plan : SubscriptionPlan} {utcOffset base seconds : Int} {period : ResetPeriod}

theorem next_day (calendar : period ≠ .custom) {day : Int} (turns : Turns period day)
    (later : localDay utcOffset base < day) (least : ∀ other, Turns period other → localDay utcOffset base < other → day ≤ other) :
    IsLeast {time | Boundary utcOffset period seconds base time ∧ base < time} (startOfDay utcOffset day) := by
  simp only [Boundary, if_neg calendar]
  refine ⟨⟨⟨day, turns, rfl⟩, (lt_startOfDay_iff ..).mpr later⟩, ?_⟩
  rintro _ ⟨⟨other, turns', rfl⟩, after⟩
  have order := least other turns' ((lt_startOfDay_iff ..).mp after)
  simp only [startOfDay, secondsPerDay]
  omega

/-- `calcNextResetTime` is the next boundary, unless that lies behind the end. -/
theorem calcNextResetTime_spec (adds : Adds plan seconds) (utcOffset base endUnix : Int) :
    (calcNextResetTime utcOffset base plan endUnix = 0 ∧
      ∀ time, ¬Boundary utcOffset (normalizeResetPeriod plan.quotaResetPeriod) seconds base time) ∨
    ∃ next, IsLeast {time | Boundary utcOffset (normalizeResetPeriod plan.quotaResetPeriod) seconds base time ∧
        base < time} next ∧
      calcNextResetTime utcOffset base plan endUnix = if endUnix > 0 ∧ next > endUnix then 0 else next := by
  unfold calcNextResetTime
  cases period : normalizeResetPeriod plan.quotaResetPeriod with
  | never => exact Or.inl ⟨rfl, fun time => by simp [Boundary, Turns]⟩
  | daily => exact Or.inr ⟨_, next_day (by nofun) trivial (by omega) fun other _ after => by omega, rfl⟩
  | weekly =>
    have shown : weekday (localDay utcOffset base) = (localDay utcOffset base + 4) % 7 := rfl
    refine Or.inr ⟨_, next_day (by nofun) ?_ ?_ fun other (monday : (other + 4) % 7 = 1) after => ?_, rfl⟩
    · change (_ + 4) % 7 = 1
      omega
    · omega
    · omega
  | monthly =>
    obtain ⟨begun, left⟩ := marchDate_month (localDay utcOffset base)
    refine Or.inr ⟨_, next_day (by nofun) ⟨_, rfl⟩ left ?_, rfl⟩
    rintro _ ⟨date, rfl⟩ after
    exact firstOfMonth_next (Int.lt_of_le_of_lt begun after)
  | custom =>
    have adds := adds period
    dsimp only
    split at adds
    next none =>
      rw [if_pos none]
      exact Or.inl ⟨rfl, fun time => by simp [Boundary, Int.not_lt.mpr adds]⟩
    next some =>
      obtain ⟨pos, added⟩ := adds
      rw [if_neg some, added]
      refine Or.inr ⟨_, ?_, rfl⟩
      simp only [Boundary, if_pos]
      refine ⟨⟨⟨pos, 1, Int.one_pos, by omega⟩, by omega⟩, ?_⟩
      rintro _ ⟨⟨_, k, ahead, rfl⟩, _⟩
      have whole : 1 * seconds ≤ k * seconds := Int.mul_le_mul_of_nonneg_right ahead (Int.le_of_lt pos)
      omega

theorem calcNextResetTime_grows (resets : Resets plan) (utcOffset base endUnix : Int) :
    calcNextResetTime utcOffset base plan endUnix = 0 ∨ base < calcNextResetTime utcOffset base plan endUnix ∧
        (0 < endUnix → calcNextResetTime utcOffset base plan endUnix ≤ endUnix) := by
  have adds : Adds plan (if plan.quotaResetCustomSeconds ≤ 0 then 0
      else wrap64 (plan.quotaResetCustomSeconds * nanosPerSecond) / nanosPerSecond) := fun period => by
    split
    · exact Int.le_refl 0
    next some =>
      have advances := resets period (Int.not_le.mp some)
      unfold Advances nanosPerSecond at advances
      exact ⟨by unfold nanosPerSecond; omega, rfl⟩
  rcases calcNextResetTime_spec adds utcOffset base endUnix with ⟨none, _⟩ | ⟨next, least, is⟩
  · exact Or.inl none
  · have later : base < next := least.1.2
    rw [is]
    split <;> omega

end Next

section Loop

variable {following : Int → Int} {now : Int} {rounds : Nat} {base : Int}

theorem advance_ne_none (grows : ∀ time, following time = 0 ∨ time < following time) (advanced : Bool)
    (enough : (now - base).toNat + 2 ≤ rounds) : advance following now rounds base (following base) advanced ≠ none := by
  induction rounds generalizing base advanced with
  | zero => omega
  | succ rounds tail =>
    unfold advance
    split
    next due =>
      have later := grows base
      exact tail true (by omega)
    · exact some_ne_none _

theorem advance_stuck (stays : following base = base) (due : 0 < base ∧ base ≤ now) (rounds : Nat) (advanced : Bool) :
    advance following now rounds base (following base) advanced = none := by
  induction rounds generalizing advanced with
  | zero => rfl
  | succ rounds tail =>
    unfold advance
    rw [if_pos (stays.symm ▸ due), stays]
    exact stays ▸ tail true

end Loop

section Creation

def ResetPeriod.text : ResetPeriod → String
  | .never => "never"
  | .daily => "daily"
  | .weekly => "weekly"
  | .monthly => "monthly"
  | .custom => "custom"

def durationUnitOf : String → DurationUnit
  | "year" => .year
  | "month" => .month
  | "day" => .day
  | "hour" => .hour
  | "custom" => .custom
  | unit => .other unit

structure PlanRequest where
  title : String
  priceAmount : Rat
  durationUnit : String
  (durationValue customSeconds : Int)
  enabled : Bool
  maxPurchasePerUser : Int
  upgradeGroup : String
  totalAmount : Int
  quotaResetPeriod : String
  quotaResetCustomSeconds : Int
  planType : String
  tokensLimit : Int
  applicableModels : String

/-- The row that `AdminCreateSubscriptionPlan` inserts for an accepted request. -/
def PlanRequest.plan (req : PlanRequest) (id : Int) : Plan :=
  let durationUnit := durationUnitOf (if req.durationUnit = "" then "month" else req.durationUnit)
  { id
    title := req.title
    quotaResetPeriod := ResetPeriod.text (normalizeResetPeriod req.quotaResetPeriod)
    quotaResetCustomSeconds := req.quotaResetCustomSeconds
    planType := if req.planType = "tokens" then .tokens else .quota
    priceAmount := req.priceAmount
    durationUnit
    durationValue := if req.durationValue ≤ 0 ∧ durationUnit ≠ .custom then 1 else req.durationValue
    customSeconds := req.customSeconds
    enabled := req.enabled
    maxPurchasePerUser := req.maxPurchasePerUser
    upgradeGroup := trimSpace req.upgradeGroup
    totalAmount := req.totalAmount
    tokensLimit := req.tokensLimit
    applicableModels := req.applicableModels }

def adminCreateSubscriptionPlan (groups : List String) (id : Int) (req : PlanRequest) : Except String Plan :=
  if trimSpace req.title = "" then .error "套餐标题不能为空"
  else if req.priceAmount < 0 then .error "价格不能为负数"
  else if 9999 < req.priceAmount then .error "价格不能超过9999"
  else if req.maxPurchasePerUser < 0 then .error "购买上限不能为负数"
  else if req.totalAmount < 0 then .error "总额度不能为负数"
  else if trimSpace req.upgradeGroup ≠ "" ∧ trimSpace req.upgradeGroup ∉ groups then .error "升级分组不存在"
  else if normalizeResetPeriod req.quotaResetPeriod = .custom ∧ req.quotaResetCustomSeconds ≤ 0 then
    .error "自定义重置周期需大于0秒"
  else if req.planType ∉ ["", "quota", "tokens"] then .error "套餐类型必须是 quota 或 tokens"
  else if req.planType = "tokens" ∧ req.tokensLimit < 0 then .error "Tokens上限不能为负数"
  else .ok (req.plan id)

variable {plan : Plan} {req : PlanRequest} {groups : List String}

theorem accepted_eq {id : Int}
    (accepted : adminCreateSubscriptionPlan groups id req = .ok plan) : plan = req.plan id := by
  unfold adminCreateSubscriptionPlan at accepted
  iterate 9 replace accepted := (passed accepted).2
  exact (Except.ok.inj accepted).symm

theorem durationValue_pos (req : PlanRequest) (id : Int) (unit : (req.plan id).durationUnit ≠ .custom) :
    0 < (req.plan id).durationValue := by
  change 0 < if req.durationValue ≤ 0 ∧ (req.plan id).durationUnit ≠ .custom then 1 else req.durationValue
  by_cases absent : req.durationValue ≤ 0
  · rw [if_pos ⟨absent, unit⟩]
    decide
  · omega

/-- The duration of a plan is known and survives the conversion to nanoseconds. -/
def Lasts (plan : Plan) : Prop :=
  match plan.durationUnit with
  | .year => True
  | .month => True
  | .day => Advances (plan.durationValue * 24 * 3600)
  | .hour => Advances (plan.durationValue * 3600)
  | .custom => 0 < plan.customSeconds ∧ Advances plan.customSeconds
  | .other _ => False

/-- A number of years or months whose end is a time of `int64`. -/
def Moderate (plan : Plan) : Prop :=
  match plan.durationUnit with
  | .year => plan.durationValue ≤ 10 ^ 11
  | .month => plan.durationValue ≤ 12 * 10 ^ 11
  | _ => True

structure Progresses (plan : Plan) : Prop where
  ends : ∀ clock, Ordinary clock → ∃ endUnix, calcPlanEndTime clock plan = .ok endUnix ∧ clock.now < endUnix
  resets : ∀ clock endUnix, Ordinary clock →
    calcNextResetTime clock.utcOffset clock.now plan.toSubscriptionPlan endUnix ≠ 0 →
    clock.now < calcNextResetTime clock.utcOffset clock.now plan.toSubscriptionPlan endUnix
  terminates : ∀ clock base endUnix, Ordinary clock → 0 ≤ base → ∃ rounds,
    advance (calcNextResetTime clock.utcOffset · plan.toSubscriptionPlan endUnix) clock.now rounds base
      (calcNextResetTime clock.utcOffset base plan.toSubscriptionPlan endUnix) false ≠ none

theorem ends_iff (pos : plan.durationUnit ≠ .custom → 0 < plan.durationValue) (moderate : Moderate plan)
    {clock : Clock} (ordinary : Ordinary clock) :
    (∃ endUnix, calcPlanEndTime clock plan = .ok endUnix ∧ clock.now < endUnix) ↔ Lasts plan := by
  have ok : ∀ time, (∃ endUnix, (.ok time : Except String Int) = .ok endUnix ∧ clock.now < endUnix) ↔ clock.now < time := by
    simp
  have valued : ¬(plan.durationValue ≤ 0 ∧ plan.durationUnit ≠ .custom) := fun absent => by
    have := pos absent.2
    omega
  unfold Moderate at moderate
  unfold calcPlanEndTime Lasts
  rw [if_neg valued]
  cases unit : plan.durationUnit with
  | custom =>
    by_cases none : plan.customSeconds ≤ 0
    · simp [none]
    · simp only [if_neg none, ok, lt_addSeconds_iff]
      simp [show 0 < plan.customSeconds by omega]
  | other name => simp
  | day | hour => exact (ok _).trans (lt_addSeconds_iff _ _)
  | year =>
    have later := pos (by simp [unit])
    rw [unit] at moderate
    exact (ok _).trans (iff_true_intro (lt_addMonths ordinary (by omega) (by omega)))
  | month =>
    have later := pos (by simp [unit])
    rw [unit] at moderate
    exact (ok _).trans (iff_true_intro (lt_addMonths ordinary later moderate))

theorem calcNextResetTime_custom {plan : SubscriptionPlan}
    (period : normalizeResetPeriod plan.quotaResetPeriod = .custom) (pos : 0 < plan.quotaResetCustomSeconds)
    (utcOffset base : Int) : calcNextResetTime utcOffset base plan 0 = addSeconds base plan.quotaResetCustomSeconds := by
  simp only [calcNextResetTime, period, if_neg (Int.not_le.mpr pos), addSeconds]
  rfl

def customReset (seconds : Int) : PlanRequest :=
  ⟨"pro", 0, "", 0, 0, true, 0, "", 0, "custom", seconds, "", 0, ""⟩

def endlessReset : PlanRequest := customReset 36028797018963968

def longPlan : PlanRequest := ⟨"pro", 0, "year", 3 * 10 ^ 11, 0, true, 0, "", 0, "", 0, "", 0, ""⟩

end Creation

section Schedule

variable {f : Int → Int} {now later base last : Int} {sub row : UserSubscription}

/-- The time after `base` is set and has come. -/
def Due (f : Int → Int) (now base : Int) : Prop := 0 < f base ∧ f base ≤ now

instance (f : Int → Int) (now base : Int) : Decidable (Due f now base) := inferInstanceAs (Decidable (_ ∧ _))

/-- The rounds of the loop from one base to another. -/
inductive Passes (f : Int → Int) (now : Int) : Int → Int → Prop
  | here (base : Int) : Passes f now base base
  | on {base last : Int} (due : Due f now base) (rest : Passes f now (f base) last) : Passes f now base last

structure Ends (f : Int → Int) (now base last : Int) : Prop where
  passes : Passes f now base last
  undue : ¬Due f now last

theorem Passes.mono (passes : Passes f now base last) (order : now ≤ later) : Passes f later base last := by
  induction passes with
  | here base => exact .here base
  | on due _ rest => exact .on ⟨due.1, Int.le_trans due.2 order⟩ rest

theorem Passes.trans {middle : Int} (passes : Passes f now base middle) (rest : Passes f now middle last) :
    Passes f now base last := by
  induction passes with
  | here => exact rest
  | on due _ tail => exact .on due (tail rest)

theorem Ends.unique {other : Int} (ends : Ends f now base last) (ends' : Ends f now base other) : last = other := by
  obtain ⟨passes, undue⟩ := ends
  induction passes with
  | here =>
    cases ends'.passes with
    | here => rfl
    | on due => exact absurd due undue
  | on due _ tail =>
    cases ends'.passes with
    | here => exact absurd due ends'.undue
    | on _ rest => exact tail ⟨rest, ends'.undue⟩ undue

theorem Ends.still (ends : Ends f now base last) (undue : ¬Due f now base) : last = base :=
  ends.unique ⟨.here base, undue⟩

theorem Passes.pos (passes : Passes f now base last) : last = base ∨ 0 < last := by
  induction passes with
  | here => exact Or.inl rfl
  | on due _ tail => exact Or.inr (tail.elim (fun same => same ▸ due.1) id)

theorem advance_passes {rounds : Nat} {next : Int} {advanced advanced' : Bool}
    (ends : advance f now rounds base (f base) advanced = some (last, next, advanced')) :
    Ends f now base last ∧ next = f last ∧ advanced' = (advanced || decide (Due f now base)) := by
  induction rounds generalizing base advanced with
  | zero => cases ends
  | succ rounds tail =>
    unfold advance at ends
    split at ends
    next due =>
      obtain ⟨⟨passes, undue⟩, follows, flag⟩ := tail ends
      exact ⟨⟨.on due passes, undue⟩, follows, by simp [flag, show Due f now base from due]⟩
    next ended =>
      cases ends
      exact ⟨⟨.here last, ended⟩, rfl, by simp [show ¬Due f now last from ended]⟩

/-- What a call leaves of a row, if its loop ends at `last`. -/
def renewed (f : Int → Int) (now : Int) (sub : UserSubscription) (last : Int) : UserSubscription :=
  if 0 < sub.nextResetTime ∧ now < sub.nextResetTime then sub
  else if Due f now (periodStart sub) then { sub with amountUsed := 0, lastResetTime := last, nextResetTime := f last }
  else if sub.nextResetTime = 0 ∧ 0 < f last then { sub with nextResetTime := f last, lastResetTime := last }
  else sub

def times (sub : UserSubscription) : Int × Int := (sub.lastResetTime, sub.nextResetTime)

/-- A row whose times were saved together. -/
structure Left (f : Int → Int) (base : Int) (row : UserSubscription) : Prop where
  last : row.lastResetTime = base
  start : periodStart row = base
  next : row.nextResetTime = f base

theorem Left.undue (left : Left f base row) (undue : ¬Due f now base) : renewed f now row base = row := by
  rw [renewed, left.start, left.next, if_neg undue]
  split
  · rfl
  · exact if_neg (by omega)

theorem Left.times (left : Left f base row) (ends : Ends f now base last) :
    times (renewed f now row last) = (last, f last) := by
  by_cases due : Due f now base
  · rw [renewed, left.start, left.next, if_neg fun ahead => Int.not_le.mpr ahead.2 due.2, if_pos due]
    rfl
  · obtain rfl := ends.still due
    rw [left.undue due]
    exact Prod.ext left.last left.next

theorem renewed_cases (ends : Ends f now (periodStart sub) last) :
    renewed f now sub last = sub ∧ (Due f now (periodStart sub) → now < sub.nextResetTime) ∨
      (Due f now (periodStart sub) ∨ sub.nextResetTime = 0 ∧ 0 < f (periodStart sub)) ∧
        ¬(0 < sub.nextResetTime ∧ now < sub.nextResetTime) ∧ Left f last (renewed f now sub last) := by
  unfold renewed
  split
  next ahead => exact Or.inl ⟨rfl, fun _ => ahead.2⟩
  next undecided =>
  split
  next due =>
    refine Or.inr ⟨Or.inl due, undecided, rfl, ?_, rfl⟩
    cases ends.passes with
    | here => exact absurd due ends.undue
    | on _ rest =>
      have pos : 0 < last := rest.pos.elim (fun same => same ▸ due.1) id
      exact if_neg (Int.not_le.mpr pos)
  next undue =>
  obtain rfl := ends.still undue
  split
  next announced =>
    refine Or.inr ⟨Or.inr announced, undecided, rfl, ?_, rfl⟩
    simp only [periodStart]
    split <;> omega
  · exact Or.inl ⟨rfl, fun due => absurd due undue⟩

theorem renewed_renewed {middle : Int} (order : now ≤ later) (first : Ends f now (periodStart sub) middle)
    (single : Ends f later (periodStart sub) last) {second : Int}
    (again : Ends f later (periodStart (renewed f now sub middle)) second) :
    times (renewed f later (renewed f now sub middle) second) = times (renewed f later sub last) := by
  obtain ⟨kept, _⟩ | ⟨changed, undecided, left⟩ := renewed_cases first
  · rw [kept] at again ⊢
    rw [again.unique single]
  rw [left.start] at again
  have whole : Ends f later (periodStart sub) second := ⟨(first.passes.mono order).trans again.passes, again.undue⟩
  obtain rfl := whole.unique single
  rw [left.times again, renewed, if_neg (by omega)]
  split
  · rfl
  next undue =>
    obtain rfl := single.still undue
    rw [if_pos (changed.resolve_left fun due => undue ⟨due.1, Int.le_trans due.2 order⟩)]
    rfl

theorem renewed_idem (first : Ends f now (periodStart sub) last) {second : Int}
    (again : Ends f now (periodStart (renewed f now sub last)) second) :
    renewed f now (renewed f now sub last) second = renewed f now sub last := by
  obtain ⟨kept, _⟩ | ⟨_, _, left⟩ := renewed_cases first
  · rw [kept] at again ⊢
    rw [again.unique first, kept]
  · rw [left.start] at again
    rw [again.still first.undue, left.undue first.undue]

/-- The next reset is the one that follows the last, unless it has not been computed yet. -/
structure Scheduled (f : Int → Int) (sub : UserSubscription) : Prop where
  started : 0 ≤ sub.startTime
  aligned : sub.nextResetTime = 0 ∨ sub.nextResetTime = f (periodStart sub)

/-- The schedule is in order after a call, and the usage is zeroed iff a reset was due. -/
structure Tidy (f : Int → Int) (wasDue : Prop) (now : Int) (sub row : UserSubscription) : Prop where
  scheduled : Scheduled f row
  undue : row.nextResetTime = 0 ∨ now < row.nextResetTime
  zeroed : wasDue → row.amountUsed = 0
  kept : ¬wasDue → row.amountUsed = sub.amountUsed

theorem renewed_fixed (f : Int → Int) (now : Int) (sub : UserSubscription) (last : Int) :
    (renewed f now sub last).startTime = sub.startTime ∧ (renewed f now sub last).endTime = sub.endTime := by
  unfold renewed
  repeat' split
  all_goals exact ⟨rfl, rfl⟩

theorem renewed_used (undue : ¬Due f now (periodStart sub)) : (renewed f now sub last).amountUsed = sub.amountUsed := by
  rw [renewed, if_neg undue]
  repeat' split
  all_goals rfl

theorem Scheduled.nonneg (scheduled : Scheduled f sub) : 0 ≤ periodStart sub := by
  have started := scheduled.started
  unfold periodStart
  split <;> omega

theorem renewed_tidy (grows : ∀ time, f time = 0 ∨ time < f time) (scheduled : Scheduled f sub)
    (ends : Ends f now (periodStart sub) last) :
    Tidy f (Due f now (periodStart sub)) now sub (renewed f now sub last) := by
  have set : ∀ base, 0 ≤ base → ¬Due f now base → f base = 0 ∨ now < f base := fun base pos undue => by
    have later := grows base
    unfold Due at undue
    omega
  have decided : Due f now (periodStart sub) → ¬now < sub.nextResetTime := fun due ahead => by
    have aligned := scheduled.aligned
    unfold Due at due
    omega
  refine ⟨⟨(renewed_fixed ..).1.symm ▸ scheduled.started, ?_⟩, ?_, fun due => ?_, renewed_used⟩
  · obtain ⟨same, _⟩ | ⟨_, _, left⟩ := renewed_cases ends
    · exact same.symm ▸ scheduled.aligned
    · exact Or.inr (by rw [left.next, left.start])
  · obtain ⟨same, ahead⟩ | ⟨_, _, left⟩ := renewed_cases ends
    · have undue := set _ scheduled.nonneg fun due => decided due (ahead due)
      rw [same]
      exact scheduled.aligned.elim Or.inl fun aligned => aligned.symm ▸ undue
    · rw [left.next]
      exact set last (by have := ends.passes.pos; have := scheduled.nonneg; omega) ends.undue
  · rw [renewed, if_neg fun ahead => decided due ahead.2, if_pos due]

end Schedule

section Calls

variable (utcOffset : Int) (plan : SubscriptionPlan)

def resetAt (now : Int) (sub : UserSubscription) : UserSubscription :=
  match dueReset utcOffset now plan sub with
  | .ok (some later) => later
  | _ => sub

def following (sub : UserSubscription) (time : Int) : Int := calcNextResetTime utcOffset time plan sub.endTime

/-- A boundary after the last reset has passed within the time of the subscription. -/
def Passed (now : Int) (sub : UserSubscription) : Prop :=
  ∃ time, Boundary utcOffset (normalizeResetPeriod plan.quotaResetPeriod) plan.quotaResetCustomSeconds (periodStart sub) time ∧
    periodStart sub < time ∧ time ≤ now ∧ time ≤ sub.endTime

variable {utcOffset plan}

/-- The nanoseconds of the custom period do not overflow. -/
def Fits (plan : SubscriptionPlan) : Prop :=
  normalizeResetPeriod plan.quotaResetPeriod = .custom → plan.quotaResetCustomSeconds * nanosPerSecond < 2 ^ 63

theorem Fits.adds (fits : Fits plan) : Adds plan plan.quotaResetCustomSeconds := fun period => by
  split
  next none => exact none
  next some =>
    have below := fits period
    unfold nanosPerSecond at below ⊢
    refine ⟨Int.not_le.mp some, ?_⟩
    rw [Wrapping.wrap64_of_inRange ⟨by omega, below⟩]
    omega

theorem Fits.resets (fits : Fits plan) : Resets plan := fun period pos => by
  have below := fits period
  unfold Advances nanosPerSecond at *
  rw [Wrapping.wrap64_of_inRange ⟨by omega, below⟩]
  omega

theorem passed_iff (fits : Fits plan) {now : Int} {sub : UserSubscription} (unexpired : 0 < sub.endTime)
    (nonneg : 0 ≤ periodStart sub) :
    Passed utcOffset plan now sub ↔ Due (following utcOffset plan sub) now (periodStart sub) := by
  unfold Passed Due following
  rcases calcNextResetTime_spec fits.adds utcOffset (periodStart sub) sub.endTime with ⟨unset, none⟩ | ⟨next, least, is⟩
  · rw [unset]
    exact ⟨fun ⟨time, boundary, _⟩ => absurd boundary (none time), fun due => absurd due.1 (by decide)⟩
  · rw [is]
    constructor
    · rintro ⟨time, boundary, after, passed, within⟩
      have order : next ≤ time := least.2 ⟨boundary, after⟩
      have later : periodStart sub < next := least.1.2
      rw [if_neg (by omega)]
      omega
    · intro due
      split at due
      · omega
      next within => exact ⟨next, least.1.1, least.1.2, due.2, by omega⟩

theorem resetAt_renewed (resets : Resets plan) (now : Int) (sub : UserSubscription) :
    ∃ last, Ends (following utcOffset plan sub) now (periodStart sub) last ∧
      (∃ outcome, dueReset utcOffset now plan sub = .ok outcome) ∧
      resetAt utcOffset plan now sub = renewed (following utcOffset plan sub) now sub last := by
  have grows : ∀ time, following utcOffset plan sub time = 0 ∨ time < following utcOffset plan sub time :=
    fun time => (calcNextResetTime_grows resets utcOffset time sub.endTime).imp_right And.left
  obtain ⟨⟨last, next, advanced⟩, ended⟩ := ne_none_iff_exists'.mp (@advance_ne_none _ now
    ((now - periodStart sub).toNat + (periodStart sub).toNat + 2) (periodStart sub) grows false (by omega))
  obtain ⟨ends, rfl, flag⟩ := advance_passes ended
  refine ⟨last, ends, ?_⟩
  unfold resetAt dueReset renewed
  split
  · exact ⟨⟨none, rfl⟩, rfl⟩
  by_cases never : normalizeResetPeriod plan.quotaResetPeriod = .never
  · have unset : ∀ time, following utcOffset plan sub time = 0 := fun time => by
      simp only [following, calcNextResetTime, never]
    simp [never, Due, unset]
  · have run := ended
    unfold following periodStart at run
    rw [if_neg never]
    dsimp only
    rw [run]
    cases advanced with
    | true =>
      rw [if_pos (of_decide_eq_true flag.symm)]
      exact ⟨⟨_, rfl⟩, rfl⟩
    | false =>
      rw [if_neg (of_decide_eq_false flag.symm)]
      dsimp only
      unfold following
      split <;> exact ⟨⟨_, rfl⟩, rfl⟩

theorem reset_schedule (fits : Fits plan) {sub : UserSubscription} (unexpired : 0 < sub.endTime)
    (scheduled : Scheduled (following utcOffset plan sub) sub) : (∀ first second, first ≤ second →
      times (resetAt utcOffset plan second (resetAt utcOffset plan first sub)) = times (resetAt utcOffset plan second sub)) ∧
    ∀ now, resetAt utcOffset plan now (resetAt utcOffset plan now sub) = resetAt utcOffset plan now sub ∧
      (∃ outcome, dueReset utcOffset now plan sub = .ok outcome) ∧
      Tidy (following utcOffset plan sub) (Passed utcOffset plan now sub) now sub (resetAt utcOffset plan now sub) ∧
      (resetAt utcOffset plan now sub).nextResetTime ≤ sub.endTime := by
  have same : ∀ now last, following utcOffset plan (renewed (following utcOffset plan sub) now sub last) =
      following utcOffset plan sub := fun now last => by
    funext time
    rw [following, following, (renewed_fixed ..).2]
  have bounded := fun time => calcNextResetTime_grows fits.resets utcOffset time sub.endTime
  have grows : ∀ time, following utcOffset plan sub time = 0 ∨ time < following utcOffset plan sub time :=
    fun time => (bounded time).imp_right And.left
  have renews := @resetAt_renewed utcOffset plan fits.resets
  constructor
  · intro first second order
    obtain ⟨middle, ends, _, is⟩ := renews first sub
    obtain ⟨last, single, _, once⟩ := renews second sub
    obtain ⟨final, again, _, twice⟩ := renews second (renewed (following utcOffset plan sub) first sub middle)
    rw [same] at again twice
    rw [is, once, twice]
    exact renewed_renewed order ends single again
  · intro now
    obtain ⟨last, ends, returns, is⟩ := renews now sub
    obtain ⟨final, again, _, twice⟩ := renews now (renewed (following utcOffset plan sub) now sub last)
    rw [same] at again twice
    have tidy := renewed_tidy grows scheduled ends
    rw [is, twice, passed_iff fits unexpired scheduled.nonneg]
    refine ⟨renewed_idem ends again, returns, tidy, ?_⟩
    rcases tidy.scheduled.aligned with unset | aligned
    · omega
    · have limit := bounded (periodStart (renewed (following utcOffset plan sub) now sub last))
      rw [aligned, following]
      omega

theorem newSubscription_scheduled {clock : Clock} (valid : 0 ≤ clock.now) (userId : Int) (tradeNo : String) (plan : Plan)
    (source : Source) (endUnix : Int) (prevGroup : String) :
    let sub := (newSubscription clock userId tradeNo plan source endUnix prevGroup).toUserSubscription
    Scheduled (following clock.utcOffset plan.toSubscriptionPlan sub) sub := by
  refine ⟨valid, Or.inr ?_⟩
  unfold newSubscription following periodStart
  dsimp only
  split <;> split <;> first | rfl | omega

def hourlySub : UserSubscription :=
  (newSubscription ⟨100, 0⟩ 1 "" ((customReset 3600).plan 1) .admin 90000 "").toUserSubscription

theorem hourly_reset_schedule :
    let plan := ((customReset 3600).plan 1).toSubscriptionPlan
    times (resetAt 0 plan 7400 (resetAt 0 plan 3700 hourlySub)) = times (resetAt 0 plan 7400 hourlySub) ∧
      resetAt 0 plan 7400 (resetAt 0 plan 7400 hourlySub) = resetAt 0 plan 7400 hourlySub ∧
      (∃ outcome, dueReset 0 7400 plan hourlySub = .ok outcome) ∧
      Tidy (following 0 plan hourlySub) (Passed 0 plan 7400 hourlySub) 7400 hourlySub (resetAt 0 plan 7400 hourlySub) ∧
      (resetAt 0 plan 7400 hourlySub).nextResetTime ≤ 90000 := by
  have fits : Fits ((customReset 3600).plan 1).toSubscriptionPlan := fun _ => by decide
  have valid : (0 : Int) ≤ 100 := by decide
  have scheduled := @newSubscription_scheduled ⟨100, 0⟩ valid 1 "" ((customReset 3600).plan 1) .admin 90000 ""
  obtain ⟨paths, calls⟩ := reset_schedule fits (by decide) scheduled
  exact ⟨paths 3700 7400 (by decide), calls 7400⟩

end Calls

end Tokengine.Plans.ResetSchedule
