import Tokengine.Lib.Runs
import Tokengine.Model.SubscriptionSpec

/-! Which plans a quota pre-consumption charges, and what that means for the limit of a tokens plan. -/

namespace Tokengine.Billing.PlanTypes
open Program Model Database ResetTime Subscription List Option Table

def planTypeOf (db : Db) (sub : UserSubscription) : Option PlanType :=
  (db.plans.lookup sub.planId).map SubscriptionPlan.planType

def chargeable (env : Env) (modelName : String) (amount : Int) (db : Db) (sub : UserSubscription) : Bool :=
  amountMeter.eligible modelName amount (refresh env db sub)

def quotaPlanFirst (env : Env) (userId : Int) (modelName : String) (amount : Int) (db : Db) : Prop :=
  ∀ sub ∈ activeSubscriptions env.now userId db, planTypeOf db sub = some .tokens →
    chargeable env modelName amount db sub = true →
    ∃ earlier ∈ activeSubscriptions env.now userId db, planTypeOf db earlier = some .quota ∧
      chargeable env modelName amount db earlier = true ∧ expiresBefore earlier sub

/-! The order of the candidates. -/

theorem expiresBefore_antisymm {first second : UserSubscription} (before : expiresBefore first second)
    (after : expiresBefore second first) : first.id = second.id := by
  unfold expiresBefore at before after
  omega

instance : Std.Total expiresBefore where
  total first second := by
    unfold expiresBefore
    omega

instance : IsTrans UserSubscription expiresBefore where
  trans first second third before after := by
    unfold expiresBefore at before after ⊢
    omega

theorem activeSubscriptions_ordered (now userId : Int) (db : Db) :
    (activeSubscriptions now userId db).Pairwise expiresBefore := pairwise_insertionSort _ _

theorem find?_filterMap_split {α β : Type} {f : α → Option β} {p : β → Bool} {list : List α} {b : β}
    (found : (list.filterMap f).find? p = some b) :
    ∃ before a after, list = before ++ a :: after ∧ f a = some b ∧ p b = true ∧
      ∀ earlier ∈ before, ∀ mapped, f earlier = some mapped → p mapped = false := by
  obtain ⟨matched, front, back, split, rejected⟩ := find?_eq_some_iff_append.mp found
  obtain ⟨first, rest, rfl, frontEq, restEq⟩ := filterMap_eq_append_iff.mp split
  obtain ⟨skipped, a, after, rfl, none, here, _⟩ := filterMap_eq_cons_iff.mp restEq
  refine ⟨first ++ skipped, a, after, by simp, here, matched, ?_⟩
  intro earlier mem mapped image
  rcases mem_append.mp mem with inFront | inSkipped
  · have listed : mapped ∈ front := frontEq ▸ mem_filterMap.mpr ⟨earlier, inFront, image⟩
    simpa using rejected mapped listed
  · rw [none earlier inSkipped] at image
    cases image

variable {env : Env} {userId amount : Int} {modelName : String} {db : Db} {sub later : UserSubscription}

theorem planTypeOf_reset (reset : ResetOf sub later) : planTypeOf db later = planTypeOf db sub := by
  obtain ⟨used, last, next, rfl, _⟩ := reset
  rfl

theorem planned_of_type {planType : PlanType} (typed : planTypeOf db sub = some planType) :
    quotaCandidate env db sub = some (refresh env db sub) := by
  obtain ⟨plan, planned, _⟩ := map_eq_some_iff.mp typed
  rw [quotaCandidate, planned]
  rfl

/-- The candidate that a quota pre-consumption charges: no candidate of a known plan before it could be charged. -/
theorem firstEligible_split {meter : Meter}
    (chosen : meter.firstEligible quotaCandidate env userId modelName amount db = some sub) :
    ∃ before cand after, activeSubscriptions env.now userId db = before ++ cand :: after ∧
      (db.plans.lookup cand.planId).isSome ∧ sub = refresh env db cand ∧
      meter.eligible modelName amount (refresh env db cand) = true ∧
      ∀ earlier ∈ before, ∀ planType, planTypeOf db earlier = some planType →
        meter.eligible modelName amount (refresh env db earlier) = false := by
  obtain ⟨before, cand, after, split, handed, fits, rejected⟩ := find?_filterMap_split chosen
  obtain ⟨planned, rfl⟩ := quotaCandidate_some handed
  exact ⟨before, cand, after, split, planned, rfl, fits,
    fun earlier mem _ typed => rejected earlier mem _ (planned_of_type typed)⟩

/-- The charged subscription has a quota plan exactly when quota subscriptions come first. -/
theorem chosen_quota_iff (chosen : amountMeter.firstEligible quotaCandidate env userId modelName amount db = some sub) :
    planTypeOf db sub = some .quota ↔ quotaPlanFirst env userId modelName amount db := by
  obtain ⟨before, cand, after, split, planned, rfl, fits, rejected⟩ := firstEligible_split chosen
  have ordered := activeSubscriptions_ordered env.now userId db
  have members : ∀ other, other ∈ activeSubscriptions env.now userId db ↔
      other ∈ before ∨ other = cand ∨ other ∈ after := by
    intro other
    rw [split, mem_append, mem_cons]
  have here := (members cand).mpr (Or.inr (Or.inl rfl))
  have later : ∀ other ∈ after, expiresBefore cand other := by
    rw [split] at ordered
    exact fun _ => rel_of_pairwise_cons (pairwise_append.mp ordered).2.1
  rw [planTypeOf_reset (refresh_resetOf env db cand)]
  constructor
  · intro quota other mem tokens otherFits
    rcases (members other).mp mem with earlier | rfl | behind
    · cases (rejected other earlier .tokens tokens).symm.trans otherFits
    · rw [quota] at tokens
      cases tokens
    · exact ⟨cand, here, quota, fits, later other behind⟩
  · intro first
    cases typed : planTypeOf db cand with
    | none =>
      obtain ⟨plan, found⟩ := isSome_iff_exists.mp planned
      rw [planTypeOf, found] at typed
      cases typed
    | some planType =>
      cases planType with
      | quota => rfl
      | tokens =>
        obtain ⟨other, mem, quota, otherFits, precedes⟩ := first cand here typed fits
        rcases (members other).mp mem with earlier | rfl | behind
        · cases (rejected other earlier .quota quota).symm.trans otherFits
        · rw [typed] at quota
          cases quota
        have sameId := expiresBefore_antisymm precedes (later other behind)
        have stored := lookup_of_mem (activeSubscriptions_mem mem).1
        rw [sameId, lookup_of_mem (activeSubscriptions_mem here).1] at stored
        rw [← Option.some.inj stored, typed] at quota
        cases quota

/-- A quota pre-consumption of a new request charges a quota plan exactly when quota subscriptions come first. -/
theorem preConsume_quota_iff {requestId : String} {world after : World} {res : PreConsumeResult}
    (fresh : world.db.records.lookup requestId = none)
    (run : preConsumeUserSubscription requestId userId modelName amount world = (.ok res, after)) :
    ((world.db.subs.lookup res.userSubscriptionId).bind (planTypeOf world.db) = some .quota) ↔
      quotaPlanFirst world.env userId modelName amount world.db := by
  obtain ⟨_, _, sub, _, _, chosen, rfl, _⟩ := preConsume_ok amountMeter prepareQuota_prepares fresh run
  obtain ⟨before, cand, _, split, _, rfl, _⟩ := firstEligible_split chosen
  have reset := refresh_resetOf world.env world.db cand
  have mem : cand ∈ activeSubscriptions world.env.now userId world.db := by
    rw [split]
    exact mem_append_right _ mem_cons_self
  have stored := lookup_of_mem (activeSubscriptions_mem mem).1
  change (world.db.subs.lookup (refresh world.env world.db cand).id).bind _ = _ ↔ _
  rw [reset.id_eq, stored, bind_some, ← planTypeOf_reset reset]
  exact chosen_quota_iff chosen

/-! Runs of calls. -/

inductive Call where
  | preConsume (requestId : String) (userId : Int) (modelName : String) (amount : Int)
  | preConsumeTokens (requestId : String) (userId : Int) (modelName : String) (tokens : Int)
  | postConsumeDelta (userSubscriptionId delta : Int)
  | postConsumeTokensDelta (userSubscriptionId delta : Int)
  | refund (requestId : String)
  | refundTokens (requestId : String)

def Call.perform : Call → Program World String Unit
  | .preConsume requestId userId modelName amount =>
    logged (preConsumeUserSubscription requestId userId modelName amount)
  | .preConsumeTokens requestId userId modelName tokens =>
    logged (preConsumeUserSubscriptionTokens requestId userId modelName tokens)
  | .postConsumeDelta id delta => postConsumeUserSubscriptionDelta id delta
  | .postConsumeTokensDelta id delta => postConsumeUserSubscriptionTokensDelta id delta
  | .refund requestId => refundSubscriptionPreConsume requestId
  | .refundTokens requestId => refundSubscriptionTokensPreConsume requestId

structure Event where
  call : Call
  env : Env
  (readFaults writeFaults : List (Option String))

def step (db : Db) (event : Event) : Option Db :=
  some (event.call.perform ⟨event.env, db, event.readFaults, event.writeFaults⟩).2.db

/-- A quota pre-consumption finds quota subscriptions first, and a quota settlement that adds usage names a
subscription of another plan type than tokens. -/
def Call.proper (env : Env) (db : Db) : Call → Prop
  | .preConsume requestId userId modelName amount =>
    (db.records.lookup requestId).isSome ∨ quotaPlanFirst env userId modelName amount db
  | .postConsumeDelta id delta => delta ≤ 0 ∨ (db.subs.lookup id).bind (planTypeOf db) ≠ some .tokens
  | _ => True

def WithinPlan (sub : UserSubscription) : Prop :=
  sub.amountUsed = 0 ∧ (0 < sub.tokensLimit → sub.tokensUsed ≤ sub.tokensLimit)

def TokensPlansKept (db : Db) : Prop :=
  ∀ id sub, db.subs.lookup id = some sub → planTypeOf db sub = some .tokens → WithinPlan sub

section Steps

variable {changed : UserSubscription} {delta : Int}

theorem WithinPlan.reset (within : WithinPlan sub) (reset : ResetOf sub later) : WithinPlan later := by
  obtain ⟨used, last, next, rfl, kept⟩ := reset
  obtain ⟨unused, limited⟩ := within
  refine ⟨?_, limited⟩
  dsimp only
  omega

theorem WithinPlan.adjusted (within : WithinPlan sub) (lower : delta ≤ 0)
    (fits : amountMeter.adjusted sub delta = .ok changed) : WithinPlan changed := by
  obtain ⟨rfl, _⟩ := adjusted_ok amountMeter fits
  obtain ⟨unused, limited⟩ := within
  refine ⟨?_, limited⟩
  change max (sub.amountUsed + delta) 0 = 0
  omega

theorem WithinPlan.adjustedTokens (within : WithinPlan sub) (fits : tokensMeter.adjusted sub delta = .ok changed) :
    WithinPlan changed := by
  obtain ⟨rfl, room⟩ := adjusted_ok tokensMeter fits
  refine ⟨within.1, ?_⟩
  change sub.tokensLimit ≤ 0 ∨ max (sub.tokensUsed + delta) 0 ≤ sub.tokensLimit at room
  change 0 < sub.tokensLimit → max (sub.tokensUsed + delta) 0 ≤ sub.tokensLimit
  omega

theorem adjusted_planTypeOf {meter : Meter} (keeps : ∀ val, (meter.setUsed val sub).planId = sub.planId)
    (fits : meter.adjusted sub delta = .ok changed) : planTypeOf db changed = planTypeOf db sub := by
  obtain ⟨rfl, _⟩ := adjusted_fits meter fits
  rw [planTypeOf, keeps]
  rfl

theorem TokensPlansKept.refreshed (kept : TokensPlansKept db) {env : Env} {later : Db}
    (refreshed : Refreshed env db later) : TokensPlansKept later := by
  intro id row found typed
  have plans : later.plans = db.plans := by rw [refreshed.rest]
  have related := refreshed.rows id
  rw [found] at related
  cases before : db.subs.lookup id with
  | none =>
    rw [before] at related
    cases related
  | some old =>
    rw [before] at related
    cases related with
    | some renewed =>
      have reset := renewed.resetOf
      rw [planTypeOf, plans] at typed
      exact (kept id old before ((planTypeOf_reset reset).symm.trans typed)).reset reset

theorem TokensPlansKept.saved (kept : TokensPlansKept db)
    (within : planTypeOf db changed = some .tokens → WithinPlan changed) :
    TokensPlansKept (saveSubscription changed db) := by
  intro id row found typed
  change (db.subs.save changed).lookup id = some row at found
  rw [lookup_save] at found
  split at found
  · cases found
    exact within typed
  · exact kept id row found typed

theorem TokensPlansKept.led (kept : TokensPlansKept db) {world after : World} (led : Leads world db after) :
    TokensPlansKept after.db := by
  rw [led.db_eq]
  exact kept

end Steps

section Calls

variable {world : World} (kept : TokensPlansKept world.db)
include kept

variable (meter : Meter) (keeps : ∀ val sub, (meter.setUsed val sub).planId = sub.planId)
include keeps

theorem preConsume_kept {prepare : Env → UserSubscription → Program Tx String (Option UserSubscription)}
    {prepared : Env → Db → UserSubscription → Option UserSubscription}
    (spec : ∀ env, Prepares env (prepare env) (prepared env))
    {insufficient notPositive requestId modelName : String} {userId amount : Int}
    (within : world.db.records.lookup requestId = none → ∀ sub,
      meter.firstEligible prepared world.env userId modelName amount world.db = some sub →
      planTypeOf world.db sub = some .tokens → WithinPlan sub → WithinPlan (meter.charged sub amount)) :
    TokensPlansKept (meter.preConsume prepare insufficient notPositive requestId userId modelName amount world).2.db := by
  cases recorded : world.db.records.lookup requestId with
  | some record => exact kept.led (preConsume_replays meter spec recorded)
  | none =>
    rcases run : meter.preConsume prepare insufficient notPositive requestId userId modelName amount world with ⟨e | res, after⟩
    · exact kept.led (preConsume_error meter spec run)
    obtain ⟨_, later, sub, refreshed, stored, chosen, _, led⟩ := preConsume_ok meter spec recorded run
    have plans : later.plans = world.db.plans := by rw [refreshed.rest]
    have still : TokensPlansKept later := kept.refreshed refreshed
    have noted : TokensPlansKept (saveRecord ⟨requestId, userId, sub.id, amount, .consumed⟩ later) := still
    refine (noted.saved fun typed => ?_).led led
    change (later.plans.lookup _).map _ = _ at typed
    rw [Meter.charged, keeps] at typed
    refine within recorded sub chosen ?_ (still sub.id sub stored typed)
    rw [planTypeOf, ← plans]
    exact typed

theorem postConsume_kept (id delta : Int)
    (within : ∀ sub changed, world.db.subs.lookup id = some sub → planTypeOf world.db sub = some .tokens →
      meter.adjusted sub delta = .ok changed → WithinPlan changed) :
    TokensPlansKept (meter.postConsume id delta world).2.db := by
  rcases run : meter.postConsume id delta world with ⟨e | _, after⟩
  · exact kept.led (postConsume_error meter run)
  obtain ⟨_, idle⟩ | ⟨sub, changed, found, fits, led⟩ := postConsume_ok meter run
  · exact kept.led idle
  refine (kept.saved ?_).led led
  intro typed
  rw [adjusted_planTypeOf (fun val => keeps val sub) fits] at typed
  exact within sub changed found typed fits

theorem refund_kept (requestId : String)
    (lowers : ∀ sub changed delta, WithinPlan sub → delta ≤ 0 → meter.adjusted sub delta = .ok changed →
      WithinPlan changed) : TokensPlansKept (meter.refund requestId world).2.db := by
  rcases refund_outcome meter requestId world with idle | ⟨record, later, recorded, adjusted, ended⟩
  · exact kept.led idle
  have still : TokensPlansKept later := by
    rcases adjusted with rfl | ⟨sub, changed, found, charged, fits, rfl⟩
    · exact kept
    apply kept.saved
    intro typed
    rw [adjusted_planTypeOf (fun val => keeps val sub) fits] at typed
    exact lowers sub changed _ (kept _ sub found typed) (by omega) fits
  have marked : TokensPlansKept (saveRecord { record with status := .refunded } later) := still
  exact ended.elim still.led marked.led

end Calls

theorem perform_kept {world : World} (call : Call) (kept : TokensPlansKept world.db)
    (proper : call.proper world.env world.db) : TokensPlansKept (call.perform world).2.db := by
  cases call with
  | preConsume requestId userId modelName amount =>
    refine preConsume_kept kept amountMeter (fun _ _ => rfl) prepareQuota_prepares fun fresh sub chosen typed _ => ?_
    rw [(chosen_quota_iff chosen).mpr (proper.resolve_left (by simp [fresh]))] at typed
    cases typed
  | preConsumeTokens requestId userId modelName tokens =>
    refine preConsume_kept kept tokensMeter (fun _ _ => rfl) prepareTokens_prepares fun _ sub chosen _ within =>
      ⟨within.1, fun limited => ?_⟩
    have room := eligible_room tokensMeter (firstEligible_some tokensMeter chosen).1
    change 0 < sub.tokensLimit at limited
    change sub.tokensLimit ≤ 0 ∨ sub.tokensUsed + tokens ≤ sub.tokensLimit at room
    change sub.tokensUsed + tokens ≤ sub.tokensLimit
    omega
  | postConsumeDelta id delta =>
    apply postConsume_kept kept amountMeter (fun _ _ => rfl)
    intro sub changed found typed fits
    rcases proper with lower | other
    · exact (kept id sub found typed).adjusted lower fits
    · rw [found] at other
      exact absurd typed other
  | postConsumeTokensDelta id delta =>
    apply postConsume_kept kept tokensMeter (fun _ _ => rfl)
    exact fun sub changed found typed fits => (kept id sub found typed).adjustedTokens fits
  | refund requestId =>
    exact refund_kept kept amountMeter (fun _ _ => rfl) requestId fun _ _ _ within => within.adjusted
  | refundTokens requestId =>
    exact refund_kept kept tokensMeter (fun _ _ => rfl) requestId fun _ _ _ within _ => within.adjustedTokens

def properStep (db : Db) (event : Event) : Prop := event.call.proper event.env db

theorem step_kept (db : Db) (event : Event) (after : Db) (kept : TokensPlansKept db) (proper : properStep db event)
    (taken : step db event = some after) : TokensPlansKept after := by
  have ran := @perform_kept ⟨event.env, db, event.readFaults, event.writeFaults⟩ event.call kept proper
  exact Option.some.inj taken ▸ ran

/-- A quota pre-consumption charges a quota plan exactly when quota subscriptions come first; and in a run whose
steps are proper no tokens subscription is charged in quota or beyond its limit. -/
theorem quota_usage_on_quota_plans (requestId : String) (userId : Int) (modelName : String) (amount : Int) (world : World) :
    (∀ res after, world.db.records.lookup requestId = none →
      preConsumeUserSubscription requestId userId modelName amount world = (.ok res, after) →
      ((world.db.subs.lookup res.userSubscriptionId).bind (planTypeOf world.db) = some .quota ↔
        quotaPlanFirst world.env userId modelName amount world.db)) ∧
    ∀ events after, TokensPlansKept world.db → Runs.Guarded step properStep world.db events →
      Runs.exec step world.db events = some after → TokensPlansKept after := by
  constructor
  · intro res after fresh run
    exact preConsume_quota_iff fresh run
  · intro events after kept proper run
    exact Runs.exec_invariant step_kept kept proper run

def mixedDb : Db := { emptyDb with
  plans := (Table.empty.save ⟨5, "quota plan", "never", 0, .quota⟩).save ⟨6, "tokens plan", "never", 0, .tokens⟩
  subs := (Table.empty.save ⟨2, 1, 5, 200, 0, 0, 1500, .active, 0, 0, 0, 0, ""⟩).save
    ⟨3, 1, 6, 0, 0, 0, 2000, .active, 0, 0, 0, 100, ""⟩ }

theorem mixedDb_kept : TokensPlansKept mixedDb := by
  have rows : ∀ sub ∈ mixedDb.subs.rows, planTypeOf mixedDb sub = some .tokens →
      sub.amountUsed = 0 ∧ (0 < sub.tokensLimit → sub.tokensUsed ≤ sub.tokensLimit) := by decide
  exact fun _ sub found => rows sub (lookup_some found).1

theorem mixedDb_charges_quota_plan :
    ∃ after, Runs.exec step mixedDb [⟨.preConsume "request" 1 "model" 50, plainEnv, [], []⟩] = some after ∧
      after.subs.column UserSubscription.amountUsed 2 = 50 ∧ TokensPlansKept after := by
  have both := quota_usage_on_quota_plans "request" 1 "model" 50 (healthy plainEnv mixedDb)
  have first : quotaPlanFirst plainEnv 1 "model" 50 mixedDb := (both.1 _ _ rfl rfl).mp rfl
  have proper : Runs.Guarded step properStep mixedDb [⟨.preConsume "request" 1 "model" 50, plainEnv, [], []⟩] :=
    ⟨Or.inr first, fun _ _ => trivial⟩
  exact ⟨_, rfl, by decide, both.2 _ _ mixedDb_kept proper rfl⟩

/-- A request too large for the quota subscription is charged to the tokens subscription, far beyond its limit. -/
theorem mixedDb_charges_tokens_plan :
    ∃ res after, preConsumeUserSubscription "request" 1 "model" 500 (healthy plainEnv mixedDb) = (.ok res, after) ∧
      (mixedDb.subs.lookup res.userSubscriptionId).bind (planTypeOf mixedDb) = some .tokens ∧
      after.db.subs.column UserSubscription.amountUsed 3 = 500 ∧
      after.db.subs.column UserSubscription.tokensLimit 3 = 100 ∧ TokensPlansKept mixedDb :=
  ⟨_, _, rfl, by decide, by decide, by decide, mixedDb_kept⟩

end Tokengine.Billing.PlanTypes
