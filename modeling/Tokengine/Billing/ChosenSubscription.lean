import Tokengine.Billing.PlanTypes
import Tokengine.Model.Wrapping

/-! Which subscription a quota pre-consumption charges when every step in the database succeeds, and when there is none.
The sums are those of `int64`. -/

namespace Tokengine.Billing.ChosenSubscription
open Program Model Database ResetTime PlanTypes List
open Subscription hiding preConsumeUserSubscription
open Wrapping (preConsumeUserSubscription)

/-- The steps of the loop succeed for the candidate: its plan is there, and its reset loop ends. -/
def Steps (env : Env) (db : Db) (sub : UserSubscription) : Prop :=
  0 < sub.planId ∧ ∃ plan, db.plans.lookup sub.planId = some plan ∧
    ∃ outcome, dueReset env.utcOffset env.now plan sub = .ok outcome

def payable (env : Env) (modelName : String) (amount : Int) (db : Db) (sub : UserSubscription) : Bool :=
  amountMeter.int64.eligible modelName amount (refresh env db sub)

variable {env : Env} {db : Db} {userId amount : Int} {requestId modelName : String} {pending : Db → Db}

theorem prepareQuota_healthy (plans : (pending db).plans = db.plans) {cand : UserSubscription}
    (steps : Steps env db cand) : ∃ later, prepareQuota env cand ⟨healthy env db, pending⟩ =
        (.ok (some (refresh env db cand)), ⟨healthy env db, later⟩) ∧
      (later db).plans = db.plans ∧ (later db).records = (pending db).records := by
  obtain ⟨pos, plan, planned, outcome, due⟩ := steps
  have found : getSubscriptionPlanByIdTx cand.planId ⟨healthy env db, pending⟩ =
      (.ok plan, ⟨healthy env db, pending⟩) := by
    rw [getSubscriptionPlanByIdTx, if_neg (Int.not_le.mpr pos), txRead_healthy, planById, plans, planned]
  rw [prepareQuota, bind_ok found]
  unfold refresh maybeResetUserSubscriptionWithPlanTx
  rw [planned]
  simp only [due]
  cases outcome with
  | none => exact ⟨pending, rfl, plans, rfl⟩
  | some later => exact ⟨saveSubscription later ∘ pending, rfl, plans, rfl⟩

theorem consumeFirst_error {insufficient e : String} {cands : List UserSubscription} {after : Tx}
    (plans : (pending db).plans = db.plans) (fresh : (pending db).records.lookup requestId = none)
    (steps : ∀ cand ∈ cands, Steps env db cand)
    (run : amountMeter.int64.consumeFirst (prepareQuota env) insufficient requestId userId modelName amount cands
      ⟨healthy env db, pending⟩ = (.error e, after)) :
    ∀ cand ∈ cands, payable env modelName amount db cand = false := by
  induction cands generalizing pending with
  | nil => exact forall_mem_nil _
  | cons cand rest tail =>
    obtain ⟨later, prepared, samePlans, sameRecords⟩ := prepareQuota_healthy plans (steps cand mem_cons_self)
    rw [Meter.consumeFirst, bind_ok prepared] at run
    dsimp only at run
    rw [← sameRecords] at fresh
    by_cases fits : amountMeter.int64.eligible modelName amount (refresh env db cand) = true
    · rw [if_pos fits, Meter.consume, attempt_bind, createRecord, txWrite_healthy (by rw [fresh])] at run
      cases run
    rw [if_neg fits] at run
    have others := tail samePlans fresh (fun other mem => steps other (mem_cons_of_mem _ mem)) run
    intro other mem
    rcases mem_cons.mp mem with rfl | mem
    · exact Bool.eq_false_iff.mpr fits
    · exact others other mem

/-- The subscription can pay: it is active and not expired, its models allow the model, and what is left after a due
reset is enough. -/
def Fits (env : Env) (userId : Int) (modelName : String) (amount : Int) (db : Db) (sub : UserSubscription) : Prop :=
  isActive env.now userId sub = true ∧ modelApplicable sub modelName = true ∧
    (sub.amountTotal ≤ 0 ∨ amount ≤ wrap64 (sub.amountTotal - (refresh env db sub).amountUsed))

theorem fits_iff {sub : UserSubscription} : sub ∈ db.subs.rows ∧ Fits env userId modelName amount db sub ↔
      sub ∈ activeSubscriptions env.now userId db ∧ payable env modelName amount db sub = true := by
  obtain ⟨used, last, next, reset, _⟩ := refresh_resetOf env db sub
  rw [activeSubscriptions, mem_insertionSort, mem_filter, Fits, payable, Meter.eligible, Meter.hasRoom, reset]
  simp [modelApplicable, amountMeter, Meter.int64, and_assoc]

/-- The tables after a charge to the first subscription that can pay, in the order of the end times and ids. Other
subscriptions have changed only by a due reset. -/
def ChargedFirst (env : Env) (requestId : String) (userId : Int) (modelName : String) (amount : Int)
    (db after : Db) : Prop :=
  ∃ sub ∈ db.subs.rows, Fits env userId modelName amount db sub ∧
    (∀ other ∈ db.subs.rows, Fits env userId modelName amount db other → expiresBefore sub other) ∧
    ∃ later, Refreshed env db later ∧
      after = amountMeter.int64.charge requestId userId amount (refresh env db sub) later

section

variable (new : db.records.lookup requestId = none)
  (steps : ∀ sub ∈ activeSubscriptions env.now userId db, Steps env db sub)
include new steps

theorem preConsume_refused {e : String} {after : World} (pos : 0 < userId ∧ 0 < amount)
    (named : Text.trimSpace requestId ≠ "")
    (run : preConsumeUserSubscription requestId userId modelName amount (healthy env db) = (.error e, after)) :
    ∀ sub ∈ activeSubscriptions env.now userId db, payable env modelName amount db sub = false := by
  rw [preConsumeUserSubscription, Meter.preConsume, if_neg (Int.not_le.mpr pos.1), if_neg named,
    if_neg (Int.not_le.mpr pos.2), getEnv_bind] at run
  rcases body : amountMeter.int64.preConsumeTx (prepareQuota env) s!"subscription quota insufficient, need={amount}" requestId
    userId modelName amount env.now ⟨healthy env db, id⟩ with ⟨e | res, last⟩
  · rw [Meter.preConsumeTx, bind_at, txRead_healthy] at body
    simp only [id, new] at body
    rw [attempt_bind, txRead_healthy] at body
    rcases listed : activeSubscriptions env.now userId db with _ | ⟨first, rest⟩
    · exact forall_mem_nil _
    · simp only [id, listed] at body
      exact consumeFirst_error rfl new (listed ▸ steps) body
  · have still := preConsumeTx_confined amountMeter.int64 (prepareQuota_prepares env).confined
      s!"subscription quota insufficient, need={amount}" requestId userId modelName amount env.now ⟨healthy env db, id⟩
    rw [body] at still
    obtain ⟨world, pending⟩ := last
    obtain rfl := Leads.healthy_eq still
    cases (transaction_healthy body).symm.trans run

theorem chargedFirst_of_ok {res : PreConsumeResult} {after : World}
    (run : preConsumeUserSubscription requestId userId modelName amount (healthy env db) = (.ok res, after)) :
    ChargedFirst env requestId userId modelName amount db after.db := by
  obtain ⟨_, later, _, refreshed, _, chosen, _, led⟩ := preConsume_ok amountMeter.int64 prepareQuota_prepares new run
  obtain ⟨before, sub, rest, split, _, rfl, pays, rejected⟩ := firstEligible_split chosen
  change activeSubscriptions env.now userId db = before ++ sub :: rest at split
  have listed : sub ∈ activeSubscriptions env.now userId db := by simp [split]
  obtain ⟨stored, fits⟩ := fits_iff.mpr ⟨listed, pays⟩
  refine ⟨sub, stored, fits, fun other mem able => ?_, later, refreshed, led.db_eq⟩
  obtain ⟨cand, payable⟩ := fits_iff.mp ⟨mem, able⟩
  obtain ⟨_, plan, planned, _⟩ := steps other cand
  have ordered := activeSubscriptions_ordered env.now userId db
  rw [split] at ordered cand
  rcases mem_append.mp cand with earlier | later
  · have typed : planTypeOf db other = some plan.planType := by rw [planTypeOf, planned, Option.map_some]
    cases (rejected other earlier _ typed).symm.trans payable
  · rcases mem_cons.mp later with rfl | later
    · exact Or.inr ⟨rfl, Int.le_refl _⟩
    · exact (pairwise_cons.mp (pairwise_append.mp ordered).2.1).1 other later

/-- A new request charges the first subscription that can pay. It fails only when there is none, and a request that
fails leaves the tables as they were. -/
theorem charged_first_that_fits (pos : 0 < userId ∧ 0 < amount) (named : Text.trimSpace requestId ≠ "") :
    (∀ res after,
      preConsumeUserSubscription requestId userId modelName amount (healthy env db) = (.ok res, after) →
      ChargedFirst env requestId userId modelName amount db after.db) ∧
    ((∃ e after, preConsumeUserSubscription requestId userId modelName amount (healthy env db) = (.error e, after)) ↔
      ∀ sub ∈ db.subs.rows, ¬Fits env userId modelName amount db sub) ∧
    ∀ world e after, preConsumeUserSubscription requestId userId modelName amount world = (.error e, after) →
      after.db = world.db := by
  refine ⟨fun res after run => chargedFirst_of_ok new steps run, ⟨?_, fun none => ?_⟩, fun world e after run => ?_⟩
  · intro ⟨e, after, run⟩ sub stored fits
    obtain ⟨listed, pays⟩ := fits_iff.mp ⟨stored, fits⟩
    cases (preConsume_refused new steps pos named run sub listed).symm.trans pays
  · rcases run : preConsumeUserSubscription requestId userId modelName amount (healthy env db) with ⟨e | res, after⟩
    · exact ⟨e, after, rfl⟩
    · obtain ⟨sub, stored, fits, _⟩ := chargedFirst_of_ok new steps run
      exact absurd fits (none sub stored)
  · exact (preConsume_error amountMeter.int64 prepareQuota_prepares run).db_eq

end

theorem mixedDb_charges_earliest :
    ∃ res after, preConsumeUserSubscription "request" 1 "model" 50 (healthy plainEnv mixedDb) = (.ok res, after) ∧
      ChargedFirst plainEnv "request" 1 "model" 50 mixedDb after.db := by
  have steps : ∀ sub ∈ activeSubscriptions plainEnv.now 1 mixedDb, Steps plainEnv mixedDb sub := by
    intro sub listed
    rcases mem_cons.mp (activeSubscriptions_mem listed).1 with rfl | rows
    · exact ⟨by decide, _, rfl, _, rfl⟩
    · obtain rfl := mem_singleton.mp rows
      exact ⟨by decide, _, rfl, _, rfl⟩
  have named : Text.trimSpace "request" ≠ "" := by decide
  exact ⟨_, _, rfl, (charged_first_that_fits rfl steps ⟨by decide, by decide⟩ named).1 _ _ rfl⟩

end Tokengine.Billing.ChosenSubscription
