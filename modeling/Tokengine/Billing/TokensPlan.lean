import Tokengine.Billing.Conservation
import Tokengine.Service.Billing

/-! When the end of a request leaves a tokens subscription charged with the tokens it used. Usage and its sums
are within the range of `int64`. -/

namespace Tokengine.Billing.TokensPlan
open Program Model Database Quota Subscription Table
open Service Funding Session Billing OneSource Conservation

inductive Completion where
  | failed
  | text (quota : Int)
  | audio (quota : Int)
  | task (quota : Int)

/-- What the code runs at the end of a request that used `tokens`. -/
def complete (tokens : Int) : Completion → Program Request String Unit
  | .failed => refundBilling
  | .text quota => postTextConsumeQuota tokens quota
  | .audio quota => postAudioConsumeQuota tokens quota
  | .task quota => settleTask quota

def owed (tokens : Int) : Completion → Int
  | .failed => 0
  | _ => tokens

/-- The ends at which the charge is right: a failed request is not returned, and audio requests and tasks keep
the `preConsumed` estimate. -/
def settlesExactly (before preConsumed tokens : Int) : Completion → Prop
  | .failed => False
  | .text _ => 0 ≤ before + tokens
  | .audio _ => tokens = preConsumed
  | .task _ => tokens = preConsumed

def tokensUsedOf (db : Db) (subscriptionId : Int) : Int := db.subs.column UserSubscription.tokensUsed subscriptionId

section Completions

variable (env : Env) (info : RelayInfo) (n : Int) (sub : UserSubscription) (plan : SubscriptionPlanInfo)
  (cur : RelayInfo) (db : Db)

def tokensRequest : Request := ⟨cur, some (tokensSession info n sub plan), healthy env db⟩

theorem countUsage_healthy (quota : Int) (billing : Option BillingSession) :
    ∃ db', countUsage quota ⟨cur, billing, healthy env db⟩ =
      (.ok (), ⟨cur, billing, healthy env db'⟩) ∧ SameBalances db db' := by
  obtain ⟨middle, counted, same⟩ := updateUserUsedQuotaAndRequestCount_counts cur.userId quota env db
  obtain ⟨last, ch, again⟩ := updateChannelUsedQuota_counts cur.channelId quota env middle
  have first : onRequestWorld (updateUserUsedQuotaAndRequestCount cur.userId quota)
      ⟨cur, billing, healthy env db⟩ = (.ok (), ⟨cur, billing, healthy env middle⟩) := by
    rw [onRequestWorld, zoom_at, counted]
  have second : onRequestWorld (updateChannelUsedQuota cur.channelId quota)
      ⟨cur, billing, healthy env middle⟩ = (.ok (), ⟨cur, billing, healthy env last⟩) := by
    rw [onRequestWorld, zoom_at, ch]
  refine ⟨last, ?_, same.trans again⟩
  rw [countUsage, get_bind, bind_ok first]
  exact second

theorem settleBilling_keeps_subs (actual : Int) :
    ∃ current' billing db', settleBilling actual (tokensRequest env info n sub plan cur db) =
      (.ok (), ⟨current', billing, healthy env db'⟩) ∧ db'.subs = db.subs := by
  change ∃ current' billing db', withSession (tokensSession info n sub plan) (settle actual)
    (tokensRequest env info n sub plan cur db) = (.ok (), ⟨current', billing, healthy env db'⟩) ∧ _
  rw [withSession, tokensRequest]
  by_cases nothing : actual = 0
  · rw [settle_exact rfl nothing]
    exact ⟨_, _, db, rfl, rfl⟩
  have differs : actual - (tokensSession info n sub plan).preConsumedQuota ≠ 0 := by
    change actual - 0 ≠ 0
    omega
  have paid : (tokensSession info n sub plan).funding.settle
      (actual - (tokensSession info n sub plan).preConsumedQuota) (healthy env db) =
      (.ok (), healthy env db) := rfl
  rw [settle_adjusts (tokensSession info n sub plan) cur rfl rfl differs paid]
  exact ⟨_, _, _, rfl, (chargeToken_tables _ _ _ _).1⟩

theorem settleTask_keeps_subs (quota : Int) :
    (settleTask quota (tokensRequest env info n sub plan cur db)).2.world.db.subs = db.subs := by
  obtain ⟨current', billing, db', settled, kept⟩ := settleBilling_keeps_subs env info n sub plan cur db quota
  obtain ⟨last, counted, same⟩ := countUsage_healthy env current' db' quota billing
  rw [settleTask, logged_bind, settled, counted]
  exact same.subs.trans kept

theorem countTokens_healthy (tokens quota : Int) (billing : Option BillingSession) :
    ∃ db', countTokens tokens quota ⟨cur, billing, healthy env db⟩ =
      (.ok (), ⟨cur, billing, healthy env db'⟩) ∧ SameBalances db db' := by
  unfold countTokens
  split
  · exact ⟨db, rfl, SameBalances.refl db⟩
  · exact countUsage_healthy env cur db quota billing

theorem postAudio_keeps_subs (tokens quota : Int) :
    (postAudioConsumeQuota tokens quota (tokensRequest env info n sub plan cur db)).2.world.db.subs = db.subs := by
  obtain ⟨middle, counted, same⟩ := countTokens_healthy env cur db tokens (if tokens = 0 then 0 else quota)
    (some (tokensSession info n sub plan))
  obtain ⟨current', billing, db', settled, kept⟩ := settleBilling_keeps_subs env info n sub plan cur middle
    (if tokens = 0 then 0 else quota)
  rw [postAudioConsumeQuota, tokensRequest, bind_ok counted, logged]
  change (settleBilling _ (tokensRequest env info n sub plan cur middle)).2.world.db.subs = _
  rw [settled]
  exact kept.trans same.subs

variable (tokens : Int) (pos : 0 < sub.id)
  (stored : db.subs.lookup sub.id = some { sub with tokensUsed := sub.tokensUsed + n })
  (within : 0 < sub.tokensLimit → sub.tokensUsed + tokens ≤ sub.tokensLimit)
include pos stored within

theorem settleTokens_charges :
    tokensUsedOf (settleTokens tokens ⟨tokensSession info n sub plan, cur, healthy env db⟩).2.world.db sub.id =
      if tokens = n then sub.tokensUsed + n else max (sub.tokensUsed + tokens) 0 := by
  by_cases exactly : tokens = n
  · rw [settleTokens_exact rfl rfl exactly, if_pos exactly]
    change tokensUsedOf db sub.id = _
    rw [tokensUsedOf, column_of_lookup stored]
  · have nonzero : tokens - n ≠ 0 := by omega
    have sum : sub.tokensUsed + n + (tokens - n) = sub.tokensUsed + tokens := by omega
    have fits := adjusted_within tokensMeter { sub with tokensUsed := sub.tokensUsed + n } (tokens - n)
      (by change sub.tokensLimit ≤ 0 ∨ sub.tokensUsed + n + (tokens - n) ≤ sub.tokensLimit; omega)
    have paid : (tokensSession info n sub plan).funding.settleTokens
        (tokens - (tokensSession info n sub plan).preConsumedTokens) (healthy env db) =
        (.ok (), healthy env (saveSubscription { sub with tokensUsed := max (sub.tokensUsed + tokens) 0 } db)) := by
      change TokensSubscriptionFunding.settleTokens (paidTokensFrom (newTokensFunding info n) n sub plan)
        (tokens - n) _ = _
      rw [TokensSubscriptionFunding.settleTokens, if_neg nonzero]
      change tokensMeter.postConsume sub.id _ _ = _
      rw [postConsume_healthy tokensMeter pos nonzero stored, fits, ← sum]
      rfl
    rw [settleTokens_adjusts (tokensSession info n sub plan) cur rfl rfl rfl nonzero paid, if_neg exactly]
    exact column_of_lookup (lookup_save_self _ _) _

theorem postText_charges (quota : Int) (priced : cur.priceBillingMode = .tokens) :
    tokensUsedOf (postTextConsumeQuota tokens quota (tokensRequest env info n sub plan cur db)).2.world.db
      sub.id = if tokens = n then sub.tokensUsed + n else max (sub.tokensUsed + tokens) 0 := by
  obtain ⟨middle, counted, same⟩ := countTokens_healthy env cur db tokens quota
    (some (tokensSession info n sub plan))
  rw [← same.subs] at stored
  rw [postTextConsumeQuota, tokensRequest, bind_ok counted, get_bind, if_pos priced, logged, settleBillingWithTokens,
    get_bind]
  exact settleTokens_charges env info n sub plan cur middle tokens pos stored within

theorem complete_charges (completion : Completion)
    (priced : ∀ quota, completion = .text quota → cur.priceBillingMode = .tokens) :
    tokensUsedOf (complete tokens completion (tokensRequest env info n sub plan cur db)).2.world.db sub.id =
      match completion with
      | .text _ => if tokens = n then sub.tokensUsed + n else max (sub.tokensUsed + tokens) 0
      | _ => sub.tokensUsed + n := by
  have estimate : tokensUsedOf db sub.id = sub.tokensUsed + n := column_of_lookup stored _
  cases completion with
  | failed =>
    exact estimate
  | text quota => exact postText_charges env info n sub plan cur db tokens pos stored within quota (priced quota rfl)
  | audio quota =>
    rw [complete, tokensUsedOf, postAudio_keeps_subs]
    exact estimate
  | task quota =>
    rw [complete, tokensUsedOf, settleTask_keeps_subs]
    exact estimate

end Completions

theorem priceBillingMode_linked {env : Env} {db : Db} {tokenId : Int} (linked : TokensLinked db tokenId) :
    priceBillingMode tokenId (healthy env db) = (.ok .tokens, healthy env db) := by
  obtain ⟨sub, looked⟩ := checkTokenHasTokensSubscription_linked env linked
  rw [priceBillingMode, attempt_bind, looked]
  rfl

/-- A tokens subscription ends up charged with the tokens a request used, or with nothing for a failed request,
exactly at the ends that settle in tokens or whose estimate was right. -/
theorem tokens_completion_exact_iff (relay relay' : Relay) (quota : Int) (session : BillingSession)
    (funding : TokensSubscriptionFunding) (env : Env) (db : Db) (succeeds : relay.world = healthy env db)
    (admitted : Admitted relay) (wellFormed : WellFormed db)
    (run : newBillingSession quota relay = (.ok session, relay')) (inTokens : session.funding = .tokens funding)
    (completion : Completion) (tokens : Int) (priced : ∀ price, completion = .text price →
      priceBillingMode relay.info.tokenId relay.world = (.ok relay.info.priceBillingMode, relay.world))
    (within : ∀ row, db.subs.lookup funding.subscriptionId = some row → 0 < row.tokensLimit →
      row.tokensUsed + tokens ≤ row.tokensLimit) :
    tokensUsedOf (complete tokens completion ⟨relay'.info, some session, relay'.world⟩).2.world.db
        funding.subscriptionId = tokensUsedOf db funding.subscriptionId + owed tokens completion ↔
      settlesExactly (tokensUsedOf db funding.subscriptionId) (subConsume quota) tokens completion := by
  obtain ⟨userQuota, opened, info⟩ := newBillingSession_opened admitted.fresh (by rw [succeeds]; rfl) run
  rw [succeeds] at opened
  have positiveEstimate := subConsume_pos quota
  cases opened with
  | wallet | subscription => cases inTokens
  | tokens rows sub plan linked refreshed stored chosen led =>
    cases inTokens
    obtain ⟨_, cand, mem, handed⟩ := firstEligible_some tokensMeter chosen
    obtain ⟨_, rfl⟩ := tokensCandidate_some handed
    have tokenLinked : TokensLinked db relay.info.tokenId := linked
    have row : db.subs.lookup cand.id = some cand := lookup_of_mem mem
    have before : tokensUsedOf db cand.id = cand.tokensUsed := column_of_lookup row _
    have mode : ∀ price, completion = .text price → relay'.info.priceBillingMode = .tokens := by
      intro price text
      have looked := priced price text
      rw [succeeds, priceBillingMode_linked tokenLinked] at looked
      rw [info, syncRelayInfo_priceBillingMode]
      exact (Except.ok.inj (congrArg Prod.fst looked)).symm
    have charged := complete_charges env { relay.info with userQuota } (subConsume quota) cand plan relay'.info
      (tokensMeter.charge relay.info.requestId relay.info.userId (subConsume quota) cand rows) tokens
      (wellFormed.ids cand mem) (lookup_save_self _ _) (within cand row) completion mode
    rw [led.healthy_eq]
    change tokensUsedOf _ cand.id = tokensUsedOf db cand.id + _ ↔ settlesExactly (tokensUsedOf db cand.id) _ _ _
    refine Iff.trans (Eq.congr_left charged) ?_
    cases completion with
    | failed =>
      simp only [owed, settlesExactly, iff_false]
      omega
    | text price =>
      have used := (wellFormed.usage cand mem).2
      simp only [owed, settlesExactly]
      split <;> omega
    | audio | task =>
      simp only [owed, settlesExactly]
      omega

def tokensRelay : Relay where
  info := { walletRelay.info with billingPreference := "subscription_only", priceBillingMode := .tokens }
  world := healthy plainEnv { walletRelay.world.db with
    tokens := Table.empty.save ⟨7, "key", 500, 0, false, 3⟩
    plans := Table.empty.save ⟨5, "plan", "never", 0, .tokens⟩
    subs := Table.empty.save ⟨3, 1, 5, 0, 0, 0, 2000, .active, 0, 0, 0, 1000, ""⟩ }

theorem tokensRelay_admitted : Admitted tokensRelay := ⟨by decide, by decide, by decide⟩

theorem tokensRelay_text_exact : ∃ session funding relay', newBillingSession 10 tokensRelay = (.ok session, relay') ∧
      session.funding = .tokens funding ∧
      (tokensUsedOf (complete 25 (.text 60) ⟨relay'.info, some session, relay'.world⟩).2.world.db
        funding.subscriptionId = tokensUsedOf tokensRelay.world.db funding.subscriptionId + owed 25 (.text 60) ↔
        settlesExactly (tokensUsedOf tokensRelay.world.db funding.subscriptionId) (subConsume 10) 25 (.text 60)) :=
  ⟨_, _, _, rfl, rfl, tokens_completion_exact_iff tokensRelay _ 10 _ _ plainEnv tokensRelay.world.db rfl
    tokensRelay_admitted ⟨by decide, by decide⟩ rfl rfl (.text 60) 25 (fun _ _ => rfl)
    (by intro row stored; cases stored; decide)⟩

/-- After a failed request and its refund the estimate of 10 is still charged, and an audio request of 25 tokens
is charged with the estimate. -/
theorem tokensRelay_keeps_estimate : ∃ session relay', newBillingSession 10 tokensRelay = (.ok session, relay') ∧
      session.billingMode = some .tokens ∧
      tokensUsedOf (complete 0 .failed ⟨relay'.info, some session, relay'.world⟩).2.world.db 3 =
        tokensUsedOf tokensRelay.world.db 3 + 10 ∧
      tokensUsedOf (complete 25 (.audio 60) ⟨relay'.info, some session, relay'.world⟩).2.world.db 3 =
        tokensUsedOf tokensRelay.world.db 3 + 10 ∧ Admitted tokensRelay ∧ WellFormed tokensRelay.world.db :=
  ⟨_, _, rfl, by decide, by decide, by decide, tokensRelay_admitted, ⟨by decide, by decide⟩⟩

end Tokengine.Billing.TokensPlan
