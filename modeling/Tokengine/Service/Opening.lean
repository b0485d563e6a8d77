import Tokengine.Service.PreConsume

/-! The ways in which a session can begin: which source pays, and what has been taken by then. -/

namespace Tokengine.Service.Session
open Program Model Database Quota Subscription Funding

def walletSession (userId effective : Int) : BillingSession :=
  { BillingSession.new (.wallet ⟨userId, max effective 0⟩) none with
    preConsumedQuota := effective
    tokenConsumed := max effective 0 }

def subscriptionSession (info : RelayInfo) (amount : Int) (sub : UserSubscription) (plan : SubscriptionPlanInfo) :
    BillingSession :=
  { BillingSession.new (.subscription (paidFrom (newSubscriptionFunding info amount) sub plan)) (some .quota) with
    preConsumedQuota := amount
    tokenConsumed := amount }

def tokensSession (info : RelayInfo) (amount : Int) (sub : UserSubscription) (plan : SubscriptionPlanInfo) :
    BillingSession :=
  { BillingSession.new (.tokens (paidTokensFrom (newTokensFunding info amount) amount sub plan)) (some .tokens) with
    preConsumedTokens := amount }

def walletQuota (trustQuota : Int) (info : RelayInfo) (quota : Int) : Int :=
  effectiveQuota trustQuota (.new (.wallet ⟨info.userId, 0⟩) none) info quota

def TokensLinked (db : Db) (tokenId : Int) : Prop :=
  0 < tokenId ∧ ∃ token sub plan, db.tokens.lookup tokenId = some token ∧ 0 < token.subscriptionId ∧
    db.subs.lookup token.subscriptionId = some sub ∧ 0 < sub.planId ∧ db.plans.lookup sub.planId = some plan ∧
    plan.planType = .tokens

/-- A request for `quota` has opened a session: which source pays, and what has been taken so far. -/
inductive Opened (info : RelayInfo) (quota : Int) (world : World) : BillingSession → World → Prop
  | wallet {after : World} (effective : Int) (is : effective = walletQuota world.env.trustQuota info quota)
      (enough : 0 < info.userQuota ∧ quota ≤ info.userQuota)
      (led : Leads world (chargeToken world.env info (max effective 0)
        (chargeUser world.env info.userId (max effective 0) world.db)) after) :
      Opened info quota world (walletSession info.userId effective) after
  | subscription {after : World} (db : Db) (sub : UserSubscription) (plan : SubscriptionPlanInfo)
      (named : Text.trimSpace info.requestId ≠ "") (refreshed : Refreshed world.env world.db db)
      (stored : db.subs.lookup sub.id = some sub)
      (chosen : amountMeter.firstEligible quotaCandidate world.env info.userId info.originModelName
        (subConsume quota) world.db = some sub)
      (led : Leads world (chargeToken world.env info (subConsume quota)
        (amountMeter.charge info.requestId info.userId (subConsume quota) sub db)) after) :
      Opened info quota world (subscriptionSession info (subConsume quota) sub plan) after
  | tokens {after : World} (db : Db) (sub : UserSubscription) (plan : SubscriptionPlanInfo)
      (linked : TokensLinked world.db info.tokenId) (refreshed : Refreshed world.env world.db db)
      (stored : db.subs.lookup sub.id = some sub)
      (chosen : tokensMeter.firstEligible tokensCandidate world.env info.userId info.originModelName
        (subConsume quota) world.db = some sub)
      (led : Leads world (tokensMeter.charge info.requestId info.userId (subConsume quota) sub db) after) :
      Opened info quota world (tokensSession info (subConsume quota) sub plan) after

theorem Opened.after_idle {info : RelayInfo} {quota : Int} {world middle after : World} {session : BillingSession}
    (idle : Idle world middle) (opened : Opened info quota middle session after) :
    Opened info quota world session after := by
  have tables := idle.db_eq
  have env := idle.env_eq
  cases opened with
  | wallet effective is enough led =>
    rw [env] at is
    rw [env, tables] at led
    exact .wallet effective is enough (Leads.trans idle led)
  | subscription db sub plan named refreshed stored chosen led =>
    rw [env, tables] at chosen
    rw [env, tables] at refreshed
    rw [env] at led
    exact .subscription db sub plan named refreshed stored chosen (Leads.trans idle led)
  | tokens db sub plan linked refreshed stored chosen led =>
    rw [env, tables] at chosen
    rw [env, tables] at refreshed
    rw [tables] at linked
    exact .tokens db sub plan linked refreshed stored chosen (Leads.trans idle led)

theorem subConsume_pos (quota : Int) : 0 < subConsume quota := by
  unfold subConsume
  split <;> omega

section Factory

variable {relay relay' : Relay} {session : BillingSession} {quota : Int}

theorem onRelayWorld_at {ε α : Type} (p : Program World ε α) (relay : Relay) :
    onRelayWorld p relay = ((p relay.world).1, ⟨relay.info, (p relay.world).2⟩) := rfl

def OpenedFor (relay : Relay) (quota : Int) (session : BillingSession) (relay' : Relay) : Prop :=
  ∃ userQuota, Opened { relay.info with userQuota } quota relay.world session relay'.world ∧
    relay'.info = syncRelayInfo session { relay.info with userQuota }

/-- How an attempt to open a session ends: it charged one source by the rules, or failed and left the tables alone. -/
def Ends (quota : Int) (relay : Relay) : Except NewAPIError BillingSession × Relay → Prop
  | (.ok session, relay') =>
    relay.world.db.records.lookup relay.info.requestId = none → OpenedFor relay quota session relay'
  | (.error _, relay') => Idle relay.world relay'.world ∧ ∃ userQuota, relay'.info = { relay.info with userQuota }

theorem Ends.after_idle {middle : World} {userQuota : Int} {outcome : Except NewAPIError BillingSession × Relay}
    (idle : Idle relay.world middle) (ends : Ends quota ⟨{ relay.info with userQuota }, middle⟩ outcome) :
    Ends quota relay outcome := by
  rcases outcome with ⟨err | session, relay'⟩
  · exact ⟨Idle.trans idle ends.1, ends.2⟩
  · intro fresh
    obtain ⟨later, opened, info⟩ := ends (by rw [idle.db_eq]; exact fresh)
    exact ⟨later, opened.after_idle idle, info⟩

theorem opening_ends {new : BillingSession} {program : Program Open NewAPIError Unit}
    (opens : ∀ o, program ⟨new, relay.info, relay.world⟩ = (.ok (), o) →
      relay.world.db.records.lookup relay.info.requestId = none → OpenedFor relay quota o.session ⟨o.info, o.world⟩)
    (fails : ∀ e o, program ⟨new, relay.info, relay.world⟩ = (.error e, o) →
      Idle relay.world o.world ∧ o.info = relay.info) : Ends quota relay (opening new program relay) := by
  unfold opening
  split
  next o built => exact opens o built
  next e o failed =>
    obtain ⟨idle, info⟩ := fails e o failed
    exact ⟨idle, _, info⟩

theorem tryWallet_ends (writable : relay.world.writeFaults = []) : Ends quota relay (tryWallet quota relay) := by
  rw [tryWallet, get_bind, attempt_bind, onRelayWorld_at]
  have idle := getUserQuota_idle relay.info.userId relay.world
  rcases looked : getUserQuota relay.info.userId relay.world with ⟨err | userQuota, middle⟩ <;> rw [looked] at idle
  · exact ⟨idle, _, rfl⟩
  dsimp only
  split
  · exact ⟨idle, _, rfl⟩
  split
  · exact ⟨idle, _, rfl⟩
  refine Ends.after_idle idle (opening_ends (fun o consumed _ => ?_) fun e o =>
    preConsume_leaves rfl (idle.writes writable))
  obtain ⟨effective, charged, funding, world, is, led, taken, state, info, rfl⟩ := preConsume_opens rfl consumed
  obtain ⟨paid, last, wallet, ended⟩ := bind_eq_ok taken
  cases ended
  obtain ⟨rfl, final⟩ := wallet_preConsume_ok wallet
  refine ⟨userQuota, ?_, info⟩
  rw [state]
  refine .wallet effective is ⟨by dsimp only; omega, by dsimp only; omega⟩ ?_
  rw [led.db_eq, led.env_eq, chargeUser_chargeToken] at final
  exact Leads.trans led final

theorem checkTokenHasTokensSubscription_idle (tokenId : Int) : Keeps Idle (checkTokenHasTokensSubscription tokenId) := by
  unfold checkTokenHasTokensSubscription
  split
  · exact keeps_pure _
  refine keeps_bind (keeps_guard (dbRead_idle _)) fun token => ?_
  split
  · exact keeps_pure _
  refine keeps_bind (keeps_guard (dbRead_idle _)) fun sub => keeps_bind (keeps_guard (dbRead_idle _)) fun plan => ?_
  split <;> exact keeps_pure _

theorem getSubscriptionPlanById_ok {id : Int} {plan : SubscriptionPlan} {world after : World}
    (run : getSubscriptionPlanById id world = (.ok plan, after)) : 0 < id ∧ world.db.plans.lookup id = some plan := by
  obtain ⟨pos, run⟩ := guard_ok run
  have found := (dbRead_ok run).1
  unfold planById at found
  split at found
  next present =>
    cases found
    exact ⟨Int.not_le.mp pos, present⟩
  · cases found

theorem checkTokenHasTokensSubscription_some {tokenId : Int} {sub : UserSubscription} {world after : World}
    (run : checkTokenHasTokensSubscription tokenId world = (.ok (some sub), after)) : TokensLinked world.db tokenId := by
  unfold checkTokenHasTokensSubscription at run
  split at run
  · cases run
  next pos =>
  obtain ⟨token, second, looked, rest⟩ := bind_eq_ok run
  rw [getTokenById, if_neg (by omega)] at looked
  obtain ⟨tokenFound, idle⟩ := dbRead_ok looked
  have tokenStored : world.db.tokens.lookup tokenId = some token := by
    split at tokenFound
    next present =>
      cases tokenFound
      exact present
    · cases tokenFound
  split at rest
  · cases rest
  next belongs =>
  obtain ⟨found, third, subRead, rest⟩ := bind_eq_ok rest
  rw [getUserSubscriptionById, if_neg belongs] at subRead
  obtain ⟨subFound, idleSub⟩ := dbRead_ok subRead
  obtain ⟨plan, fourth, planRead, rest⟩ := bind_eq_ok rest
  obtain ⟨planPositive, planStored⟩ := getSubscriptionPlanById_ok planRead
  have subStored := subscriptionById_ok subFound
  rw [idle.db_eq] at subStored
  rw [idleSub.db_eq, idle.db_eq] at planStored
  split at rest
  next tokens =>
    exact ⟨Int.not_le.mp pos, token, found, plan, tokenStored, Int.not_le.mp belongs, subStored, planPositive,
      planStored, tokens⟩
  · cases rest

theorem checkTokenHasTokensSubscription_linked (env : Env) {db : Db} {tokenId : Int}
    (linked : TokensLinked db tokenId) :
    ∃ sub, checkTokenHasTokensSubscription tokenId (healthy env db) = (.ok (some sub), healthy env db) := by
  obtain ⟨pos, token, sub, plan, tokenStored, belongs, subStored, planPositive, planStored, tokens⟩ := linked
  have tokenRead : getTokenById tokenId (healthy env db) = (.ok token, healthy env db) := by
    rw [getTokenById, if_neg (by omega), dbRead_healthy, tokenStored]
  have subRead : getUserSubscriptionById token.subscriptionId (healthy env db) =
      (.ok sub, healthy env db) := by
    rw [getUserSubscriptionById, if_neg (Int.not_le.mpr belongs), dbRead_healthy, subscriptionById, subStored]
  have planRead : getSubscriptionPlanById sub.planId (healthy env db) = (.ok plan, healthy env db) := by
    rw [getSubscriptionPlanById, if_neg (Int.not_le.mpr planPositive), dbRead_healthy, planById, planStored]
  refine ⟨sub, ?_⟩
  rw [checkTokenHasTokensSubscription, if_neg (Int.not_le.mpr pos), bind_ok tokenRead,
    if_neg (Int.not_le.mpr belongs), bind_ok subRead, bind_ok planRead, if_pos tokens]
  rfl

theorem subscription_effective (trustQuota : Int) (funding : SubscriptionFunding) (mode : Option BillingMode)
    (info : RelayInfo) (quota : Int) :
    effectiveQuota trustQuota (.new (.subscription funding) mode) info quota = quota := by
  have untrusted : shouldTrust trustQuota (.new (.subscription funding) mode) info = false := by
    simp [shouldTrust, BillingSession.new, FundingSource.source]
  rw [effectiveQuota, untrusted]
  rfl

theorem firstEligible_chargeToken (meter : Meter) {prepared : Env → Db → UserSubscription → Option UserSubscription}
    {prepare : Env → UserSubscription → Program Tx String (Option UserSubscription)}
    (spec : ∀ env, Prepares env (prepare env) (prepared env)) (env : Env) (info : RelayInfo)
    (tokenAmount userId : Int) (modelName : String) (amount : Int) (db : Db) :
    meter.firstEligible prepared env userId modelName amount (chargeToken env info tokenAmount db) =
      meter.firstEligible prepared env userId modelName amount db := by
  obtain ⟨subs, plans, _, _⟩ := chargeToken_tables env info tokenAmount db
  rw [Meter.firstEligible, (spec env).plans_only plans, activeSubscriptions, subs]
  rfl

theorem refreshed_chargeToken {env : Env} {info : RelayInfo} {amount : Int} {db later : Db}
    (refreshed : Refreshed env (chargeToken env info amount db) later) :
    Refreshed env db { db with subs := later.subs } ∧
      later = chargeToken env info amount { db with subs := later.subs } := by
  obtain ⟨subs, plans, _, _⟩ := chargeToken_tables env info amount db
  refine ⟨⟨rfl, fun id => ?_⟩, ?_⟩
  · have rows := refreshed.rows id
    unfold Renewed at rows
    rw [subs, refresh_plans plans] at rows
    exact rows
  · rw [← chargeToken_withSubs]
    exact refreshed.rest

theorem trySubscription_ends (writable : relay.world.writeFaults = []) :
    Ends quota relay (trySubscription quota relay) := by
  rw [trySubscription, get_bind, attempt_bind, onRelayWorld_at]
  have idle := checkTokenHasTokensSubscription_idle relay.info.tokenId relay.world
  rcases looked : checkTokenHasTokensSubscription relay.info.tokenId relay.world with ⟨err | tokensSub, middle⟩ <;>
    rw [looked] at idle
  · exact ⟨idle, _, rfl⟩
  apply Ends.after_idle idle
  cases tokensSub with
  | some sub =>
    have taking : ∀ o, preConsumeTokens (newTokensFunding relay.info (subConsume quota)) (subConsume quota) o = _ :=
      fun o => by rw [preConsumeTokens, attempt_bind, onWorld_at]
    rcases taken : (newTokensFunding relay.info (subConsume quota)).preConsumeTokens (subConsume quota) middle
      with ⟨err | paid, last⟩
    · refine opening_ends (fun o consumed => ?_) fun e o failed => ?_
      · rw [taking, taken] at consumed
        cases consumed
      · rw [taking, taken] at failed
        cases failed
        exact ⟨preConsumeTokens_refused taken, rfl⟩
    · refine opening_ends (fun o consumed unused => ?_) fun e o failed => ?_
      · obtain ⟨db, sub, plan, refreshed, stored, chosen, rfl, led⟩ :=
          tokens_preConsume_ok (subConsume_pos quota) unused taken
        rw [taking, taken] at consumed
        cases consumed
        have linked := checkTokenHasTokensSubscription_some looked
        rw [← idle.db_eq] at linked
        exact ⟨_, .tokens db sub plan linked refreshed stored chosen led, rfl⟩
      · rw [taking, taken] at failed
        cases failed
  | none =>
    refine opening_ends (fun o consumed unused => ?_) fun e o => preConsume_leaves rfl (idle.writes writable)
    obtain ⟨effective, charged, funding, world, is, led, taken, state, info, rfl⟩ := preConsume_opens rfl consumed
    rw [subscription_effective] at is
    subst is
    have whole : max (subConsume quota) 0 = subConsume quota := by
      have := subConsume_pos quota
      omega
    rw [whole] at led state
    obtain ⟨paid, last, wallet, ended⟩ := bind_eq_ok taken
    cases ended
    obtain ⟨sameSubs, samePlans, sameRecords, _⟩ :=
      chargeToken_tables middle.env relay.info (subConsume quota) middle.db
    obtain ⟨named, db, sub, plan, refreshed, stored, chosen, rfl, final⟩ :=
      subscription_preConsume_ok (by rw [led.db_eq, sameRecords]; exact unused) wallet
    rw [led.db_eq, led.env_eq] at refreshed chosen
    rw [firstEligible_chargeToken _ prepareQuota_prepares] at chosen
    obtain ⟨plain, is⟩ := refreshed_chargeToken refreshed
    refine ⟨_, ?_, info⟩
    rw [state]
    refine .subscription _ sub plan named plain stored chosen ?_
    rw [is, chargeToken_charge] at final
    exact Leads.trans led final

theorem orElse_ends {first second : Program Relay NewAPIError BillingSession} (writable : relay.world.writeFaults = [])
    (endsFirst : Ends quota relay (first relay))
    (endsSecond : ∀ middle : Relay, middle.world.writeFaults = [] → Ends quota middle (second middle)) :
    Ends quota relay (orElse first second relay) := by
  rw [orElse, attempt_bind]
  rcases tried : first relay with ⟨err | opened, info, world⟩ <;> rw [tried] at endsFirst
  · obtain ⟨idle, userQuota, rfl⟩ := endsFirst
    dsimp only
    split
    · exact .after_idle idle (endsSecond _ (idle.writes writable))
    · exact ⟨idle, userQuota, rfl⟩
  · exact endsFirst

theorem hasActiveUserSubscription_idle (userId : Int) : Keeps Idle (hasActiveUserSubscription userId) :=
  keeps_guard (keeps_bind getEnv_idle fun _ => dbRead_idle _)

theorem newBillingSession_ends (writable : relay.world.writeFaults = []) :
    Ends quota relay (newBillingSession quota relay) := by
  rw [newBillingSession, get_bind]
  cases normalizeBillingPreference relay.info.billingPreference with
  | subscriptionOnly => exact trySubscription_ends writable
  | walletOnly => exact tryWallet_ends writable
  | walletFirst => exact orElse_ends writable (tryWallet_ends writable) fun _ => trySubscription_ends
  | subscriptionFirst =>
    dsimp only
    rw [attempt_bind, onRelayWorld_at]
    have idle := hasActiveUserSubscription_idle relay.info.userId relay.world
    have middle := idle.writes writable
    apply Ends.after_idle idle
    rcases (hasActiveUserSubscription relay.info.userId relay.world).1 with err | (_ | _)
    · exact ⟨Leads.refl _, _, rfl⟩
    · exact tryWallet_ends middle
    · exact orElse_ends middle (trySubscription_ends middle) fun _ => tryWallet_ends

/-- Opening a session charges one source by the given rules. -/
theorem newBillingSession_opened (fresh : relay.world.db.records.lookup relay.info.requestId = none)
    (writable : relay.world.writeFaults = []) (run : newBillingSession quota relay = (.ok session, relay')) :
    OpenedFor relay quota session relay' := by
  have ends : Ends quota relay _ := newBillingSession_ends writable
  rw [run] at ends
  exact ends fresh

theorem newBillingSession_failed {e : NewAPIError} (writable : relay.world.writeFaults = [])
    (run : newBillingSession quota relay = (.error e, relay')) : Idle relay.world relay'.world := by
  have ends : Ends quota relay _ := newBillingSession_ends writable
  rw [run] at ends
  exact ends.1

end Factory

end Tokengine.Service.Session
