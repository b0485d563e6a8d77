import Tokengine.Service.Session

/-! What a pre-consumption takes from the token and from the funding source. -/

namespace Tokengine.Service.Session
open Program Model Database Quota Subscription Funding

def chargeToken (env : Env) (info : RelayInfo) (amount : Int) (db : Db) : Db :=
  if info.isPlayground then db else changeTokenQuota env.batchUpdateEnabled info.tokenId (-amount) db

def chargeUser (env : Env) (userId amount : Int) (db : Db) : Db :=
  changeUserQuota env.batchUpdateEnabled userId (-amount) db

variable (env : Env)

theorem chargeToken_zero (info : RelayInfo) (db : Db) : chargeToken env info 0 db = db := by
  unfold chargeToken
  split
  · rfl
  · exact changeTokenQuota_zero _ _ _

theorem chargeToken_add (info : RelayInfo) (first second : Int) (db : Db) :
    chargeToken env info second (chargeToken env info first db) = chargeToken env info (first + second) db := by
  unfold chargeToken
  split
  · rfl
  · rw [changeTokenQuota_add, Int.neg_add]

def SameToken (info other : RelayInfo) : Prop := other.tokenId = info.tokenId ∧ other.isPlayground = info.isPlayground

variable {info : RelayInfo}

theorem SameToken.chargeToken_eq {other : RelayInfo} (same : SameToken info other) (env : Env) :
    chargeToken env other = chargeToken env info := by
  funext amount db
  rw [chargeToken, chargeToken, same.1, same.2]

theorem syncRelayInfo_sameToken (session : BillingSession) (info : RelayInfo) :
    SameToken info (syncRelayInfo session info) := by
  unfold syncRelayInfo
  cases session.funding <;> exact ⟨rfl, rfl⟩

theorem syncRelayInfo_priceBillingMode (session : BillingSession) (info : RelayInfo) :
    (syncRelayInfo session info).priceBillingMode = info.priceBillingMode := by
  unfold syncRelayInfo
  cases session.funding <;> rfl

theorem chargeUser_zero (userId : Int) (db : Db) : chargeUser env userId 0 db = db :=
  changeUserQuota_zero _ _ _

theorem chargeUser_add (userId first second : Int) (db : Db) :
    chargeUser env userId second (chargeUser env userId first db) = chargeUser env userId (first + second) db := by
  rw [chargeUser, chargeUser, changeUserQuota_add, ← Int.neg_add]
  rfl

theorem chargeUser_chargeToken (userId : Int) (info : RelayInfo) (first second : Int) (db : Db) :
    chargeUser env userId first (chargeToken env info second db) =
      chargeToken env info second (chargeUser env userId first db) := by
  unfold chargeToken
  split
  · rfl
  · exact changeUserQuota_changeTokenQuota _ _ _ _ _ _

theorem chargeUser_tables (userId amount : Int) (db : Db) : (chargeUser env userId amount db).tokens = db.tokens ∧
      (chargeUser env userId amount db).subs = db.subs ∧ (chargeUser env userId amount db).records = db.records := by
  unfold chargeUser changeUserQuota
  split <;> exact ⟨rfl, rfl, rfl⟩

variable (info) (amount : Int)

theorem chargeToken_tables (db : Db) :
    (chargeToken env info amount db).subs = db.subs ∧ (chargeToken env info amount db).plans = db.plans ∧
      (chargeToken env info amount db).records = db.records ∧ (chargeToken env info amount db).users = db.users := by
  unfold chargeToken changeTokenQuota
  split
  · exact ⟨rfl, rfl, rfl, rfl⟩
  split <;> exact ⟨rfl, rfl, rfl, rfl⟩

theorem chargeToken_withSubs (db : Db) (subs : Table UserSubscription.id) :
    { chargeToken env info amount db with subs } = chargeToken env info amount { db with subs } := by
  unfold chargeToken changeTokenQuota
  split
  · rfl
  split <;> rfl

theorem chargeToken_saveSubscription (sub : UserSubscription) (db : Db) :
    saveSubscription sub (chargeToken env info amount db) = chargeToken env info amount (saveSubscription sub db) := by
  unfold chargeToken changeTokenQuota
  split
  · rfl
  split <;> rfl

theorem chargeToken_saveRecord (record : SubscriptionPreConsumeRecord) (db : Db) :
    saveRecord record (chargeToken env info amount db) = chargeToken env info amount (saveRecord record db) := by
  unfold chargeToken changeTokenQuota
  split
  · rfl
  split <;> rfl

theorem chargeToken_charge (tokenAmount : Int) (meter : Meter) (requestId : String)
    (userId amount : Int) (sub : UserSubscription) (db : Db) :
    meter.charge requestId userId amount sub (chargeToken env info tokenAmount db) =
      chargeToken env info tokenAmount (meter.charge requestId userId amount sub db) := by
  rw [Meter.charge, chargeToken_saveRecord, chargeToken_saveSubscription]
  rfl

/-! What the charges do to the balances. -/

theorem userBalance_chargeUser {userId : Int} (amount : Int) {db : Db} (known : (db.users.lookup userId).isSome)
    (other : Int) : userBalance (chargeUser env userId amount db) other =
      userBalance db other - if other = userId then amount else 0 := by
  rw [chargeUser, userBalance_change _ _ _ _ known]
  split <;> omega

theorem userBalance_chargeToken (amount : Int) (db : Db) (other : Int) :
    userBalance (chargeToken env info amount db) other = userBalance db other := by
  unfold chargeToken changeTokenQuota
  split
  · rfl
  split
  · simp [userBalance, addNewRecord]
  · rfl

theorem token_chargeUser (userId amount : Int) (db : Db) (other : Int) :
    tokenRemain (chargeUser env userId amount db) other = tokenRemain db other ∧
      tokenUsed (chargeUser env userId amount db) other = tokenUsed db other := by
  unfold chargeUser changeUserQuota
  split
  · simp [tokenRemain, tokenUsed, addNewRecord]
  · exact ⟨rfl, rfl⟩

def tokenShare (info : RelayInfo) (amount id : Int) : Int :=
  if id = info.tokenId ∧ info.isPlayground = false then amount else 0

theorem token_chargeToken (amount : Int) (db : Db)
    (known : info.isPlayground = false → (db.tokens.lookup info.tokenId).isSome) (other : Int) :
    tokenRemain (chargeToken env info amount db) other = tokenRemain db other - tokenShare info amount other ∧
      tokenUsed (chargeToken env info amount db) other = tokenUsed db other + tokenShare info amount other := by
  cases playground : info.isPlayground with
  | true => simp [chargeToken, tokenShare, playground]
  | false =>
    simp only [chargeToken, tokenShare, playground, Bool.false_eq_true, ↓reduceIte, and_true]
    rw [tokenRemain_change _ _ _ _ (known playground), tokenUsed_change _ _ _ _ (known playground)]
    split <;> omega

variable {info}

theorem onWorld_at {ε α : Type} (p : Program World ε α) (o : Open) :
    onWorld p o = ((p o.world).1, { o with world := (p o.world).2 }) := rfl

variable {quota : Int}

theorem preConsumeTokenQuota_ok {world after : World} (run : preConsumeTokenQuota info quota world = (.ok (), after)) :
    Leads world (chargeToken world.env info quota world.db) after := by
  obtain ⟨_, run⟩ := guard_ok run
  split at run
  next playground =>
    cases run
    rw [chargeToken, if_pos playground]
    exact Leads.refl world
  next limited =>
  obtain ⟨token, middle, looked, rest⟩ := bind_eq_ok run
  have idle := getTokenByKey_idle info.tokenKey world
  rw [looked] at idle
  obtain ⟨_, rest⟩ := guard_ok rest
  have led := decreaseTokenQuota_changes.ok rest
  rw [idle.env_eq] at led
  rw [chargeToken, if_neg limited]
  exact Idle.then (changeTokenQuota world.env.batchUpdateEnabled info.tokenId (-quota)) idle led

variable {e : String}

theorem preConsumeTokenQuota_error {world after : World}
    (run : preConsumeTokenQuota info quota world = (.error e, after)) : Idle world after := by
  unfold preConsumeTokenQuota at run
  split at run
  · cases run; exact Leads.refl world
  split at run
  · cases run
  have idle := getTokenByKey_idle info.tokenKey world
  obtain looked | ⟨token, middle, looked, run⟩ := bind_eq_error run
  · rw [looked] at idle
    exact idle
  rw [looked] at idle
  split at run
  · cases run; exact idle
  · exact idle.trans (decreaseTokenQuota_changes.error run)

/-! The funding sources. -/

variable {amount : Int}

section Funding

variable {world after : World}

theorem planInfoOrEmpty_total (id : Int) (world : World) :
    ∃ info after, planInfoOrEmpty id world = (.ok info, after) ∧ Idle world after := by
  have quiet : Keeps Idle (getSubscriptionPlanInfoByUserSubscriptionId id) :=
    keeps_guard (keeps_bind (dbRead_idle _) fun _ => keeps_bind (keeps_guard (dbRead_idle _)) fun _ => keeps_pure _)
  rw [planInfoOrEmpty, attempt_bind]
  have idle := quiet world
  cases (getSubscriptionPlanInfoByUserSubscriptionId id world).1 with
  | ok info => exact ⟨info, _, rfl, idle⟩
  | error _ => exact ⟨_, _, rfl, idle⟩

theorem wallet_preConsume_ok {userId : Int} {funding : WalletFunding}
    (run : WalletFunding.preConsume ⟨userId, 0⟩ amount world = (.ok funding, after)) :
    funding = ⟨userId, max amount 0⟩ ∧ Leads world (chargeUser world.env userId (max amount 0) world.db) after := by
  unfold WalletFunding.preConsume at run
  split at run
  next notPositive =>
    have nothing : max amount 0 = 0 := by omega
    cases run
    rw [nothing, chargeUser_zero]
    exact ⟨rfl, Leads.refl world⟩
  next pos =>
  have whole : max amount 0 = amount := by omega
  obtain ⟨_, middle, taken, ended⟩ := bind_eq_ok run
  cases ended
  rw [whole]
  exact ⟨rfl, decreaseUserQuota_changes.ok taken⟩

/-- The funding after its pre-consumption from `sub`. -/
def paidFrom (funding : SubscriptionFunding) (sub : UserSubscription) (info : SubscriptionPlanInfo) : SubscriptionFunding :=
  { funding with
    subscriptionId := sub.id
    preConsumed := funding.amount
    amountTotal := sub.amountTotal
    amountUsedAfter := sub.amountUsed + funding.amount
    planId := info.planId
    planTitle := info.planTitle }

theorem subscription_preConsume_ok {funding paid : SubscriptionFunding}
    (fresh : world.db.records.lookup funding.requestId = none) (run : funding.preConsume world = (.ok paid, after)) :
    Text.trimSpace funding.requestId ≠ "" ∧ ∃ db sub info,
      Refreshed world.env world.db db ∧ db.subs.lookup sub.id = some sub ∧
      amountMeter.firstEligible quotaCandidate world.env funding.userId funding.modelName funding.amount world.db =
        some sub ∧ paid = paidFrom funding sub info ∧
      Leads world (amountMeter.charge funding.requestId funding.userId funding.amount sub db) after := by
  obtain ⟨res, middle, consumed, rest⟩ := bind_eq_ok run
  obtain ⟨named, db, sub, refreshed, stored, chosen, rfl, led⟩ :=
    preConsume_ok amountMeter prepareQuota_prepares fresh consumed
  obtain ⟨info, last, looked, idle⟩ := planInfoOrEmpty_total (amountMeter.receipt funding.amount sub).userSubscriptionId middle
  rw [bind_ok looked] at rest
  cases rest
  exact ⟨named, db, sub, info, refreshed, stored, chosen, rfl, led.still idle⟩

/-- The funding after its pre-consumption of `amount` tokens from `sub`. -/
def paidTokensFrom (funding : TokensSubscriptionFunding) (amount : Int) (sub : UserSubscription)
    (info : SubscriptionPlanInfo) : TokensSubscriptionFunding :=
  { funding with
    subscriptionId := sub.id
    preConsumed := amount
    tokensInfo := ⟨sub.tokensLimit, sub.tokensUsed, sub.tokensUsed + amount, amount, sub.applicableModels⟩
    planId := info.planId
    planTitle := info.planTitle }

theorem tokens_preConsume_ok {funding paid : TokensSubscriptionFunding} (pos : 0 < amount)
    (fresh : world.db.records.lookup funding.requestId = none)
    (run : funding.preConsumeTokens amount world = (.ok paid, after)) :
    ∃ db sub info, Refreshed world.env world.db db ∧ db.subs.lookup sub.id = some sub ∧
      tokensMeter.firstEligible tokensCandidate world.env funding.userId funding.modelName amount world.db =
        some sub ∧ paid = paidTokensFrom funding amount sub info ∧
      Leads world (tokensMeter.charge funding.requestId funding.userId amount sub db) after := by
  rw [TokensSubscriptionFunding.preConsumeTokens, if_neg (Int.not_le.mpr pos)] at run
  obtain ⟨res, middle, consumed, rest⟩ := bind_eq_ok run
  obtain ⟨_, db, sub, refreshed, stored, chosen, rfl, led⟩ :=
    preConsume_ok tokensMeter prepareTokens_prepares fresh consumed
  obtain ⟨info, last, looked, idle⟩ := planInfoOrEmpty_total (tokensMeter.receipt amount sub).userSubscriptionId middle
  rw [bind_ok looked] at rest
  cases rest
  exact ⟨db, sub, info, refreshed, stored, chosen, rfl, led.still idle⟩

theorem preConsume_refused {funding : FundingSource}
    (run : funding.preConsume amount world = (.error e, after)) : Idle world after := by
  cases funding with
  | wallet funding =>
    obtain taken | ⟨_, _, _, ended⟩ := bind_eq_error run
    · unfold WalletFunding.preConsume at taken
      split at taken
      · cases taken
      obtain decreased | ⟨_, _, _, ended⟩ := bind_eq_error taken
      · exact decreaseUserQuota_changes.error decreased
      · cases ended
    · cases ended
  | subscription funding =>
    obtain taken | ⟨_, _, _, ended⟩ := bind_eq_error run
    · obtain consumed | ⟨res, last, _, rest⟩ := bind_eq_error taken
      · exact preConsume_error amountMeter prepareQuota_prepares consumed
      · obtain ⟨info, final, looked, _⟩ := planInfoOrEmpty_total res.userSubscriptionId last
        rw [bind_ok looked] at rest
        cases rest
    · cases ended
  | tokens funding => cases run

theorem preConsumeTokens_refused {funding : TokensSubscriptionFunding}
    (run : funding.preConsumeTokens amount world = (.error e, after)) : Idle world after := by
  unfold TokensSubscriptionFunding.preConsumeTokens at run
  split at run
  · cases run
  obtain consumed | ⟨res, last, _, rest⟩ := bind_eq_error run
  · exact preConsume_error tokensMeter prepareTokens_prepares consumed
  · obtain ⟨info, final, looked, _⟩ := planInfoOrEmpty_total res.userSubscriptionId last
    rw [bind_ok looked] at rest
    cases rest

end Funding

section Opening

variable {o o' : Open} {effective : Int}

theorem consumeToken_ok (new : o.session.tokenConsumed = 0) (run : consumeToken effective o = (.ok (), o')) :
    ∃ world, Leads o.world (chargeToken o.world.env o.info (max effective 0) o.world.db) world ∧
      o' = ⟨{ o.session with tokenConsumed := max effective 0 }, o.info, world⟩ := by
  rw [consumeToken, get_bind] at run
  split at run
  next pos =>
    rw [attempt_bind, onWorld_at] at run
    have whole : max effective 0 = effective := by omega
    rcases charged : preConsumeTokenQuota o.info effective o.world with ⟨err | _, world⟩
    · rw [charged] at run
      cases run
    rw [charged] at run
    cases run
    rw [whole]
    exact ⟨world, preConsumeTokenQuota_ok charged, rfl⟩
  next notPositive =>
  cases run
  have nothing : max effective 0 = 0 := by omega
  rw [nothing, chargeToken_zero]
  refine ⟨o.world, Leads.refl o.world, ?_⟩
  rw [← new]

theorem consumeToken_error {e : NewAPIError} (run : consumeToken effective o = (.error e, o')) :
    Idle o.world o'.world ∧ o'.info = o.info := by
  rw [consumeToken, get_bind] at run
  split at run
  · rw [attempt_bind, onWorld_at] at run
    rcases charged : preConsumeTokenQuota o.info effective o.world with ⟨err | _, world⟩
    · rw [charged] at run
      cases run
      exact ⟨preConsumeTokenQuota_error charged, rfl⟩
    · rw [charged] at run
      cases run
  · cases run

theorem rollbackToken_restores {before : World} {db : Db} (nonneg : 0 ≤ amount)
    (charged : Leads before (chargeToken before.env o.info amount db) o.world)
    (consumed : o.session.tokenConsumed = amount) (writable : before.writeFaults = []) :
    ∃ o', rollbackToken o = (.ok (), o') ∧ Leads before db o'.world ∧ o'.info = o.info := by
  rw [rollbackToken, get_bind, consumed]
  split
  next due =>
    rw [attempt_bind, onWorld_at]
    refine ⟨_, rfl, ?_, rfl⟩
    rcases returned : increaseTokenQuota o.info.tokenId amount o.world with ⟨err | _, world⟩
    · exact absurd (charged.writes writable) (increaseTokenQuota_faults nonneg returned)
    · have led := increaseTokenQuota_changes.ok returned
      rw [charged.db_eq, charged.env_eq, chargeToken, if_neg (by simp [due.2]), changeTokenQuota_add] at led
      rw [Int.add_left_neg, changeTokenQuota_zero] at led
      exact Leads.trans charged led
  next nothing =>
  refine ⟨o, rfl, ?_, rfl⟩
  have same : chargeToken before.env o.info amount db = db := by
    by_cases playground : o.info.isPlayground = true
    · rw [chargeToken, if_pos playground]
    have zero : amount = 0 := by
      simp only [playground, and_true] at nothing
      omega
    rw [zero, chargeToken_zero]
  rw [same] at charged
  exact charged

theorem preConsume_opens (new : o.session.tokenConsumed = 0) (run : preConsume quota o = (.ok (), o')) :
    ∃ effective middle funding world, effective = effectiveQuota o.world.env.trustQuota o.session o.info quota ∧
      Leads o.world (chargeToken o.world.env o.info (max effective 0) o.world.db) middle ∧
      o.session.funding.preConsume effective middle = (.ok funding, world) ∧
      o'.session = { o.session with tokenConsumed := max effective 0, funding, preConsumedQuota := effective } ∧
      o'.info = syncRelayInfo o'.session o.info ∧ o'.world = world := by
  rw [preConsume, get_bind] at run
  obtain ⟨_, middle, consumed, rest⟩ := bind_eq_ok run
  obtain ⟨world, charged, rfl⟩ := consumeToken_ok new consumed
  rw [attempt_bind, onWorld_at] at rest
  rcases taken : o.session.funding.preConsume
    (effectiveQuota o.world.env.trustQuota o.session o.info quota) world with ⟨err | funding, last⟩
  · rw [taken] at rest
    obtain ⟨_, _, _, ended⟩ := bind_eq_ok rest
    cases ended
  · rw [taken] at rest
    cases rest
    exact ⟨_, world, funding, last, rfl, charged, taken, rfl, rfl, rfl⟩

theorem preConsume_leaves {e : NewAPIError} (new : o.session.tokenConsumed = 0)
    (writable : o.world.writeFaults = []) (run : preConsume quota o = (.error e, o')) :
    Idle o.world o'.world ∧ o'.info = o.info := by
  rw [preConsume, get_bind] at run
  obtain consumed | ⟨_, middle, consumed, run⟩ := bind_eq_error run
  · exact consumeToken_error consumed
  obtain ⟨world, charged, rfl⟩ := consumeToken_ok new consumed
  rw [attempt_bind, onWorld_at] at run
  rcases taken : o.session.funding.preConsume
    (effectiveQuota o.world.env.trustQuota o.session o.info quota) world with ⟨err | funding, last⟩
  · rw [taken] at run
    have still := charged.still (preConsume_refused taken)
    dsimp only at run
    obtain ⟨final, rolled, restored⟩ := rollbackToken_restores
      (o := ⟨{ o.session with tokenConsumed := _ }, o.info, last⟩) (by omega) still rfl writable
    rw [bind_ok rolled] at run
    cases run
    exact restored
  · rw [taken] at run
    cases run

end Opening

end Tokengine.Service.Session
