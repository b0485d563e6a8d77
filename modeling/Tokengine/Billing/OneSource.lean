import Tokengine.Service.Opening

/-! A new session charges one source, and a request without a session charges none. -/

namespace Tokengine.Billing.OneSource
open Model Database Quota ResetTime Subscription Service Session

/-- What the callers of the billing code promise: the user and the token have been authenticated,
and the request id is new. -/
structure Admitted (relay : Relay) : Prop where
  fresh : relay.world.db.records.lookup relay.info.requestId = none
  user : (relay.world.db.users.lookup relay.info.userId).isSome
  token : relay.info.isPlayground = false → (relay.world.db.tokens.lookup relay.info.tokenId).isSome

def WalletTaken (userId amount : Int) (before after : Db) : Prop :=
  ∀ id, userBalance after id = userBalance before id - if id = userId then amount else 0

def TokenTaken (info : RelayInfo) (amount : Int) (before after : Db) : Prop :=
  ∀ id, tokenRemain after id = tokenRemain before id - tokenShare info amount id ∧
    tokenUsed after id = tokenUsed before id + tokenShare info amount id

/-- One subscription has changed. Another one is as it was, or has had a reset that was due. -/
def SubscriptionChanged (env : Env) (subscriptionId : Int) (change : UserSubscription → UserSubscription)
    (before after : Db) : Prop :=
  (before.subs.lookup subscriptionId).isSome ∧ ∀ id,
    Option.Rel (fun old new => if id = subscriptionId then new = change old else Renewed env before old new)
      (before.subs.lookup id) (after.subs.lookup id)

/-- The charge to a subscription of quota comes after the reset that was due. -/
def QuotaTaken (env : Env) (subscriptionId amount : Int) (before after : Db) : Prop :=
  SubscriptionChanged env subscriptionId (fun row => amountMeter.charged (refresh env before row) amount) before after

def TokensTaken (env : Env) (subscriptionId amount : Int) (before after : Db) : Prop :=
  SubscriptionChanged env subscriptionId (fun row => tokensMeter.charged row amount) before after

def Precharged (relay relay' : Relay) (quota : Int) (session : BillingSession) : Prop :=
  let before := relay.world.db
  let after := relay'.world.db
  let info := relay.info
  match session.funding with
  | .wallet _ =>
    let amount := if shouldTrust relay.world.env.trustQuota session relay'.info ∨ quota ≤ 0 then 0 else quota
    WalletTaken info.userId amount before after ∧ after.subs = before.subs ∧ after.records = before.records ∧
      TokenTaken info amount before after
  | .subscription funding =>
    let amount := subConsume quota
    WalletTaken info.userId 0 before after ∧ 0 < amount ∧
      QuotaTaken relay.world.env funding.subscriptionId amount before after ∧
      after.records = before.records.save ⟨info.requestId, info.userId, funding.subscriptionId, amount, .consumed⟩ ∧
      TokenTaken info amount before after
  | .tokens funding =>
    let amount := subConsume quota
    WalletTaken info.userId 0 before after ∧ 0 < amount ∧
      TokensTaken relay.world.env funding.subscriptionId amount before after ∧
      after.records = before.records.save ⟨info.requestId, info.userId, funding.subscriptionId, amount, .consumed⟩ ∧
      TokenTaken info 0 before after

variable {before db : Db} {sub : UserSubscription}

theorem subscriptionChanged_save {env : Env} {after : Db} {cand : UserSubscription} (refreshed : Refreshed env before db)
    {id : Int} (owner : before.subs.lookup id = some cand) {change : UserSubscription → UserSubscription}
    (keeps : (change cand).id = id) (saved : after.subs = db.subs.save (change cand)) :
    SubscriptionChanged env id change before after := by
  refine ⟨by rw [owner]; rfl, fun other => ?_⟩
  rw [saved, Table.lookup_save, keeps]
  by_cases same : other = id
  · rw [if_pos same, same, owner]
    exact Option.Rel.some (by rw [if_pos rfl])
  · rw [if_neg same]
    have rows := refreshed.rows other
    generalize before.subs.lookup other = old at rows
    generalize db.subs.lookup other = new at rows
    cases rows with
    | none => exact Option.Rel.none
    | some renewed => exact Option.Rel.some (by rw [if_neg same]; exact renewed)

variable {env : Env} {userId amount : Int} {modelName : String}

theorem quota_owner (chosen : amountMeter.firstEligible quotaCandidate env userId modelName amount db = some sub) :
    ∃ cand, db.subs.lookup sub.id = some cand ∧ sub = refresh env db cand := by
  obtain ⟨_, cand, mem, handed⟩ := firstEligible_some amountMeter chosen
  obtain ⟨_, rfl⟩ := quotaCandidate_some handed
  refine ⟨cand, ?_, rfl⟩
  rw [(refresh_resetOf env db cand).id_eq]
  exact Table.lookup_of_mem mem

theorem tokens_owner (chosen : tokensMeter.firstEligible tokensCandidate env userId modelName amount db = some sub) :
    db.subs.lookup sub.id = some sub := by
  obtain ⟨_, cand, mem, handed⟩ := firstEligible_some tokensMeter chosen
  obtain ⟨_, rfl⟩ := tokensCandidate_some handed
  exact Table.lookup_of_mem mem

theorem walletTaken_same {userId : Int} {after : Db} (same : ∀ id, userBalance after id = userBalance before id) :
    WalletTaken userId 0 before after := by
  intro id
  rw [same id]
  split <;> omega

/-- The tables once `amount` has been taken from the wallet and from the token. -/
def walletTables (env : Env) (info : RelayInfo) (db : Db) (amount : Int) : Db :=
  chargeToken env info amount (chargeUser env info.userId amount db)

theorem walletTables_taken (env : Env) (info : RelayInfo) (user : (db.users.lookup info.userId).isSome)
    (token : info.isPlayground = false → (db.tokens.lookup info.tokenId).isSome) (amount : Int) :
    WalletTaken info.userId amount db (walletTables env info db amount) ∧
      (walletTables env info db amount).subs = db.subs ∧ (walletTables env info db amount).records = db.records ∧
      TokenTaken info amount db (walletTables env info db amount) := by
  obtain ⟨tokens, subs, records⟩ := chargeUser_tables env info.userId amount db
  have others := chargeToken_tables env info amount (chargeUser env info.userId amount db)
  refine ⟨fun id => ?_, others.1.trans subs, others.2.2.1.trans records, fun id => ?_⟩
  · rw [walletTables, userBalance_chargeToken, userBalance_chargeUser _ _ user]
  have taken := token_chargeToken env info amount (chargeUser env info.userId amount db)
    (by rw [tokens]; exact token) id
  obtain ⟨remain, used⟩ := token_chargeUser env info.userId amount db id
  rw [remain, used] at taken
  exact taken

def subscriptionTables (env : Env) (info : RelayInfo) (db : Db) (sub : UserSubscription)
    (record : SubscriptionPreConsumeRecord) (paid : Int) : Db :=
  chargeToken env info paid (saveSubscription sub (saveRecord record db))

theorem subscriptionTables_taken (env : Env) (info : RelayInfo) (refreshed : Refreshed env before db)
    (token : info.isPlayground = false → (before.tokens.lookup info.tokenId).isSome) (sub : UserSubscription)
    (record : SubscriptionPreConsumeRecord) (paid : Int) :
    WalletTaken info.userId 0 before (subscriptionTables env info db sub record paid) ∧
      (subscriptionTables env info db sub record paid).subs = db.subs.save sub ∧
      (subscriptionTables env info db sub record paid).records = before.records.save record ∧
      TokenTaken info paid before (subscriptionTables env info db sub record paid) := by
  obtain ⟨sameSubs, _, sameRecords, _⟩ :=
    chargeToken_tables env info paid (saveSubscription sub (saveRecord record db))
  have rest := refreshed.rest
  refine ⟨walletTaken_same fun id => ?_, sameSubs, ?_, fun id => ?_⟩
  · rw [subscriptionTables, userBalance_chargeToken, rest]
    rfl
  · rw [subscriptionTables, sameRecords, rest]
    rfl
  have taken := token_chargeToken env info paid (saveSubscription sub (saveRecord record db))
    (by rw [rest]; exact token) id
  rw [rest] at taken
  rw [subscriptionTables, rest]
  exact taken

theorem shouldTrust_synced (trustQuota : Int) (session : BillingSession) (userId effective : Int) (info : RelayInfo) :
    shouldTrust trustQuota (walletSession userId effective) (syncRelayInfo session info) =
      shouldTrust trustQuota (.new (.wallet ⟨userId, 0⟩) none) info := by
  unfold syncRelayInfo
  cases session.funding <;> rfl

variable {relay relay' : Relay} {userQuota quota : Int}

theorem wallet_precharged {effective : Int} (admitted : Admitted relay)
    (is : effective = walletQuota relay.world.env.trustQuota { relay.info with userQuota } quota)
    (led : Leads relay.world (walletTables relay.world.env { relay.info with userQuota } relay.world.db (max effective 0)) relay'.world)
    (info : relay'.info = syncRelayInfo (walletSession relay.info.userId effective) { relay.info with userQuota }) :
    Precharged relay relay' quota (walletSession relay.info.userId effective) := by
  have amount : max effective 0 = if shouldTrust relay.world.env.trustQuota
      (walletSession relay.info.userId effective) relay'.info ∨ quota ≤ 0 then 0 else quota := by
    rw [info, shouldTrust_synced]
    rw [walletQuota, effectiveQuota] at is
    cases trusted : shouldTrust relay.world.env.trustQuota (.new (.wallet ⟨relay.info.userId, 0⟩) none)
      { relay.info with userQuota } with
    | true =>
      rw [trusted] at is
      simp [is]
    | false =>
      rw [trusted] at is
      simp only [Bool.false_eq_true, ↓reduceIte] at is
      simp only [Bool.false_eq_true, false_or]
      split <;> omega
  have taken := walletTables_taken relay.world.env { relay.info with userQuota } admitted.user admitted.token
    (max effective 0)
  rw [← led.db_eq, amount] at taken
  exact taken

theorem subscription_precharged (plan : SubscriptionPlanInfo) (admitted : Admitted relay)
    (refreshed : Refreshed relay.world.env relay.world.db db)
    (chosen : amountMeter.firstEligible quotaCandidate relay.world.env relay.info.userId relay.info.originModelName
      (subConsume quota) relay.world.db = some sub)
    (led : Leads relay.world (chargeToken relay.world.env { relay.info with userQuota } (subConsume quota) (amountMeter.charge relay.info.requestId relay.info.userId (subConsume quota) sub db)) relay'.world) :
    Precharged relay relay' quota (subscriptionSession { relay.info with userQuota } (subConsume quota) sub plan) := by
  obtain ⟨wallet, subs, records, token⟩ := subscriptionTables_taken relay.world.env
    { relay.info with userQuota } refreshed admitted.token
    (amountMeter.charged sub (subConsume quota))
    ⟨relay.info.requestId, relay.info.userId, sub.id, subConsume quota, .consumed⟩ (subConsume quota)
  obtain ⟨cand, owner, renewed⟩ := quota_owner chosen
  refine ⟨?_, subConsume_pos quota, ?_, ?_, ?_⟩
  · rw [led.db_eq]
    exact wallet
  · refine subscriptionChanged_save refreshed owner ?_ ?_
    · rw [← renewed]
      rfl
    · rw [led.db_eq, ← renewed]
      exact subs
  · rw [led.db_eq]
    exact records
  · rw [led.db_eq]
    exact token

theorem tokens_precharged (plan : SubscriptionPlanInfo) (refreshed : Refreshed relay.world.env relay.world.db db)
    (chosen : tokensMeter.firstEligible tokensCandidate relay.world.env relay.info.userId relay.info.originModelName
      (subConsume quota) relay.world.db = some sub)
    (led : Leads relay.world (tokensMeter.charge relay.info.requestId relay.info.userId (subConsume quota) sub db) relay'.world) :
    Precharged relay relay' quota (tokensSession { relay.info with userQuota } (subConsume quota) sub plan) := by
  have rest := refreshed.rest
  refine ⟨walletTaken_same fun id => ?_, subConsume_pos quota, ?_, ?_, fun id => ?_⟩
  · rw [led.db_eq, rest]
    rfl
  · refine subscriptionChanged_save refreshed (tokens_owner chosen) rfl ?_
    rw [led.db_eq]
    rfl
  · rw [led.db_eq, rest]
    rfl
  · have none : tokenShare relay.info 0 id = 0 := by rw [tokenShare, ite_self]
    rw [none, Int.sub_zero, Int.add_zero, led.db_eq, rest]
    exact ⟨rfl, rfl⟩

/-- A new session has charged one source and, in quota, the token; a request that gets no session leaves
the tables as they were. Reads may fail in any way, writes succeed. -/
theorem newBillingSession_charges_one_source (relay : Relay) (quota : Int) (admitted : Admitted relay)
    (writable : relay.world.writeFaults = []) : match newBillingSession quota relay with
    | (.ok session, relay') => Precharged relay relay' quota session
    | (.error _, relay') => relay'.world.db = relay.world.db := by
  rcases run : newBillingSession quota relay with ⟨e | session, relay'⟩
  · exact (newBillingSession_failed writable run).db_eq
  obtain ⟨userQuota, opened, info⟩ := newBillingSession_opened admitted.fresh writable run
  cases opened with
  | wallet effective is _ led => exact wallet_precharged admitted is led info
  | subscription db sub plan _ refreshed _ chosen led => exact subscription_precharged plan admitted refreshed chosen led
  | tokens db sub plan _ refreshed _ chosen led => exact tokens_precharged plan refreshed chosen led

def walletRelay : Relay where
  info := {
    userId := 1
    tokenId := 7
    tokenKey := "key"
    tokenUnlimited := false
    tokenQuota := 500
    isPlayground := false
    forcePreConsume := false
    requestId := "request"
    originModelName := "model"
    billingPreference := "wallet_only"
    channelId := 1
    priceBillingMode := .quota
    userQuota := 0
    finalPreConsumedQuota := 0
    billingSource := none
    subscriptionId := 0
    subscriptionPreConsumed := 0
    subscriptionPostDelta := 0
    subscriptionAmountTotal := 0
    subscriptionAmountUsedAfterPreConsume := 0
    subscriptionPlanId := 0
    subscriptionPlanTitle := "" }
  world := healthy plainEnv { emptyDb with
    users := Table.empty.save ⟨1, 1000, 0, 0⟩
    tokens := Table.empty.save ⟨7, "key", 500, 0, false, 0⟩ }

theorem walletRelay_admitted : Admitted walletRelay := ⟨by decide, by decide, by decide⟩

theorem walletRelay_charges_one_source : match newBillingSession 100 walletRelay with
    | (.ok session, relay') => Precharged walletRelay relay' 100 session
    | (.error _, relay') => relay'.world.db = walletRelay.world.db :=
  newBillingSession_charges_one_source walletRelay 100 walletRelay_admitted rfl

/-- A request for no quota opens a wallet session that has charged nothing, without the trust bypass. -/
theorem walletRelay_charges_nothing : ∃ session relay', newBillingSession 0 walletRelay = (.ok session, relay') ∧
      session.funding.source = .wallet ∧ shouldTrust walletRelay.world.env.trustQuota session relay'.info = false ∧
      relay'.world.db = walletRelay.world.db ∧ Admitted walletRelay ∧ walletRelay.world.writeFaults = [] :=
  ⟨walletSession 1 0, ⟨syncRelayInfo (walletSession 1 0) { walletRelay.info with userQuota := 1000 }, walletRelay.world⟩,
    rfl, rfl, rfl, rfl, walletRelay_admitted, rfl⟩

end Tokengine.Billing.OneSource
