import Tokengine.Billing.TokensPlan
import Tokengine.Tasks.Billing

/-! A task that is submitted and fails later. The submission charges through a session; the refund
knows only the row of the task. Usage and its sums are within the range of `int64`. -/

namespace Tokengine.Tasks.SubmitThenFail
open Program Model Database Quota Subscription Table
open Service Funding Session Billing OneSource Conservation TokensPlan

/-- The user of a request is stored, and so is its token; a playground request has none. -/
structure Known (info : RelayInfo) (db : Db) : Prop where
  user : (db.users.lookup info.userId).isSome
  keyed : info.isPlayground = false → 0 < info.tokenId ∧
    ∃ token, db.tokens.lookup info.tokenId = some token ∧ token.key ≠ ""
  tokenless : info.isPlayground = true → info.tokenId ≤ 0

/-- What the callers of `RelayTask` promise: authentication, a new request id, and a forced pre-consumption. -/
structure TaskAdmitted (relay : Relay) : Prop where
  fresh : relay.world.db.records.lookup relay.info.requestId = none
  forced : relay.info.forcePreConsume = true
  known : Known relay.info relay.world.db

structure NetZero (before after : Db) : Prop where
  wallet : ∀ id, userBalance after id = userBalance before id
  usage : ∀ id, after.subs.column UserSubscription.amountUsed id = before.subs.column UserSubscription.amountUsed id ∧
    after.subs.column UserSubscription.tokensUsed id = before.subs.column UserSubscription.tokensUsed id
  token : ∀ id, tokenRemain after id = tokenRemain before id ∧ tokenUsed after id = tokenUsed before id

/-! What a step takes from the wallet and from the token. -/

structure Moved (info : RelayInfo) (wallet token : Int) (before after : Db) : Prop where
  wallet : WalletTaken info.userId wallet before after
  token : TokenTaken info token before after
  known : Known info before → Known info after

variable {info : RelayInfo} {before middle after db : Db} {wallet wallet' token token' : Int}

theorem Moved.trans (first : Moved info wallet token before middle) (second : Moved info wallet' token' middle after) :
    Moved info (wallet + wallet') (token + token') before after where
  wallet id := by
    rw [second.wallet id, first.wallet id]
    split <;> omega
  token id := by
    obtain ⟨remain, used⟩ := first.token id
    obtain ⟨remain', used'⟩ := second.token id
    rw [remain', used', remain, used]
    simp only [tokenShare]
    split <;> omega
  known := second.known ∘ first.known

theorem moved_same (users : ∀ id, (after.users.lookup id).isSome = (before.users.lookup id).isSome)
    (tokens : after.tokens = before.tokens) (user : ∀ id, userBalance after id = userBalance before id)
    (token : ∀ id, tokenRemain after id = tokenRemain before id ∧ tokenUsed after id = tokenUsed before id) :
    Moved info 0 0 before after where
  wallet := walletTaken_same user
  token id := by
    obtain ⟨remain, used⟩ := token id
    rw [remain, used, tokenShare, ite_self]
    omega
  known known := ⟨by rw [users]; exact known.user, by rw [tokens]; exact known.keyed, known.tokenless⟩

theorem SameBalances.moved (same : SameBalances before after) : Moved info 0 0 before after :=
  moved_same same.users same.tokens same.user fun id => ⟨same.remain id, same.used id⟩

theorem moved_refl (db : Db) : Moved info 0 0 db db := moved_same (fun _ => rfl) rfl (fun _ => rfl) fun _ => ⟨rfl, rfl⟩

theorem moved_saveSubscription (sub : UserSubscription) : Moved info 0 0 db (saveSubscription sub db) :=
  moved_same (fun _ => rfl) rfl (fun _ => rfl) fun _ => ⟨rfl, rfl⟩

theorem moved_chargeUser (env : Env) (known : Known info db) (amount : Int) :
    Moved info amount 0 db (chargeUser env info.userId amount db) where
  wallet := userBalance_chargeUser env amount known.user
  token id := by
    obtain ⟨remain, used⟩ := token_chargeUser env info.userId amount db id
    rw [remain, used, tokenShare, ite_self]
    omega
  known known := by
    refine ⟨?_, ?_, known.tokenless⟩
    · unfold chargeUser changeUserQuota
      split
      · exact known.user
      exact (isSome_lookup_update (addUserQuota (-amount)) (fun _ => rfl) ..).trans known.user
    · rw [(chargeUser_tables env info.userId amount db).1]
      exact known.keyed

theorem moved_chargeToken (env : Env) (known : Known info db) (amount : Int) :
    Moved info 0 amount db (chargeToken env info amount db) where
  wallet := walletTaken_same (userBalance_chargeToken env info amount db)
  token := by
    apply token_chargeToken env info amount db
    intro charged
    obtain ⟨_, token, found, _⟩ := known.keyed charged
    rw [found]
    rfl
  known known := by
    refine ⟨?_, fun charged => ?_, known.tokenless⟩
    · rw [(chargeToken_tables env info amount db).2.2.2]
      exact known.user
    obtain ⟨pos, token, found, keyed⟩ := known.keyed charged
    refine ⟨pos, ?_⟩
    rw [chargeToken, if_neg (by simp [charged]), changeTokenQuota]
    split
    · exact ⟨token, found, keyed⟩
    refine ⟨addTokenQuota (-amount) token, ?_, keyed⟩
    change (db.tokens.update info.tokenId (addTokenQuota (-amount))).lookup info.tokenId = _
    rw [lookup_update (addTokenQuota (-amount)) (fun _ => rfl), if_pos rfl, found]
    rfl

theorem Moved.netZero_iff (moved : Moved info wallet token before after) :
    NetZero before after ↔ wallet = 0 ∧ (info.isPlayground = true ∨ token = 0) ∧
      ∀ id, after.subs.column UserSubscription.amountUsed id = before.subs.column UserSubscription.amountUsed id ∧
        after.subs.column UserSubscription.tokensUsed id = before.subs.column UserSubscription.tokensUsed id := by
  constructor
  · rintro ⟨user, usage, tokens⟩
    refine ⟨?_, ?_, usage⟩
    · have mine := moved.wallet info.userId
      rw [user, if_pos rfl] at mine
      omega
    · cases free : info.isPlayground with
      | true => exact Or.inl rfl
      | false =>
        have mine := (moved.token info.tokenId).1
        rw [(tokens info.tokenId).1, tokenShare, if_pos ⟨rfl, free⟩] at mine
        exact Or.inr (by omega)
  · rintro ⟨nothing, untouched, usage⟩
    refine ⟨fun id => ?_, usage, fun id => ?_⟩
    · rw [moved.wallet id, nothing, ite_self, Int.sub_zero]
    have share : tokenShare info token id = 0 := by
      rw [tokenShare]
      rcases untouched with free | zero
      · rw [if_neg (by simp [free])]
      · rw [zero, ite_self]
    obtain ⟨remain, used⟩ := moved.token id
    omega

/-! The refund of a task when every statement succeeds. -/

section Refund

variable {db' : Db} {task : Task} (env : Env) {row : UserSubscription}

theorem adjustUserQuota_healthy (userId delta : Int) (db : Db) :
    adjustUserQuota userId delta (healthy env db) = (.ok (), healthy env (chargeUser env userId delta db)) := by
  unfold adjustUserQuota
  split
  · exact decreaseUserQuota_healthy env db (by omega)
  · exact increaseUserQuota_healthy env db (by omega)

variable (known : Known info db) (same : task.privateData.tokenId = info.tokenId)

include known same

theorem taskAdjustTokenQuota_healthy (delta : Int) : taskAdjustTokenQuota task delta (healthy env db) =
      (.ok (), healthy env (chargeToken env info delta db)) := by
  unfold taskAdjustTokenQuota
  rw [same]
  split
  next skipped =>
    rcases skipped with none | zero
    · have free : info.isPlayground = true := by
        by_contra charged
        have := (known.keyed (Bool.not_eq_true _ ▸ charged)).1
        omega
      rw [chargeToken, if_pos free]
      rfl
    · rw [zero, chargeToken_zero]
      rfl
  next due =>
  have charged : info.isPlayground = false := by
    by_contra free
    have := known.tokenless (Bool.not_eq_false _ ▸ free)
    omega
  obtain ⟨pos, token, found, keyed⟩ := known.keyed charged
  have looked : resolveTokenKey info.tokenId (healthy env db) = (.ok token.key, healthy env db) := by
    rw [resolveTokenKey, attempt_bind, getTokenById, if_neg (by omega), dbRead_healthy, found]
    rfl
  rw [bind_ok looked, if_neg keyed, logged, adjustTokenQuota_healthy, chargeToken, if_neg (by simp [charged])]

/-- After the source has paid back, so does the token; the statistics leave the balances alone. -/
theorem refund_paid (nonzero : task.quota ≠ 0) {wallet : Int} (paid : Moved info wallet 0 db db')
    (funded : taskAdjustFunding task (-task.quota) (healthy env db) = (.ok (), healthy env db')) :
    Moved info wallet (-task.quota) db (refundTaskQuota task (healthy env db)).2.db ∧
      (refundTaskQuota task (healthy env db)).2.db.subs = db'.subs := by
  have knownThen := paid.known known
  have counted : SameBalances (chargeToken env info (-task.quota) db') (refundTaskQuota task (healthy env db)).2.db := by
    rw [refundTaskQuota, if_neg nonzero, attempt_bind, funded]
    dsimp only
    rw [bind_ok (taskAdjustTokenQuota_healthy env knownThen same (-task.quota))]
    have first := updateUserUsedQuota_keepsBalances task.userId (-task.quota)
    have second := updateChannelUsedQuota_keepsBalances task.channelId (-task.quota)
    exact keeps_bind first (fun _ => second) (healthy env (chargeToken env info (-task.quota) db'))
  have whole := (paid.trans (moved_chargeToken env knownThen (-task.quota))).trans (SameBalances.moved counted)
  simp only [Int.add_zero, Int.zero_add] at whole
  exact ⟨whole, by rw [counted.subs, (chargeToken_tables env info _ _).1]⟩

theorem refund_wallet (user : task.userId = info.userId) (source : taskIsSubscription task = false) :
    Moved info (-task.quota) (-task.quota) db (refundTaskQuota task (healthy env db)).2.db ∧
      (refundTaskQuota task (healthy env db)).2.db.subs = db.subs := by
  by_cases zero : task.quota = 0
  · rw [refundTaskQuota, if_pos zero, zero]
    exact ⟨moved_refl db, rfl⟩
  have funded : taskAdjustFunding task (-task.quota) (healthy env db) =
      (.ok (), healthy env (chargeUser env info.userId (-task.quota) db)) := by
    rw [taskAdjustFunding, if_neg (by simp [source]), adjustUserQuota_healthy, user]
  obtain ⟨moved, subs⟩ := refund_paid env known same zero (moved_chargeUser env known (-task.quota)) funded
  exact ⟨moved, by rw [subs, (chargeUser_tables env info.userId _ db).2.1]⟩

omit known same

theorem subscriptionId_pos (source : taskIsSubscription task = true) : 0 < task.privateData.subscriptionId := by
  simp only [taskIsSubscription, Bool.and_eq_true, decide_eq_true_eq] at source
  exact source.2

include known same in
/-- The refund of a subscription task lowers the usage of its subscription, down to 0 at most. -/
theorem refund_subscription (source : taskIsSubscription task = true)
    (found : db.subs.lookup task.privateData.subscriptionId = some row) (used : 0 ≤ row.amountUsed)
    (within : row.amountTotal ≤ 0 ∨ row.amountUsed ≤ row.amountTotal) (nonneg : 0 ≤ task.quota) :
    Moved info 0 (-task.quota) db (refundTaskQuota task (healthy env db)).2.db ∧
      (refundTaskQuota task (healthy env db)).2.db.subs =
        db.subs.save { row with amountUsed := max (row.amountUsed - task.quota) 0 } := by
  by_cases zero : task.quota = 0
  · have unchanged : max (row.amountUsed - task.quota) 0 = row.amountUsed := by omega
    rw [refundTaskQuota, if_pos zero, unchanged, zero]
    refine ⟨moved_refl db, ?_⟩
    have here : db.subs.lookup row.id = some row := by rw [(lookup_some found).2, found]
    exact (save_self here).symm
  · have room : row.amountTotal ≤ 0 ∨ row.amountUsed + -task.quota ≤ row.amountTotal := by omega
    have fits : amountMeter.adjusted row (-task.quota) =
        .ok { row with amountUsed := max (row.amountUsed - task.quota) 0 } := by
      rw [adjusted_within amountMeter row (-task.quota) room]
      rfl
    have funded : taskAdjustFunding task (-task.quota) (healthy env db) = (.ok (), healthy env
        (saveSubscription { row with amountUsed := max (row.amountUsed - task.quota) 0 } db)) := by
      rw [taskAdjustFunding, if_pos source]
      change amountMeter.postConsume _ _ _ = _
      rw [postConsume_healthy amountMeter (subscriptionId_pos source) (by omega) found, fits]
    exact refund_paid env known same zero (moved_saveSubscription _) funded

end Refund

/-! The submission. -/

theorem countUsage_counts (quota : Int) (req : Request) :
    ∃ world, countUsage quota req = (.ok (), { req with world }) ∧ KeepsBalances req.world world := by
  have user : ∀ world, updateUserUsedQuotaAndRequestCount req.info.userId quota world =
      (.ok (), (updateUserUsedQuotaAndRequestCount req.info.userId quota world).2) := by
    intro world
    rw [updateUserUsedQuotaAndRequestCount, getEnv_bind]
    split <;> rfl
  have first : onRequestWorld (updateUserUsedQuotaAndRequestCount req.info.userId quota) req =
      (.ok (), { req with world := (updateUserUsedQuotaAndRequestCount req.info.userId quota req.world).2 }) := by
    rw [onRequestWorld, zoom_at, user]
  refine ⟨(updateChannelUsedQuota req.info.channelId quota
    (updateUserUsedQuotaAndRequestCount req.info.userId quota req.world).2).2, ?_, ?_⟩
  · rw [countUsage, get_bind, bind_ok first]
    rfl
  · have kept := updateUserUsedQuotaAndRequestCount_keepsBalances req.info.userId quota req.world
    exact SameBalances.trans kept (updateChannelUsedQuota_keepsBalances _ _ _)

def submitThenFail (later : Env) (res : TaskSubmitResult) (perCallBilling : Bool) (publicTaskId : String)
    (req : Request) : Db :=
  match relayTask res perCallBilling publicTaskId req with
  | (.ok task, submitted) => (refundTaskQuota task (healthy later submitted.world.db)).2.db
  | (.error _, submitted) => submitted.world.db

structure RowOf (info : RelayInfo) (quota : Int) (task : Task) : Prop where
  user : task.userId = info.userId
  quota : task.quota = quota
  source : task.privateData.billingSource = info.billingSource
  subscription : task.privateData.subscriptionId = info.subscriptionId
  token : task.privateData.tokenId = info.tokenId

theorem submitThenFail_settles (later : Env) (res : TaskSubmitResult) (perCallBilling : Bool) (publicTaskId : String)
    (session : BillingSession) (info : RelayInfo) (world : World) (unsettled : session.settled = false)
    (uncommitted : session.fundingSettled = false) : ∃ after db task, Settled session info res.quota world
        (settleBilling res.quota ⟨info, some session, world⟩).1 after ∧ SameBalances after.db db ∧
      RowOf info res.quota task ∧ submitThenFail later res perCallBilling publicTaskId ⟨info, some session, world⟩ =
        (refundTaskQuota task (healthy later db)).2.db := by
  obtain ⟨ended, post, sameInfo⟩ := @settle_settles res.quota session info world unsettled uncommitted
  let ctx := (settleBilling res.quota ⟨info, some session, world⟩).2
  obtain ⟨last, counted, kept⟩ := countUsage_counts res.quota ctx
  have settled : settleTask res.quota ⟨info, some session, world⟩ = (.ok (), { ctx with world := last }) := by
    rw [settleTask, logged_bind, counted]
  have submitted : relayTask res perCallBilling publicTaskId ⟨info, some session, world⟩ =
      (.ok (submittedTask ctx.info res perCallBilling publicTaskId last.env.now), { ctx with world := last }) := by
    rw [relayTask, bind_ok settled]
    rfl
  have final : ctx.info = { info with subscriptionPostDelta := post } := sameInfo
  refine ⟨_, last.db, submittedTask { info with subscriptionPostDelta := post } res perCallBilling publicTaskId
    last.env.now, ended, kept, ⟨rfl, rfl, rfl, rfl, rfl⟩, ?_⟩
  rw [submitThenFail, submitted, final]

/-! What the settlement of the submission takes, by source. -/

variable {info' : RelayInfo} {actual : Int} {world after : World} {outcome : Except String Unit}
  {funding : SubscriptionFunding} {plan : SubscriptionPlanInfo} {sub : UserSubscription}

theorem moved_idle (idle : Idle world after) : Moved info 0 0 world.db after.db := by
  rw [idle.db_eq]
  exact moved_refl _

/-- The settlement leaves everything as it is, or the source settles and then the token. -/
theorem settled_cases {session : BillingSession} (amount : Int) (same : SameToken info info')
    (settled : Settled session info' actual world outcome after) (opened : session.preConsumedQuota = amount)
    (undone : ∀ e, session.funding.settle (actual - amount) world = (.error e, after) → Idle world after) :
    (Idle world after ∧ (outcome = .ok () ↔ actual = amount)) ∨
      ∃ middle, actual ≠ amount ∧ session.funding.settle (actual - amount) world = (.ok (), middle) ∧
        (Known info middle.db → ∃ token, Moved info 0 token middle.db after.db ∧ after.db.subs = middle.db.subs ∧
          (outcome = .ok () ↔ info.isPlayground = true ∨ token = actual - amount)) := by
  subst opened
  obtain ⟨sameId, samePlayground⟩ := same
  cases settled with
  | exactly exact => exact Or.inl ⟨Leads.refl world, iff_of_true rfl exact⟩
  | refused differs unpaid => exact Or.inl ⟨undone _ unpaid, iff_of_false nofun differs⟩
  | playground differs free paid =>
    rw [samePlayground] at free
    exact Or.inr ⟨_, differs, paid, fun _ => ⟨0, moved_refl _, rfl, iff_of_true rfl (Or.inl free)⟩⟩
  | token differs charged paid adjusted =>
    rename_i middle
    rw [samePlayground] at charged
    rw [sameId] at adjusted
    refine Or.inr ⟨middle, differs, paid, fun known => ?_⟩
    cases outcome with
    | ok _ =>
      have tables : after.db = chargeToken middle.env info (actual - session.preConsumedQuota) middle.db := by
        rw [((adjustTokenQuota_changes _ _).ok adjusted).db_eq, chargeToken, if_neg (by simp [charged])]
      rw [tables]
      exact ⟨_, moved_chargeToken middle.env known _, (chargeToken_tables middle.env info _ middle.db).1,
        iff_of_true rfl (Or.inr rfl)⟩
    | error e =>
      have idle := (adjustTokenQuota_changes _ _).error adjusted
      refine ⟨0, moved_idle idle, by rw [idle.db_eq], iff_of_false nofun ?_⟩
      simp only [charged, Bool.false_eq_true, false_or]
      omega

/-- A wallet task is settled to its quota exactly when `SettleBilling` succeeds. -/
theorem wallet_settled {quota : Int} (known : Known info world.db) (same : SameToken info info')
    (settled : Settled (walletSession info.userId quota) info' actual world outcome after) :
    ∃ wallet token, Moved info wallet token world.db after.db ∧ after.db.subs = world.db.subs ∧
      (quota + wallet - actual = 0 ∧ (info.isPlayground = true ∨ quota + token - actual = 0) ↔ outcome = .ok ()) := by
  obtain ⟨idle, ends⟩ | ⟨middle, differs, paid, continues⟩ :=
    settled_cases quota same settled rfl fun _ => (wallet_settle_changes _ _).error
  · refine ⟨0, 0, moved_idle idle, by rw [idle.db_eq], ?_⟩
    rw [ends]
    omega
  · have led := (wallet_settle_changes _ _).ok paid
    have spent : Moved info (actual - quota) 0 world.db middle.db := by
      rw [led.db_eq]
      exact moved_chargeUser world.env known _
    obtain ⟨token, moved, subs, ends⟩ := continues (spent.known known)
    refine ⟨_, _, spent.trans moved, ?_, ?_⟩
    · rw [subs, led.db_eq, (chargeUser_tables world.env _ _ world.db).2.1]
    · rw [ends, and_iff_right (by omega)]
      exact or_congr_right (by omega)

theorem subscription_settle_ok {delta : Int}
    (found : world.db.subs.lookup funding.subscriptionId = some row) (nonzero : delta ≠ 0)
    (run : funding.settle delta world = (.ok (), after)) :
    (row.amountTotal ≤ 0 ∨ max (row.amountUsed + delta) 0 ≤ row.amountTotal) ∧
      after.db = saveSubscription { row with amountUsed := max (row.amountUsed + delta) 0 } world.db := by
  rw [SubscriptionFunding.settle, if_neg nonzero] at run
  obtain ⟨zero, _⟩ | ⟨sub, changed, stored, fits, led⟩ := postConsume_ok amountMeter run
  · exact absurd zero nonzero
  · cases found.symm.trans stored
    obtain ⟨rfl, within⟩ := adjusted_ok amountMeter fits
    exact ⟨within, led.db_eq⟩

theorem subscription_settle_error {delta : Int} {e : String}
    (run : funding.settle delta world = (.error e, after)) : Idle world after := by
  unfold SubscriptionFunding.settle at run
  split at run
  · cases run
  · exact postConsume_error amountMeter run

/-- A task of a quota subscription is undone by its refund exactly when `SettleBilling` succeeds, or when the
refund of more than was taken stops at a usage of 0 that was there before. -/
theorem subscription_settled {amount before : Int}
    (known : Known info world.db) (same : SameToken info info') (nonneg : 0 ≤ actual) (used : 0 ≤ before)
    (charged : 0 < amount) (found : world.db.subs.lookup sub.id = some { sub with amountUsed := before + amount })
    (room : sub.amountTotal ≤ 0 ∨ before + amount ≤ sub.amountTotal)
    (settled : Settled (subscriptionSession info amount sub plan) info' actual world outcome after) :
    ∃ used token, Moved info 0 token world.db after.db ∧
      after.db.subs = world.db.subs.save { sub with amountUsed := used } ∧ 0 ≤ used ∧
      (sub.amountTotal ≤ 0 ∨ used ≤ sub.amountTotal) ∧
      (max (used - actual) 0 = before ∧ (info.isPlayground = true ∨ amount + token - actual = 0) ↔
        outcome = .ok () ∨ (info.isPlayground = true ∧ before = 0 ∧ amount < actual)) := by
  obtain ⟨idle, ends⟩ | ⟨middle, differs, paid, continues⟩ :=
    settled_cases amount same settled rfl fun _ => subscription_settle_error
  · refine ⟨before + amount, 0, moved_idle idle, ?_, by omega, room, ?_⟩
    · rw [idle.db_eq, save_self]
      exact found
    · rw [ends]
      cases info.isPlayground <;> simp <;> omega
  · have total : max (before + amount + (actual - amount)) 0 = before + actual := by omega
    obtain ⟨within, tables⟩ := subscription_settle_ok found (by omega) paid
    simp only [total] at within tables
    have saved : Moved info 0 0 world.db middle.db := by
      rw [tables]
      exact moved_saveSubscription _
    obtain ⟨token, moved, subs, ends⟩ := continues (saved.known known)
    refine ⟨before + actual, _, saved.trans moved, by rw [subs, tables]; rfl, by omega, within, ?_⟩
    rw [ends]
    cases info.isPlayground <;> simp <;> omega

theorem tokens_settled {amount : Int} (known : Known info world.db) (same : SameToken info info')
    (settled : Settled (tokensSession info amount sub plan) info' actual world outcome after) :
    Known info after.db ∧ after.db.subs = world.db.subs := by
  obtain ⟨idle, _⟩ | ⟨middle, _, paid, continues⟩ :=
    settled_cases 0 same settled rfl fun _ unpaid => by cases unpaid
  · rw [idle.db_eq]
    exact ⟨known, rfl⟩
  · cases paid
    obtain ⟨token, moved, subs, _⟩ := continues known
    exact ⟨moved.known known, subs⟩

theorem refund_keeps_tokensUsed (env : Env) {info : RelayInfo} {db : Db} {task : Task}
    (known : Known info db) (same : task.privateData.tokenId = info.tokenId) (source : taskIsSubscription task = true)
    (found : db.subs.lookup task.privateData.subscriptionId = some row) (id : Int) :
    (refundTaskQuota task (healthy env db)).2.db.subs.column UserSubscription.tokensUsed id =
      db.subs.column UserSubscription.tokensUsed id := by
  by_cases zero : task.quota = 0
  · rw [refundTaskQuota, if_pos zero]
    rfl
  have funding : taskAdjustFunding task (-task.quota) (healthy env db) =
      amountMeter.postConsume task.privateData.subscriptionId (-task.quota) (healthy env db) := by
    rw [taskAdjustFunding, if_pos source]
    rfl
  rw [postConsume_healthy amountMeter (subscriptionId_pos source) (by omega) found] at funding
  cases fits : amountMeter.adjusted row (-task.quota) with
  | error e =>
    rw [fits] at funding
    rw [refundTaskQuota, if_neg zero, attempt_bind, funding]
    rfl
  | ok changed =>
    rw [fits] at funding
    obtain ⟨is, _⟩ := adjusted_ok amountMeter fits
    rw [(refund_paid env known same zero (moved_saveSubscription changed) funding).2]
    simp only [column, saveSubscription, lookup_save, is, Meter.id_setUsed, (lookup_some found).2]
    by_cases mine : id = task.privateData.subscriptionId
    · rw [if_pos mine, mine, found]
      rfl
    · rw [if_neg mine]

/-! Submission and failure together. -/

def submission (relay : Relay) (session : BillingSession) (reads writes : List (Option String)) : Request :=
  ⟨relay.info, some session, { relay.world with readFaults := reads, writeFaults := writes }⟩

/-- When a failed task is undone completely: the settlement of the submission has to succeed. If it fails, a
playground task of a fresh quota subscription that cost more than was pre-consumed comes out even, because
usage stops at 0. A task of a tokens subscription is never undone. -/
def Undone (session : BillingSession) (info : RelayInfo) (db : Db) (actual : Int) (outcome : Except String Unit) : Prop :=
  match session.funding with
  | .wallet _ => outcome = .ok ()
  | .subscription funding => outcome = .ok () ∨ (info.isPlayground = true ∧
      db.subs.column UserSubscription.amountUsed funding.subscriptionId = 0 ∧ funding.preConsumed < actual)
  | .tokens _ => False

theorem undue_rows {env : Env} {db rows : Db} (refreshed : Refreshed env db rows)
    (undue : ∀ sub ∈ db.subs.rows, Undue env db sub) (id : Int) : rows.subs.lookup id = db.subs.lookup id := by
  cases found : db.subs.lookup id with
  | some sub => exact refreshed.kept found (undue sub (lookup_some found).1)
  | none =>
    have related := refreshed.rows id
    rw [found] at related
    cases missing : rows.subs.lookup id with
    | none => rfl
    | some _ =>
      rw [missing] at related
      cases related

section Undone

variable {env later : Env} {res : TaskSubmitResult} {perCallBilling : Bool} {publicTaskId : String}

theorem usage_iff {after : Db} {used : Int} (stored : db.subs.lookup sub.id = some sub)
    (lookups : ∀ id, after.subs.lookup id = if id = sub.id then some { sub with amountUsed := used } else db.subs.lookup id) :
    (∀ id, after.subs.column UserSubscription.amountUsed id = db.subs.column UserSubscription.amountUsed id ∧
        after.subs.column UserSubscription.tokensUsed id = db.subs.column UserSubscription.tokensUsed id) ↔
      used = sub.amountUsed := by
  simp only [column, lookups]
  constructor
  · intro same
    have mine := (same sub.id).1
    rw [if_pos rfl, stored] at mine
    exact mine
  · rintro rfl id
    by_cases mine : id = sub.id
    · rw [if_pos mine, mine, stored]
      exact ⟨rfl, rfl⟩
    · rw [if_neg mine]
      exact ⟨rfl, rfl⟩

theorem wallet_undone {quota : Int} (known : Known info db) (same : SameToken info info')
    (user : info'.userId = info.userId) (source : info'.billingSource = some .wallet)
    (tables : world.db = walletTables env info db quota) :
    NetZero db (submitThenFail later res perCallBilling publicTaskId
        ⟨info', some (walletSession info.userId quota), world⟩) ↔
      (settleBilling res.quota ⟨info', some (walletSession info.userId quota), world⟩).1 = .ok () := by
  have first := moved_chargeUser env known quota
  have opened := first.trans (moved_chargeToken env (first.known known) quota)
  have openedSubs : world.db.subs = db.subs := by
    rw [tables, walletTables, (chargeToken_tables env info quota _).1,
      (chargeUser_tables env info.userId quota db).2.1]
  rw [Int.add_zero, Int.zero_add, ← walletTables, ← tables] at opened
  obtain ⟨after, last, task, settled, counted, row, final⟩ := submitThenFail_settles later res perCallBilling
    publicTaskId (walletSession info.userId quota) info' world rfl rfl
  obtain ⟨wallet, token, moved, subs, exact⟩ := wallet_settled (opened.known known) same settled
  have whole := (opened.trans moved).trans (SameBalances.moved counted)
  have direct : taskIsSubscription task = false := by simp [taskIsSubscription, row.source, source]
  obtain ⟨returned, returnedSubs⟩ :=
    refund_wallet later (whole.known known) (row.token.trans same.1) (row.user.trans user) direct
  have usage : (refundTaskQuota task (healthy later last)).2.db.subs = db.subs := by
    rw [returnedSubs, counted.subs, subs, openedSubs]
  rw [final, (whole.trans returned).netZero_iff, ← exact, usage, row.quota]
  simp only [and_self, implies_true, and_true, Int.add_zero, Int.sub_eq_add_neg]

section

variable {amount : Int} {rows : Db} (known : Known info db) (same : SameToken info info')
  (source : info'.billingSource = some .subscription) (paidBy : info'.subscriptionId = sub.id) (pos : 0 < sub.id)
include known same source paidBy pos

theorem subscription_undone (nonneg : 0 ≤ res.quota) (charged : 0 < amount)
    (used : 0 ≤ sub.amountUsed) (room : sub.amountTotal ≤ 0 ∨ sub.amountUsed + amount ≤ sub.amountTotal)
    (rest : rows = { db with subs := rows.subs }) (subs : ∀ id, rows.subs.lookup id = db.subs.lookup id)
    (stored : db.subs.lookup sub.id = some sub)
    (tables : world.db = chargeToken env info amount (amountMeter.charge info.requestId info.userId amount sub rows)) :
    NetZero db (submitThenFail later res perCallBilling publicTaskId
        ⟨info', some (subscriptionSession info amount sub plan), world⟩) ↔
      (settleBilling res.quota ⟨info', some (subscriptionSession info amount sub plan), world⟩).1 = .ok () ∨
        (info.isPlayground = true ∧ sub.amountUsed = 0 ∧ amount < res.quota) := by
  have recorded : Moved info 0 0 db (amountMeter.charge info.requestId info.userId amount sub rows) := by
    rw [rest]
    exact moved_same (fun _ => rfl) rfl (fun _ => rfl) fun _ => ⟨rfl, rfl⟩
  have opened := recorded.trans (moved_chargeToken env (recorded.known known) amount)
  rw [← tables] at opened
  have openedSubs : world.db.subs = rows.subs.save { sub with amountUsed := sub.amountUsed + amount } := by
    rw [tables, (chargeToken_tables env info amount _).1]
    rfl
  have found : world.db.subs.lookup sub.id = some { sub with amountUsed := sub.amountUsed + amount } := by
    rw [openedSubs]
    exact lookup_save_self _ _
  obtain ⟨after, last, task, settled, counted, row, final⟩ := submitThenFail_settles later res perCallBilling
    publicTaskId (subscriptionSession info amount sub plan) info' world rfl rfl
  obtain ⟨usedThen, token, moved, savedSubs, usedNonneg, within, exact⟩ :=
    subscription_settled (opened.known known) same nonneg used charged found room settled
  have whole := (opened.trans moved).trans (SameBalances.moved counted)
  have funded : taskIsSubscription task = true := by
    simp [taskIsSubscription, row.source, source, row.subscription, paidBy, pos]
  have lastRow : last.subs.lookup task.privateData.subscriptionId = some { sub with amountUsed := usedThen } := by
    rw [row.subscription, paidBy, counted.subs, savedSubs]
    exact lookup_save_self _ _
  obtain ⟨returned, returnedSubs⟩ := refund_subscription later (whole.known known) (row.token.trans same.1) funded lastRow
    usedNonneg within (row.quota ▸ nonneg)
  have lookups : ∀ id, (refundTaskQuota task (healthy later last)).2.db.subs.lookup id = if id = sub.id then
      some { sub with amountUsed := max (usedThen - res.quota) 0 } else db.subs.lookup id := by
    intro id
    rw [returnedSubs, counted.subs, savedSubs, openedSubs, row.quota]
    simp only [lookup_save, subs]
    split <;> rfl
  rw [final, (whole.trans returned).netZero_iff, ← exact, usage_iff stored lookups, row.quota]
  simp only [Int.add_zero, Int.zero_add, true_and, Int.sub_eq_add_neg]
  exact and_comm

theorem tokens_undone (charged : 0 < amount)
    (rest : rows = { db with subs := rows.subs }) (stored : db.subs.lookup sub.id = some sub)
    (tables : world.db = tokensMeter.charge info.requestId info.userId amount sub rows) :
    ¬NetZero db (submitThenFail later res perCallBilling publicTaskId
        ⟨info', some (tokensSession info amount sub plan), world⟩) := by
  have opened : Moved info 0 0 db world.db := by
    rw [tables, rest]
    exact moved_same (fun _ => rfl) rfl (fun _ => rfl) fun _ => ⟨rfl, rfl⟩
  have found : world.db.subs.lookup sub.id = some { sub with tokensUsed := sub.tokensUsed + amount } := by
    rw [tables]
    exact lookup_save_self _ _
  obtain ⟨after, last, task, settled, counted, row, final⟩ := submitThenFail_settles later res perCallBilling
    publicTaskId (tokensSession info amount sub plan) info' world rfl rfl
  obtain ⟨knownThen, subs⟩ := tokens_settled (opened.known known) same settled
  have funded : taskIsSubscription task = true := by
    simp [taskIsSubscription, row.source, source, row.subscription, paidBy, pos]
  have lastRow : last.subs.lookup sub.id = some { sub with tokensUsed := sub.tokensUsed + amount } := by
    rw [counted.subs, subs, found]
  have lastKnown := (SameBalances.moved counted).known knownThen
  have kept := refund_keeps_tokensUsed later lastKnown (row.token.trans same.1) funded
    (by rw [row.subscription, paidBy]; exact lastRow) sub.id
  rw [column_of_lookup lastRow] at kept
  intro restored
  have usage := (restored.usage sub.id).2
  rw [final, kept, column_of_lookup stored] at usage
  change sub.tokensUsed + amount = sub.tokensUsed at usage
  omega

end

end Undone

theorem walletQuota_forced (trustQuota : Int) {info : RelayInfo} (forced : info.forcePreConsume = true) (quota : Int) :
    walletQuota trustQuota info quota = quota := by
  rw [walletQuota, effectiveQuota, shouldTrust, if_pos forced]
  rfl

/-- A task that is submitted and fails later is undone completely under the given condition, and only then. The
session is opened without driver errors; the settlement of the submission may meet any; the refund meets none. -/
theorem failed_task_undone_iff (relay relay' : Relay) (quota : Int) (session : BillingSession) (env later : Env)
    (db : Db) (succeeds : relay.world = healthy env db) (admitted : TaskAdmitted relay)
    (wellFormed : WellFormed db) (undue : ∀ sub ∈ db.subs.rows, Undue env db sub) (requested : 0 ≤ quota)
    (run : newBillingSession quota relay = (.ok session, relay')) (res : TaskSubmitResult)
    (nonneg : 0 ≤ res.quota) (perCallBilling : Bool) (publicTaskId : String) (reads writes : List (Option String)) :
    NetZero db (submitThenFail later res perCallBilling publicTaskId (submission relay' session reads writes)) ↔
      Undone session relay.info db res.quota (settleBilling res.quota (submission relay' session reads writes)).1 := by
  obtain ⟨userQuota, opened, info⟩ := newBillingSession_opened admitted.fresh (by rw [succeeds]; rfl) run
  have known : Known { relay.info with userQuota } db := by
    have known := admitted.known
    rw [succeeds] at known
    exact ⟨known.user, known.keyed, known.tokenless⟩
  have same : SameToken { relay.info with userQuota } relay'.info := info ▸ syncRelayInfo_sameToken _ _
  rw [succeeds] at opened
  cases opened with
  | wallet effective is _ led =>
    have forced : RelayInfo.forcePreConsume { relay.info with userQuota } = true := admitted.forced
    have paid : effective = quota := is.trans (walletQuota_forced _ forced quota)
    have whole : max effective 0 = quota := by omega
    rw [whole] at led
    rw [paid] at info ⊢
    apply wallet_undone known same
    · rw [info]
      rfl
    · rw [info]
      rfl
    · exact led.db_eq
  | subscription rows sub plan _ refreshed stored chosen led =>
    obtain ⟨fits, cand, mem, handed⟩ := firstEligible_some amountMeter chosen
    obtain ⟨_, rfl⟩ := quotaCandidate_some handed
    obtain ⟨pos, used⟩ := wellFormed.resetOf mem (refresh_resetOf env db cand)
    have subs : ∀ id, rows.subs.lookup id = db.subs.lookup id := undue_rows refreshed undue
    have here : db.subs.lookup (refresh env db cand).id = some (refresh env db cand) := by
      rw [← subs]
      exact stored
    have before : db.subs.column UserSubscription.amountUsed (refresh env db cand).id =
        (refresh env db cand).amountUsed := column_of_lookup here _
    change _ ↔ _ ∨ (_ ∧ db.subs.column UserSubscription.amountUsed (refresh env db cand).id = 0 ∧ _)
    rw [before]
    apply subscription_undone known same
    · rw [info]
      rfl
    · rw [info]
      rfl
    · exact pos
    · exact nonneg
    · exact subConsume_pos quota
    · exact used
    · exact eligible_room amountMeter fits
    · exact refreshed.rest
    · exact subs
    · exact here
    · exact led.db_eq
  | tokens rows sub plan _ refreshed stored chosen led =>
    obtain ⟨_, cand, mem, handed⟩ := firstEligible_some tokensMeter chosen
    obtain ⟨_, rfl⟩ := tokensCandidate_some handed
    have here : db.subs.lookup cand.id = some cand :=
      (undue_rows refreshed undue cand.id).symm.trans stored
    simp only [Undone, tokensSession, BillingSession.new, iff_false]
    apply tokens_undone known same
    · rw [info]
      rfl
    · rw [info]
      rfl
    · exact wellFormed.ids _ mem
    · exact subConsume_pos quota
    · exact refreshed.rest
    · exact here
    · exact led.db_eq

def taskRelay : Relay := { walletRelay with info := { walletRelay.info with forcePreConsume := true } }

def tokensTaskRelay : Relay := { tokensRelay with info := { tokensRelay.info with forcePreConsume := true } }

def acceptedAt (quota : Int) : TaskSubmitResult := ⟨"upstream", "", .video "45" channelType_unnamed, quota⟩

theorem taskRelay_admitted : TaskAdmitted taskRelay where
  fresh := by decide
  forced := rfl
  known := ⟨by decide, fun _ => ⟨by decide, _, rfl, by decide⟩, nofun⟩

theorem tokensTaskRelay_admitted : TaskAdmitted tokensTaskRelay where
  fresh := by decide
  forced := rfl
  known := ⟨by decide, fun _ => ⟨by decide, _, rfl, by decide⟩, nofun⟩

theorem taskRelay_undone : ∃ session relay', newBillingSession 100 taskRelay = (.ok session, relay') ∧
      (NetZero taskRelay.world.db
          (submitThenFail plainEnv (acceptedAt 150) false "task" (submission relay' session [] [])) ↔
        Undone session taskRelay.info taskRelay.world.db 150 (settleBilling 150 (submission relay' session [] [])).1) :=
  ⟨_, _, rfl, failed_task_undone_iff taskRelay _ 100 _ plainEnv plainEnv taskRelay.world.db rfl taskRelay_admitted
    ⟨by decide, by decide⟩ (by decide) (by decide) rfl (acceptedAt 150) (by decide) false "task" [] []⟩

/-- If the driver refuses the settlement of a wallet task, its refund returns 50 more than was taken. A task of a
tokens subscription that fails leaves the 10 tokens of its estimate charged. -/
theorem failed_tasks_not_undone :
    (∃ session relay', newBillingSession 100 taskRelay = (.ok session, relay') ∧ TaskAdmitted taskRelay ∧
      userBalance (submitThenFail plainEnv (acceptedAt 150) false "task"
        (submission relay' session [] [some "refused"])) 1 = userBalance taskRelay.world.db 1 + 50) ∧
    ∃ session relay', newBillingSession 10 tokensTaskRelay = (.ok session, relay') ∧ TaskAdmitted tokensTaskRelay ∧
      (submitThenFail plainEnv (acceptedAt 10) false "task" (submission relay' session [] [])).subs.column
          UserSubscription.tokensUsed 3 = tokensTaskRelay.world.db.subs.column UserSubscription.tokensUsed 3 + 10 :=
  ⟨⟨_, _, rfl, taskRelay_admitted, by decide⟩, ⟨_, _, rfl, tokensTaskRelay_admitted, by decide⟩⟩

end Tokengine.Tasks.SubmitThenFail
