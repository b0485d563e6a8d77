import Mathlib.Data.List.Sort
import Mathlib.Data.Rat.Floor
import Tokengine.Lib.Transactions
import Tokengine.Model.ResetTime

/-! The tables behind the ways a subscription comes into being and ends, and the statements on them. -/

namespace Tokengine.Plans
open Transactions Model Database ResetTime Text

structure Member where
  id : Int
  group : String
  quota : Int
  deriving DecidableEq

inductive DurationUnit where
  | year
  | month
  | day
  | hour
  | custom
  | other (unit : String)
  deriving DecidableEq

structure Plan extends SubscriptionPlan where
  priceAmount : Rat
  durationUnit : DurationUnit
  (durationValue customSeconds : Int)
  enabled : Bool
  /-- 0 means unlimited. -/
  maxPurchasePerUser : Int
  /-- The group a purchase moves the user to; empty for none. -/
  upgradeGroup : String
  (totalAmount tokensLimit : Int)
  applicableModels : String
  deriving DecidableEq

inductive Source where
  | order
  | admin
  | gift
  | wallet
  | redemption
  deriving DecidableEq

structure Subscription extends UserSubscription where
  tradeNo : String
  source : Source
  (upgradeGroup prevUserGroup : String)
  deriving DecidableEq

inductive RedemptionStatus where
  | enabled
  | disabled
  | used
  deriving DecidableEq

structure Redemption where
  id : Int
  key : String
  status : RedemptionStatus
  (quota redeemedTime usedUserId : Int)
  /-- 0 means never. -/
  expiredTime : Int
  /-- The plan the code is good for; 0 for a code that is good for quota. -/
  planId : Int
  deriving DecidableEq

inductive OrderStatus where
  | pending
  | success
  | failed
  | expired
  | cancelled
  deriving DecidableEq

structure SubscriptionOrder where
  tradeNo : String
  (userId planId : Int)
  money : Rat
  paymentMethod : String
  status : OrderStatus
  (createTime completeTime : Int)
  providerPayload : String
  deriving DecidableEq

structure Store where
  users : Table Member.id
  plans : Table fun plan : Plan => plan.id
  subs : Table fun sub : Subscription => sub.id
  /-- The next value of the key of the subscriptions. -/
  nextSubId : Int
  redemptions : Table Redemption.key
  orders : Table SubscriptionOrder.tradeNo

def emptyStore : Store := ⟨.empty, .empty, .empty, 1, .empty, .empty⟩

inductive Query where
  | group (userId : Int)
  | subCount (userId planId : Int)
  | plan (id : Int)
  | redemption (key : String)
  | sub (id : Int)
  /-- The active upgrading subscription that ends last, without the one of the given id. -/
  | activeUpgraded (userId now : Int) (others : Option Int)
  | lastExpired (userId : Int)
  | due (now : Int) (limit : Nat)
  | userQuota (userId : Int)
  deriving DecidableEq

abbrev Result : Query → Type
  | .group _ => String
  | .subCount _ _ => Int
  | .plan _ => Option Plan
  | .redemption _ => Option Redemption
  | .sub _ => Option Subscription
  | .activeUpgraded _ _ _ => Option Subscription
  | .lastExpired _ => Option Subscription
  | .due _ _ => List Subscription
  | .userQuota _ => Int

/-- `ORDER BY end_time DESC, id DESC`. -/
def endsLater (first second : Subscription) : Prop :=
  second.endTime < first.endTime ∨ second.endTime = first.endTime ∧ second.id ≤ first.id

instance : DecidableRel endsLater := fun _ _ => inferInstanceAs (Decidable (_ ∨ _))

def firstToEnd (subs : List Subscription) (keep : Subscription → Bool) : Option Subscription :=
  ((subs.filter keep).insertionSort endsLater).head?

def isUpgraded (userId now : Int) (others : Option Int) (sub : Subscription) : Bool :=
  sub.userId == userId && sub.status == .active && decide (now < sub.endTime) && others != some sub.id &&
    sub.upgradeGroup != ""

def isExpiredUpgrade (userId : Int) (sub : Subscription) : Bool :=
  sub.userId == userId && sub.status == .expired && sub.upgradeGroup != ""

def isOverdue (now : Int) (sub : Subscription) : Bool :=
  sub.status == .active && decide (0 < sub.endTime) && decide (sub.endTime ≤ now)

def answer : (query : Query) → Store → Result query
  | .group userId, db => ((db.users.lookup userId).map Member.group).getD ""
  | .subCount userId planId, db => (db.subs.rows.filter fun sub => sub.userId == userId && sub.planId == planId).length
  | .plan id, db => db.plans.lookup id
  | .redemption key, db => db.redemptions.lookup key
  | .sub id, db => db.subs.lookup id
  | .activeUpgraded userId now others, db => firstToEnd db.subs.rows (isUpgraded userId now others)
  | .lastExpired userId, db => firstToEnd db.subs.rows (isExpiredUpgrade userId)
  | .due now limit, db =>
    ((db.subs.rows.filter (isOverdue now)).insertionSort fun first second =>
      first.endTime < second.endTime ∨ first.endTime = second.endTime ∧ first.id ≤ second.id).take limit
  | .userQuota userId, db => db.users.column Member.quota userId

inductive Write where
  | group (userId : Int) (group : String)
  /-- The key of the row is assigned by the table. -/
  | createSub (row : Subscription)
  | expireDue (userId now : Int)
  | cancelSub (id now : Int)
  | deleteSub (id : Int)
  | addQuota (userId amount : Int)
  | saveRedemption (row : Redemption)
  | saveOrder (row : SubscriptionOrder)
  deriving DecidableEq

def expireRow (userId now : Int) (sub : Subscription) : Subscription :=
  if sub.userId = userId ∧ isOverdue now sub then { sub with status := .expired } else sub

theorem expireRow_id (userId now : Int) (sub : Subscription) : (expireRow userId now sub).id = sub.id := by
  unfold expireRow
  split <;> rfl

def apply : Write → Store → Store
  | .group userId group, db => { db with users := db.users.update userId fun user => { user with group := group } }
  | .createSub row, db => { db with
      subs := db.subs.save { row with id := db.nextSubId }
      nextSubId := db.nextSubId + 1 }
  | .expireDue userId now, db => { db with subs := db.subs.modify (expireRow userId now) (expireRow_id userId now) }
  | .cancelSub id now, db => { db with
      subs := db.subs.update id fun sub => { sub with status := .cancelled, endTime := now } }
  | .deleteSub id, db => { db with subs := db.subs.delete id }
  | .addQuota userId amount, db =>
    { db with users := db.users.update userId fun user => { user with quota := user.quota + amount } }
  | .saveRedemption row, db => { db with redemptions := db.redemptions.save row }
  | .saveOrder row, db => { db with orders := db.orders.save row }

abbrev schema : Schema := ⟨Store, Query, Result, answer, Write, apply⟩

/-! The functions. -/

/-- `GetDBTimestamp` and the local time zone. -/
structure Clock where
  (now utcOffset : Int)

/-- `dateToAbsDays` for the first of a month: the years are those of `uint64`, from the absolute year 0. -/
def dateToAbsDays (date : MarchDate) : Int :=
  let year := (date.year + date.month / 12 + 292277022400) % 2 ^ 64
  146097 * (year / 100) % 2 ^ 64 / 4 + 1461 * (year % 100) / 4 + (153 * (date.month % 12) + 2) / 5

/-- `Time.AddDate` with months only, as Unix seconds of an `int64`. -/
def addMonths (utcOffset start months : Int) : Int :=
  let date := marchDate (localDay utcOffset start)
  let days := dateToAbsDays { date with month := date.month + months } - dateToAbsDays date
  wrap64 (start + days * secondsPerDay)

/-- `start.Add` of a number of seconds, as nanoseconds of an `int64`. -/
def addSeconds (start seconds : Int) : Int := start + wrap64 (seconds * nanosPerSecond) / nanosPerSecond

def calcPlanEndTime (clock : Clock) (plan : Plan) : Except String Int :=
  if plan.durationValue ≤ 0 ∧ plan.durationUnit ≠ .custom then .error "duration_value must be > 0"
  else match plan.durationUnit with
    | .year => .ok (addMonths clock.utcOffset clock.now (12 * plan.durationValue))
    | .month => .ok (addMonths clock.utcOffset clock.now plan.durationValue)
    | .day => .ok (addSeconds clock.now (plan.durationValue * 24 * 3600))
    | .hour => .ok (addSeconds clock.now (plan.durationValue * 3600))
    | .custom =>
      if plan.customSeconds ≤ 0 then .error "custom_seconds must be > 0"
      else .ok (addSeconds clock.now plan.customSeconds)
    | .other unit => .error s!"invalid duration_unit: {unit}"

def find (handle : Handle) (query : Query) : Action schema (Result query) := @Transactions.query schema handle query

def run (handle : Handle) (write : Write) : Action schema Unit := execute handle write

def getSubscriptionPlanByIdTx (handle : Handle) (id : Int) : Action schema Plan :=
  if id ≤ 0 then throw "invalid plan id"
  else do
    match ← find handle (.plan id) with
    | some plan => pure plan
    | none => throw recordNotFound

def getUserGroupByIdTx (handle : Handle) (userId : Int) : Action schema String :=
  if userId ≤ 0 then throw "invalid userId" else find handle (.group userId)

def limitReached : String := "已达到该套餐购买上限"

def checkPurchaseLimit (handle : Handle) (userId : Int) (plan : Plan) : Action schema Unit :=
  if 0 < plan.maxPurchasePerUser then do
    let count ← find handle (.subCount userId plan.id)
    if plan.maxPurchasePerUser ≤ count then throw limitReached else pure ()
  else pure ()

def upgradeUserGroup (handle : Handle) (userId : Int) (upgradeGroup : String) : Action schema String :=
  if upgradeGroup = "" then pure ""
  else do
    let currentGroup ← getUserGroupByIdTx handle userId
    if currentGroup = upgradeGroup then pure ""
    else do
      run handle (.group userId upgradeGroup)
      pure currentGroup

/-- The row that `CreateUserSubscriptionFromPlanTx` inserts. -/
def newSubscription (clock : Clock) (userId : Int) (tradeNo : String) (plan : Plan) (source : Source) (endUnix : Int)
    (prevGroup : String) : Subscription :=
  let nextReset := calcNextResetTime clock.utcOffset clock.now plan.toSubscriptionPlan endUnix
  { id := 0
    userId
    planId := plan.id
    amountTotal := plan.totalAmount
    amountUsed := 0
    startTime := clock.now
    endTime := endUnix
    status := .active
    lastResetTime := if 0 < nextReset then clock.now else 0
    nextResetTime := nextReset
    tokensUsed := 0
    tokensLimit := plan.tokensLimit
    applicableModels := plan.applicableModels
    tradeNo
    source
    upgradeGroup := trimSpace plan.upgradeGroup
    prevUserGroup := prevGroup }

def createUserSubscriptionFromPlanTx (handle : Handle) (clock : Clock) (userId : Int) (tradeNo : String) (plan : Plan)
    (source : Source) : Action schema Unit :=
  if plan.id = 0 then throw "invalid plan"
  else if userId ≤ 0 then throw "invalid user id"
  else do
    checkPurchaseLimit handle userId plan
    let endUnix ← computed (calcPlanEndTime clock plan)
    let prevGroup ← upgradeUserGroup handle userId (trimSpace plan.upgradeGroup)
    run handle (.createSub (newSubscription clock userId tradeNo plan source endUnix prevGroup))

def bindGiftSubscription (clock : Clock) (userId planId : Int) : Action schema Unit :=
  if userId ≤ 0 ∨ planId ≤ 0 then throw "invalid userId or planId"
  else do
    let plan ← getSubscriptionPlanByIdTx .global planId
    if plan.enabled then transaction (createUserSubscriptionFromPlanTx .own clock userId "" plan .gift)
    else throw "gift plan is disabled"

def adminBindSubscription (clock : Clock) (userId planId : Int) : Action schema Unit :=
  if userId ≤ 0 ∨ planId ≤ 0 then throw "invalid userId or planId"
  else do
    let plan ← getSubscriptionPlanByIdTx .global planId
    transaction (createUserSubscriptionFromPlanTx .own clock userId "" plan .admin)

def scaleBy (digits : Int) (val : Rat) : Rat := val * 2 ^ digits.toNat / 2 ^ (-digits).toNat

def roundEven (val : Rat) : Int :=
  let below := val.floor
  if val - below < 1 / 2 ∨ val - below = 1 / 2 ∧ below % 2 = 0 then below else below + 1

/-- The `float64` that is nearest to a positive number: 53 binary digits, ties to even. -/
def float64 (val : Rat) : Rat :=
  let digits : Int := 52 - ((val.num.natAbs.log2 : Int) - val.den.log2)
  let digits := if scaleBy digits val < 2 ^ 52 then digits + 1 else digits
  scaleBy (-digits) (roundEven (scaleBy digits val))

def unitQuota (quotaPerUnit : Int) : Rat := if quotaPerUnit ≤ 0 then 10000 else quotaPerUnit

/-- `int(plan.PriceAmount * quotaPerUnit)`. The price is the decimal of the table. -/
def requiredQuota (quotaPerUnit : Int) (plan : Plan) : Int :=
  (float64 (float64 plan.priceAmount * unitQuota quotaPerUnit)).floor

def failOrder (order : SubscriptionOrder) : Action schema Unit := do
  let _ ← attempt (run .global (.saveOrder { order with status := .failed }))
  pure ()

/-- `BatchUpdateEnabled`: the amount is collected in memory, which no driver refuses. The value is what was collected. -/
def changeUserQuota (batch : Bool) (userId quota amount : Int) : Action schema Int :=
  if quota < 0 then throw "quota 不能为负数！"
  else if batch then pure amount
  else do
    run .global (.addQuota userId amount)
    pure 0

def decreaseUserQuota (batch : Bool) (userId quota : Int) : Action schema Int := changeUserQuota batch userId quota (-quota)

def increaseUserQuota (batch : Bool) (userId quota : Int) : Action schema Int := changeUserQuota batch userId quota quota

/-- The answer, and what is collected for the wallet. -/
def payFromWallet (clock : Clock) (batch : Bool) (userId price : Int) (plan : Plan) (tradeNo : String) :
    Action schema (Except String Unit × Int) := do
  let order : SubscriptionOrder :=
    ⟨tradeNo, userId, plan.id, plan.priceAmount, "wallet", .success, clock.now, clock.now, ""⟩
  match ← attempt (run .global (.saveOrder order)) with
  | .error _ => pure (.error "创建订单失败", 0)
  | .ok _ =>
    match ← attempt (decreaseUserQuota batch userId price) with
    | .error _ => do
      failOrder order
      pure (.error "扣款失败", 0)
    | .ok taken =>
      match ← attempt (createUserSubscriptionFromPlanTx .global clock userId tradeNo plan .wallet) with
      | .ok _ => pure (.ok (), taken)
      | .error e => do
        let back ← attempt (increaseUserQuota batch userId price)
        failOrder order
        pure (.error ("创建订阅失败: " ++ e), taken + back.toOption.getD 0)

/-- `CountUserSubscriptionsByPlan`, before the payment. -/
def checkWalletLimit (userId : Int) (plan : Plan) : Action schema Unit :=
  if 0 < plan.maxPurchasePerUser then
    if userId ≤ 0 ∨ plan.id ≤ 0 then throw "invalid userId or planId"
    else do
      let count ← find .global (.subCount userId plan.id)
      if plan.maxPurchasePerUser ≤ count then throw limitReached else pure ()
  else pure ()

/-- What the handler checks before the payment. -/
def walletPlan (quotaPerUnit userId planId : Int) : Action schema Plan :=
  if planId ≤ 0 then throw "参数错误"
  else do
    let plan ← getSubscriptionPlanByIdTx .global planId
    if plan.enabled = false then throw "套餐未启用"
    else if plan.priceAmount < 1 / 100 then throw "套餐金额过低"
    else do
      checkWalletLimit userId plan
      let currentQuota ← find .global (.userQuota userId)
      if currentQuota < requiredQuota quotaPerUnit plan then throw "余额不足，请先充值" else pure plan

def subscriptionRequestWalletPay (clock : Clock) (batch : Bool) (quotaPerUnit userId planId : Int) (tradeNo : String) :
    Action schema (Except String Unit × Int) := do
  match ← attempt (walletPlan quotaPerUnit userId planId) with
  | .error e => pure (.error e, 0)
  | .ok plan => payFromWallet clock batch userId (requiredQuota quotaPerUnit plan) plan tradeNo

/-- The row that `redeemAsSubscription` inserts: it names the group of the plan and moves nobody to it. -/
def redeemedSubscription (clock : Clock) (userId : Int) (plan : Plan) (endTime : Int) : Subscription where
  id := 0
  userId := userId
  planId := plan.id
  amountTotal := plan.totalAmount
  amountUsed := 0
  startTime := clock.now
  endTime := endTime
  status := .active
  lastResetTime := clock.now
  nextResetTime := calcNextResetTime clock.utcOffset clock.now plan.toSubscriptionPlan endTime
  tokensUsed := 0
  tokensLimit := plan.tokensLimit
  applicableModels := plan.applicableModels
  tradeNo := ""
  source := .redemption
  upgradeGroup := plan.upgradeGroup
  prevUserGroup := ""

def markUsed (clock : Clock) (userId : Int) (redemption : Redemption) : Redemption :=
  { redemption with redeemedTime := clock.now, status := .used, usedUserId := userId }

def redeemedUntil (redemption : Redemption) (endTime : Int) : Int :=
  if 0 < redemption.expiredTime ∧ redemption.expiredTime < endTime then redemption.expiredTime else endTime

def redeemAsSubscription (clock : Clock) (redemption : Redemption) (userId : Int) : Action schema Redemption := do
  match ← attempt (getSubscriptionPlanByIdTx .own redemption.planId) with
  | .error _ => throw "关联的套餐不存在"
  | .ok plan =>
    if plan.enabled = false then throw "关联的套餐已禁用"
    else do
      let endTime ← computed (calcPlanEndTime clock plan)
      run .global
        (.createSub (redeemedSubscription clock userId plan (redeemedUntil redemption endTime)))
      run .own (.saveRedemption (markUsed clock userId redemption))
      pure (markUsed clock userId redemption)

def redeemTx (clock : Clock) (key : String) (userId : Int) : Action schema Redemption := do
  match ← attempt (find .own (.redemption key)) with
  | .error _ => throw "无效的兑换码"
  | .ok none => throw "无效的兑换码"
  | .ok (some redemption) =>
    if redemption.status ≠ .enabled then throw "该兑换码已被使用"
    else if redemption.expiredTime ≠ 0 ∧ redemption.expiredTime < clock.now then throw "该兑换码已过期"
    else if 0 < redemption.planId then redeemAsSubscription clock redemption userId
    else do
      run .own (.addQuota userId redemption.quota)
      run .own (.saveRedemption (markUsed clock userId redemption))
      pure (markUsed clock userId redemption)

/-- What a redemption returns. The title of the plan is read for the log without a look at the error. -/
inductive Redeemed where
  | plan (planId : Int)
  | quota (quota : Int)
  | panicked

def redeem (clock : Clock) (key : String) (userId : Int) : Action schema Redeemed :=
  if key = "" then throw "未提供兑换码"
  else if userId = 0 then throw "无效的 user id"
  else do
    match ← attempt (transaction (redeemTx clock key userId)) with
    | .error _ => throw "redeem.failed"
    | .ok redemption =>
      if 0 < redemption.planId then do
        match ← attempt (getSubscriptionPlanByIdTx .global redemption.planId) with
        | .error _ => pure .panicked
        | .ok _ => pure (.plan redemption.planId)
      else pure (.quota redemption.quota)

def downgradeUserGroupForSubscriptionTx (sub : Subscription) (now : Int) : Action schema Unit :=
  if trimSpace sub.upgradeGroup = "" then pure ()
  else do
    let currentGroup ← getUserGroupByIdTx .own sub.userId
    if currentGroup ≠ trimSpace sub.upgradeGroup then pure ()
    else do
      match ← attempt (find .own (.activeUpgraded sub.userId now (some sub.id))) with
      | .ok (some _) => pure ()
      | _ =>
        if trimSpace sub.prevUserGroup = "" ∨ trimSpace sub.prevUserGroup = currentGroup then pure ()
        else run .own (.group sub.userId (trimSpace sub.prevUserGroup))

def findSubscription (id : Int) : Action schema Subscription := do
  match ← find .own (.sub id) with
  | some sub => pure sub
  | none => throw recordNotFound

def adminInvalidateUserSubscription (now userSubscriptionId : Int) : Action schema Unit :=
  if userSubscriptionId ≤ 0 then throw "invalid userSubscriptionId"
  else transaction do
    let sub ← findSubscription userSubscriptionId
    run .own (.cancelSub sub.id now)
    downgradeUserGroupForSubscriptionTx sub now

def adminDeleteUserSubscription (now userSubscriptionId : Int) : Action schema Unit :=
  if userSubscriptionId ≤ 0 then throw "invalid userSubscriptionId"
  else transaction do
    let sub ← findSubscription userSubscriptionId
    downgradeUserGroupForSubscriptionTx sub now
    run .own (.deleteSub userSubscriptionId)

def downgradeAfterExpiry (userId : Int) (lastExpired : Subscription) : Action schema Unit :=
  if trimSpace lastExpired.upgradeGroup = "" ∨ trimSpace lastExpired.prevUserGroup = "" then pure ()
  else do
    let currentGroup ← getUserGroupByIdTx .own userId
    if currentGroup ≠ trimSpace lastExpired.upgradeGroup ∨ currentGroup = trimSpace lastExpired.prevUserGroup then
      pure ()
    else run .own (.group userId (trimSpace lastExpired.prevUserGroup))

def expireUser (now userId : Int) : Action schema Unit := do
  run .own (.expireDue userId now)
  match ← attempt (find .own (.activeUpgraded userId now none)) with
  | .ok (some _) => pure ()
  | _ =>
    match ← attempt (find .own (.lastExpired userId)) with
    | .ok (some lastExpired) => downgradeAfterExpiry userId lastExpired
    | _ => pure ()

def expireDueSubscriptions (now limit : Int) : Action schema Unit := do
  let subs ← find .global (.due now (if limit ≤ 0 then 200 else limit.toNat))
  let userIds := ((subs.filter fun sub => decide (0 < sub.userId)).map fun sub => sub.userId).dedup
  Interleaving.loop (fun _ userId => transaction (expireUser now userId)) userIds ()

inductive Operation where
  | bindGift (userId planId : Int)
  | adminBind (userId planId : Int)
  | walletPay (batch : Bool) (quotaPerUnit userId planId : Int) (tradeNo : String)
  | redeem (key : String) (userId : Int)
  | invalidate (id : Int)
  | delete (id : Int)
  | expire (limit : Int)

def Operation.script (clock : Clock) : Operation → Action schema Unit
  | .bindGift userId planId => bindGiftSubscription clock userId planId
  | .adminBind userId planId => adminBindSubscription clock userId planId
  | .walletPay batch quotaPerUnit userId planId tradeNo => do
    let _ ← subscriptionRequestWalletPay clock batch quotaPerUnit userId planId tradeNo
    pure ()
  | .redeem key userId => do
    let _ ← Plans.redeem clock key userId
    pure ()
  | .invalidate id => adminInvalidateUserSubscription clock.now id
  | .delete id => adminDeleteUserSubscription clock.now id
  | .expire limit => expireDueSubscriptions clock.now limit

def monthlyPlan : Plan where
  id := 1
  title := "monthly"
  quotaResetPeriod := "never"
  quotaResetCustomSeconds := 0
  planType := .quota
  priceAmount := 10
  durationUnit := .day
  durationValue := 30
  customSeconds := 0
  enabled := true
  maxPurchasePerUser := 0
  upgradeGroup := ""
  totalAmount := 0
  tokensLimit := 0
  applicableModels := ""

end Tokengine.Plans
