import Tokengine.Plans.Store

/-! Top-up orders, and the requests that change their status: the notifications of the gateways, the order query, the
completion by an administrator, the cancellation by the user and the expiry. -/

namespace Tokengine.Payments
open Transactions Interleaving Model.Database Table Option
open Plans (OrderStatus SubscriptionOrder)

structure User where
  (id quota : Int)
  (email stripeCustomer : String)
  deriving DecidableEq

structure TopUp where
  tradeNo : String
  (userId amount : Int)
  money : Rat
  paymentMethod : String
  (createTime completeTime : Int)
  status : OrderStatus
  deriving DecidableEq

structure Store where
  users : Table User.id
  topUps : Table TopUp.tradeNo
  subscriptionOrders : Table SubscriptionOrder.tradeNo

def emptyStore : Store := ⟨.empty, .empty, .empty⟩

/-- An increase of a user's quota, with the other columns that the statement sets and the order it is made for. -/
structure Credit where
  order : String
  (userId amount : Int)
  (stripeCustomer email : Option String)

def Credit.change (credit : Credit) (user : User) : User := { user with
  quota := user.quota + credit.amount
  stripeCustomer := credit.stripeCustomer.getD user.stripeCustomer
  email := credit.email.getD user.email }

inductive Query where
  | topUp (tradeNo : String)
  | user (id : Int)
  | subscriptionOrder (tradeNo : String)

abbrev Result : Query → Type
  | .topUp _ => Option TopUp
  | .user _ => Option User
  | .subscriptionOrder _ => Option SubscriptionOrder

def answer : (query : Query) → Store → Result query
  | .topUp tradeNo, db => db.topUps.lookup tradeNo
  | .user id, db => db.users.lookup id
  | .subscriptionOrder tradeNo, db => db.subscriptionOrders.lookup tradeNo

inductive Write where
  | saveTopUp (row : TopUp)
  | credit (credit : Credit)
  | expirePending (cutoff : Int)
  | saveSubscriptionOrder (row : SubscriptionOrder)

def expireRow (cutoff : Int) (topUp : TopUp) : TopUp :=
  if topUp.status = .pending ∧ topUp.createTime < cutoff then { topUp with status := .expired } else topUp

theorem expireRow_tradeNo (cutoff : Int) (topUp : TopUp) : (expireRow cutoff topUp).tradeNo = topUp.tradeNo := by
  unfold expireRow
  split <;> rfl

def apply : Write → Store → Store
  | .saveTopUp row, db => { db with topUps := db.topUps.save row }
  | .credit credit, db => { db with users := db.users.update credit.userId credit.change }
  | .expirePending cutoff, db => { db with topUps := db.topUps.modify (expireRow cutoff) (expireRow_tradeNo cutoff) }
  | .saveSubscriptionOrder row, db => { db with subscriptionOrders := db.subscriptionOrders.save row }

abbrev schema : Schema := ⟨Store, Query, Result, answer, Write, apply⟩

def Paid (tradeNo : String) (db : Store) : Prop := (db.topUps.lookup tradeNo).map TopUp.status = some .success

instance (tradeNo : String) (db : Store) : Decidable (Paid tradeNo db) := inferInstanceAs (Decidable (_ = _))

theorem paid_saveTopUp {tradeNo : String} {row : TopUp} (mine : row.tradeNo = tradeNo) (db : Store) :
    Paid tradeNo (apply (.saveTopUp row) db) ↔ row.status = .success := by
  have found : (db.topUps.save row).lookup tradeNo = some row := mine ▸ lookup_save_self db.topUps row
  change ((db.topUps.save row).lookup tradeNo).map TopUp.status = some .success ↔ _
  rw [found]
  exact some_inj

theorem expireRow_success {cutoff : Int} {row : TopUp} : (expireRow cutoff row).status = .success ↔ row.status = .success := by
  unfold expireRow
  split
  next due => simp [due.1]
  · rfl

theorem paid_expirePending (tradeNo : String) (cutoff : Int) (db : Store) :
    Paid tradeNo (apply (.expirePending cutoff) db) ↔ Paid tradeNo db := by
  change ((db.topUps.modify (expireRow cutoff) (expireRow_tradeNo cutoff)).lookup tradeNo).map TopUp.status = some .success ↔ _
  rw [lookup_modify, Paid, map_map]
  cases db.topUps.lookup tradeNo with
  | none => simp
  | some row => simp [expireRow_success]

/-! What an order is worth. -/

structure Settings where
  (quotaPerUnit usdExchangeRate : Rat)
  /-- How the database adds a floating-point number to the quota. -/
  toColumn : Rat → Int

/-- `decimal.IntPart`, for amounts within the range of `int64`. -/
def intPart (val : Rat) : Int := val.num.tdiv val.den

/-- `decimal.Round`: halves are rounded away from zero. -/
def roundAway (val : Rat) : Int := if 0 ≤ val then ⌊val + 1 / 2⌋ else -⌊-val + 1 / 2⌋

/-- `decimal.Div`, to sixteen digits after the point. -/
def decimalDiv (val divisor : Rat) : Rat := roundAway (val / divisor * 10 ^ 16) / 10 ^ 16

def unitQuota (cfg : Settings) (topUp : TopUp) : Int := intPart (topUp.amount * cfg.quotaPerUnit)

def exchangeRate (cfg : Settings) : Rat := if cfg.usdExchangeRate ≤ 0 then 73 / 10 else cfg.usdExchangeRate

def cnyQuota (cfg : Settings) (topUp : TopUp) : Int :=
  intPart (decimalDiv topUp.money (exchangeRate cfg) * cfg.quotaPerUnit)

def moneyQuota (cfg : Settings) (topUp : TopUp) : Rat := topUp.money * cfg.quotaPerUnit

def manualQuota (cfg : Settings) (topUp : TopUp) : Int :=
  if topUp.paymentMethod = "stripe" then intPart (moneyQuota cfg topUp) else unitQuota cfg topUp

variable {val : Rat}

theorem intPart_nonneg (nonneg : 0 ≤ val) : 0 ≤ intPart val :=
  Int.tdiv_nonneg (Rat.num_nonneg.mpr nonneg) (Int.natCast_nonneg _)

theorem roundAway_nonneg (nonneg : 0 ≤ val) : 0 ≤ roundAway val := by
  rw [roundAway, if_pos nonneg]
  exact Int.floor_nonneg.mpr (by linarith)

theorem exchangeRate_pos (cfg : Settings) : 0 < exchangeRate cfg := by
  unfold exchangeRate
  split
  · norm_num
  next pos => exact not_le.mp pos

variable {cfg : Settings}

theorem unitQuota_nonneg {topUp : TopUp} (unit : 0 ≤ cfg.quotaPerUnit) (amount : 0 ≤ topUp.amount) :
    0 ≤ unitQuota cfg topUp :=
  intPart_nonneg (mul_nonneg (by exact_mod_cast amount) unit)

theorem decimalDiv_nonneg {divisor : Rat} (nonneg : 0 ≤ val / divisor) : 0 ≤ decimalDiv val divisor := by
  have rounded : 0 ≤ roundAway (val / divisor * 10 ^ 16) := roundAway_nonneg (by linarith)
  exact div_nonneg (by exact_mod_cast rounded) (by norm_num)

theorem cnyQuota_nonneg {topUp : TopUp} (unit : 0 ≤ cfg.quotaPerUnit) (money : 0 ≤ topUp.money) :
    0 ≤ cnyQuota cfg topUp :=
  intPart_nonneg (mul_nonneg (decimalDiv_nonneg (div_nonneg money (exchangeRate_pos cfg).le)) unit)

/-! The functions on orders. -/

def find (handle : Handle) (query : Query) : Action schema (Result query) := @Transactions.query schema handle query

def run (handle : Handle) (write : Write) : Action schema Unit := execute handle write

def getTopUpByTradeNo (tradeNo : String) : Action schema (Option TopUp) := do
  match ← attempt (find .global (.topUp tradeNo)) with
  | .ok found => pure found
  | .error _ => pure none

def increaseUserQuota (order : String) (id quota : Int) : Action schema Unit :=
  if quota < 0 then throw "quota 不能为负数！" else run .global (.credit ⟨order, id, quota, none, none⟩)

def settle (topUp : TopUp) (quotaToAdd : Int) : Action schema Unit := do
  run .global (.saveTopUp { topUp with status := .success })
  increaseUserQuota topUp.tradeNo topUp.userId quotaToAdd

def lockedTopUp (tradeNo : String) : Action schema TopUp := do
  match ← attempt (find .own (.topUp tradeNo)) with
  | .ok (some topUp) => pure topUp
  | _ => throw "充值订单不存在"

def completeTx (now : Int) (topUp : TopUp) (amount : Int) (stripeCustomer email : Option String) : Action schema Unit := do
  run .own (.saveTopUp { topUp with completeTime := now, status := .success })
  run .own (.credit ⟨topUp.tradeNo, topUp.userId, amount, stripeCustomer, email⟩)

def orRetry (body : Action schema Unit) : Action schema Unit := do
  match ← attempt body with
  | .ok _ => pure ()
  | .error _ => throw "充值失败，请稍后重试"

def rechargeTx (cfg : Settings) (now : Int) (referenceId customerId : String) : Action schema Unit := do
  let topUp ← lockedTopUp referenceId
  if topUp.status ≠ .pending then throw "充值订单状态错误"
  else completeTx now topUp (cfg.toColumn (moneyQuota cfg topUp)) (some customerId) none

def recharge (cfg : Settings) (now : Int) (referenceId customerId : String) : Action schema Unit :=
  if referenceId = "" then throw "未提供支付单号"
  else orRetry (transaction (rechargeTx cfg now referenceId customerId))

def emailToSet (userId : Int) (customerEmail : String) : Action schema (Option String) :=
  if customerEmail = "" then pure none
  else do
    match ← find .own (.user userId) with
    | some user => pure (if user.email = "" then some customerEmail else none)
    | none => throw recordNotFound

def rechargeCreemTx (now : Int) (referenceId customerEmail : String) : Action schema Unit := do
  let topUp ← lockedTopUp referenceId
  if topUp.status ≠ .pending then throw "充值订单状态错误"
  else do
    run .own (.saveTopUp { topUp with completeTime := now, status := .success })
    let email ← emailToSet topUp.userId customerEmail
    run .own (.credit ⟨topUp.tradeNo, topUp.userId, topUp.amount, none, email⟩)

def rechargeCreem (now : Int) (referenceId customerEmail : String) : Action schema Unit :=
  if referenceId = "" then throw "未提供支付单号"
  else orRetry (transaction (rechargeCreemTx now referenceId customerEmail))

def completeOnce (now : Int) (tradeNo wrongStatus : String) (quota : TopUp → Int) : Action schema Unit := do
  let topUp ← lockedTopUp tradeNo
  if topUp.status = .success then pure ()
  else if topUp.status ≠ .pending then throw wrongStatus
  else if quota topUp ≤ 0 then throw "无效的充值额度"
  else completeTx now topUp (quota topUp) none none

def rechargeWaffo (cfg : Settings) (now : Int) (tradeNo : String) : Action schema Unit :=
  if tradeNo = "" then throw "未提供支付单号"
  else orRetry (transaction (completeOnce now tradeNo "充值订单状态错误" (unitQuota cfg)))

def manualCompleteTopUp (cfg : Settings) (now : Int) (tradeNo : String) : Action schema Unit :=
  if tradeNo = "" then throw "未提供订单号"
  else transaction (completeOnce now tradeNo "订单状态不是待支付，无法补单" (manualQuota cfg))

def cancelTopUpByTradeNo (tradeNo : String) (userId : Int) : Action schema Unit := transaction do
  let topUp ← lockedTopUp tradeNo
  if topUp.userId ≠ userId then throw "无权取消该订单"
  else match topUp.status with
    | .pending => run .own (.saveTopUp { topUp with status := .cancelled })
    | .cancelled => throw "订单已取消"
    | .success => throw "订单已支付，无法取消"
    | _ => throw "订单无法取消"

def subscriptionOrderNotFound : String := "subscription order not found"

def expireSubscriptionOrder (now : Int) (tradeNo : String) : Action schema Unit :=
  if tradeNo = "" then throw "tradeNo is empty"
  else transaction do
    match ← attempt (find .own (.subscriptionOrder tradeNo)) with
    | .ok (some order) =>
      if order.status ≠ .pending then pure ()
      else run .own (.saveSubscriptionOrder { order with status := .expired, completeTime := now })
    | _ => throw subscriptionOrderNotFound

/-! The gateways and what they send. -/

abbrev Form := List (String × String)

/-- `FormValue`: a missing field is empty. -/
def formValue (form : Form) (field : String) : String := (form.lookup field).getD ""

structure EpayInfo where
  verifyStatus : Bool
  (tradeStatus serviceTradeNo : String)
  deriving DecidableEq

inductive StripeEventType where
  | completed
  | expired
  | other (type : String)
  deriving DecidableEq

structure StripeEvent where
  type : StripeEventType
  (customer clientReferenceId status : String)
  deriving DecidableEq

structure CreemEvent where
  (eventType orderStatus orderType requestId customerEmail : String)
  deriving DecidableEq

structure WaffoPayment where
  (merchantOrderId orderStatus : String)
  deriving DecidableEq

structure Gateways where
  /-- `Verify` of the Epay client, if the client is configured; it may fail. -/
  epayVerify : Option (Form → Option EpayInfo)
  zsEnabled : Bool
  /-- The `orderId` of a business content that can be parsed. -/
  zsDecode : String → Option String
  /-- `ConstructEvent`: the event of a payload with a valid signature. -/
  stripeEvent : String → String → Option StripeEvent
  creemSecret : String
  creemTestMode : Bool
  generateCreemSignature : String → String → String
  creemDecode : String → Option CreemEvent
  /-- `VerifySignature` of the Waffo kit, if the kit is configured. -/
  waffoVerify : Option (String → String → Bool)
  /-- The payment of a payload, if it is one; the text of the answer if the payload cannot be parsed. -/
  waffoDecode : String → Except String (Option WaffoPayment)

inductive Reply where
  | text (body : String)
  | status (code : Nat)
  | message (success : Bool) (data : String)
  deriving DecidableEq

def fail : Reply := .text "fail"

def success : Reply := .text "success"

/-! Each handler first finds out which order its request is about. -/

variable (gateways : Gateways) (cfg : Settings) (now : Int)

def epayOrder (params : Option Form) : Except Reply String :=
  match params with
  | none => .error fail
  | some [] => .error fail
  | some params => match gateways.epayVerify.map fun verify => verify params with
    | some (some info) =>
      if info.verifyStatus = false then .error fail
      else if info.tradeStatus = "TRADE_SUCCESS" then .ok info.serviceTradeNo
      else .error success
    | _ => .error fail

def zsOrder (form : Option Form) : Except Reply String :=
  match form with
  | none => .error fail
  | some form =>
    if formValue form "biz_content" = "" then .error fail
    else match gateways.zsDecode (formValue form "biz_content") with
      | none => .error fail
      | some orderId =>
        if orderId = "" then .error fail
        else if gateways.zsEnabled = false then .error fail
        else .ok orderId

def helipayOrder (form : Option Form) : Except Reply (String × String) :=
  match form with
  | none => .error fail
  | some form =>
    if formValue form "orderId" = "" then .error fail
    else .ok (formValue form "orderId", formValue form "tradeState")

def verifyCreemSignature (payload sig : String) : Bool :=
  if gateways.creemSecret = "" then gateways.creemTestMode
  else sig == gateways.generateCreemSignature payload gateways.creemSecret

def creemOrder (payload sig : String) : Except Reply (String × String) :=
  if gateways.creemTestMode = false ∧ sig = "" then .error (.status 401)
  else if verifyCreemSignature gateways payload sig = false then .error (.status 401)
  else match gateways.creemDecode payload with
    | none => .error (.status 400)
    | some event =>
      if event.eventType ≠ "checkout.completed" then .error (.status 200)
      else if event.orderStatus ≠ "paid" then .error (.status 200)
      else if event.requestId = "" then .error (.status 400)
      else if event.orderType ≠ "onetime" then .error (.status 200)
      else .ok (event.requestId, event.customerEmail)

def waffoPayment (payload sig : String) : Except Reply WaffoPayment :=
  match gateways.waffoVerify with
  | none => .error (.status 500)
  | some verify =>
    if verify payload sig = false then .error (.status 400)
    else match gateways.waffoDecode payload with
      | .error text => .error (.message false text)
      | .ok none => .error (.message true "")
      | .ok (some payment) => .ok payment

/-! The handlers. -/

def epayNotify (params : Option Form) : Action schema Reply :=
  match epayOrder gateways params with
  | .error reply => pure reply
  | .ok tradeNo => withLock tradeNo do
    match ← getTopUpByTradeNo tradeNo with
    | none => pure success
    | some topUp =>
      if topUp.status = .pending then do
        let _ ← attempt (settle topUp (unitQuota cfg topUp))
        pure success
      else pure success

def zsPayNotify (form : Option Form) : Action schema Reply :=
  match zsOrder gateways form with
  | .error reply => pure reply
  | .ok orderNo => withLock orderNo do
    match ← getTopUpByTradeNo orderNo with
    | none => pure fail
    | some topUp =>
      if topUp.status = .pending then do
        match ← attempt (settle topUp (cnyQuota cfg topUp)) with
        | .ok _ => pure success
        | .error _ => pure fail
      else pure success

def convertTradeState (state : String) : String :=
  if state = "S" then "PAID"
  else if state = "F" then "FAILED"
  else if state = "C" ∨ state = "D" then "CLOSED"
  else if state = "R" then "REFUNDED"
  else "PENDING"

/-- The response is the bank's answer to `OrderQuery`. -/
def queryZSPayStatus (tradeNo : String) (resp : Except String String) : Action schema Reply :=
  if tradeNo = "" then pure (.message false "订单号不能为空")
  else do
    let known ← getTopUpByTradeNo tradeNo
    if known.map TopUp.status = some .success then pure (.message true "PAID")
    else if gateways.zsEnabled = false then pure (.message false "招商银行聚合支付未启用")
    else match resp with
      | .error e => pure (.message false e)
      | .ok tradeState =>
        if tradeState = "S" then withLock tradeNo do
          match ← getTopUpByTradeNo tradeNo with
          | some topUp =>
            if topUp.status = .pending then do
              let _ ← attempt (settle topUp (cnyQuota cfg topUp))
              pure (.message true (convertTradeState tradeState))
            else pure (.message true (convertTradeState tradeState))
          | none => pure (.message true (convertTradeState tradeState))
        else pure (.message true (convertTradeState tradeState))

def helipayNotify (form : Option Form) : Action schema Reply :=
  match helipayOrder form with
  | .error reply => pure reply
  | .ok (orderId, tradeState) => withLock orderId do
    match ← getTopUpByTradeNo orderId with
    | none => pure fail
    | some topUp =>
      if topUp.status = .pending then
        if tradeState = "SUCCESS" then do
          match ← attempt (settle topUp (cnyQuota cfg topUp)) with
          | .ok _ => pure success
          | .error _ => pure fail
        else if tradeState = "FAILED" then do
          let _ ← attempt (run .global (.saveTopUp { topUp with status := .failed }))
          pure success
        else pure success
      else pure success

def sessionCompleted (event : StripeEvent) : Action schema Unit :=
  if event.status ≠ "complete" then pure ()
  else do
    let _ ← attempt (recharge cfg now event.clientReferenceId event.customer)
    pure ()

def sessionExpired (event : StripeEvent) : Action schema Unit :=
  if event.status ≠ "expired" then pure ()
  else if event.clientReferenceId = "" then pure ()
  else withLock event.clientReferenceId do
    match ← attempt (expireSubscriptionOrder now event.clientReferenceId) with
    | .ok _ => pure ()
    | .error e =>
      if e = subscriptionOrderNotFound then do
        match ← getTopUpByTradeNo event.clientReferenceId with
        | none => pure ()
        | some topUp => do
          let _ ← attempt (run .global (.saveTopUp { topUp with status := .expired }))
          pure ()
      else pure ()

def stripeWebhook (payload sig : String) : Action schema Reply :=
  match gateways.stripeEvent payload sig with
  | none => pure (.status 400)
  | some event => do
    match event.type with
    | .completed => sessionCompleted cfg now event
    | .expired => sessionExpired now event
    | .other _ => pure ()
    pure (.status 200)

def creemWebhook (payload sig : String) : Action schema Reply :=
  match creemOrder gateways payload sig with
  | .error reply => pure reply
  | .ok (referenceId, customerEmail) => do
    match ← getTopUpByTradeNo referenceId with
    | none => pure (.status 400)
    | some topUp =>
      if topUp.status ≠ .pending then pure (.status 200)
      else do
        match ← attempt (rechargeCreem now referenceId customerEmail) with
        | .ok _ => pure (.status 200)
        | .error _ => pure (.status 500)

def handleWaffoPayment (payment : WaffoPayment) : Action schema Reply :=
  if payment.orderStatus ≠ "PAY_SUCCESS" then
    if payment.merchantOrderId = "" then pure (.message true "")
    else do
      match ← getTopUpByTradeNo payment.merchantOrderId with
      | some topUp =>
        if topUp.status = .pending then do
          let _ ← attempt (run .global (.saveTopUp { topUp with status := .failed }))
          pure (.message true "")
        else pure (.message true "")
      | none => pure (.message true "")
  else withLock payment.merchantOrderId do
    match ← attempt (rechargeWaffo cfg now payment.merchantOrderId) with
    | .ok _ => pure (.message true "")
    | .error e => pure (.message false e)

def waffoWebhook (payload sig : String) : Action schema Reply :=
  match waffoPayment gateways payload sig with
  | .error reply => pure reply
  | .ok payment => handleWaffoPayment cfg now payment

def adminCompleteTopUp (tradeNo : String) : Action schema Reply :=
  if tradeNo = "" then pure (.message false "参数错误")
  else withLock tradeNo do
    match ← attempt (manualCompleteTopUp cfg now tradeNo) with
    | .ok _ => pure (.message true "")
    | .error e => pure (.message false e)

/-- `CancelZSPayOrder` and `CancelHelipayOrder`, which puts a text before the error. -/
def cancelOrder (errorText tradeNo : String) (userId : Int) : Action schema Reply :=
  if tradeNo = "" then pure (.message false "订单号不能为空")
  else do
    match ← attempt (cancelTopUpByTradeNo tradeNo userId) with
    | .ok _ => pure (.message true "订单已取消")
    | .error e => pure (.message false (errorText ++ e))

def cancelZSPayOrder : String → Int → Action schema Reply := cancelOrder ""

def cancelHelipayOrder : String → Int → Action schema Reply := cancelOrder "取消订单失败: "

def expirePendingTopUps (cutoff : Int) : Action schema Reply := do
  match ← attempt (run .global (.expirePending cutoff)) with
  | .ok _ => pure (.message true "")
  | .error e => pure (.message false e)

inductive Request where
  | epay (params : Option Form)
  | zsPay (form : Option Form)
  | helipay (form : Option Form)
  | stripe (payload sig : String)
  | creem (payload sig : String)
  | waffo (payload sig : String)
  | queryZS (tradeNo : String) (resp : Except String String)
  | complete (tradeNo : String)
  | cancelZS (tradeNo : String) (userId : Int)
  | cancelHelipay (tradeNo : String) (userId : Int)
  | expire (cutoff : Int)

def Request.script : Request → Action schema Reply
  | .epay params => epayNotify gateways cfg params
  | .zsPay form => zsPayNotify gateways cfg form
  | .helipay form => helipayNotify cfg form
  | .stripe payload sig => stripeWebhook gateways cfg now payload sig
  | .creem payload sig => creemWebhook gateways now payload sig
  | .waffo payload sig => waffoWebhook gateways cfg now payload sig
  | .queryZS tradeNo resp => queryZSPayStatus gateways cfg tradeNo resp
  | .complete tradeNo => adminCompleteTopUp cfg now tradeNo
  | .cancelZS tradeNo userId => cancelZSPayOrder tradeNo userId
  | .cancelHelipay tradeNo userId => cancelHelipayOrder tradeNo userId
  | .expire cutoff => expirePendingTopUps cutoff

abbrev Server := Machine (@Answer schema) (Shared schema) (Except String Reply)

def serve (store : Store) (faults : List (Option String)) (requests : List (Int × Request)) : Server :=
  launch store faults (requests.map fun req => req.2.script gateways cfg req.1)

def openGateways : Gateways where
  epayVerify := some fun form => some ⟨true, "TRADE_SUCCESS", formValue form "out_trade_no"⟩
  zsEnabled := true
  zsDecode := some
  stripeEvent := fun payload _ => some ⟨.completed, "customer", payload, "complete"⟩
  creemSecret := "secret"
  creemTestMode := false
  generateCreemSignature := fun payload secret => payload ++ secret
  creemDecode := fun payload => some ⟨"checkout.completed", "paid", "onetime", payload, ""⟩
  waffoVerify := none
  waffoDecode := fun _ => .ok none

def usualSettings : Settings := ⟨500000, 73 / 10, intPart⟩

def pendingOrder : TopUp := ⟨"order", 7, 10, 10, "stripe", 1000, 0, .pending⟩

def orderStore : Store := { emptyStore with
  users := emptyStore.users.save ⟨7, 0, "", ""⟩
  topUps := emptyStore.topUps.save pendingOrder }

end Tokengine.Payments
