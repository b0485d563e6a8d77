import Tokengine.Lib.Completion
import Tokengine.Payments.Orders

/-! The orders that each gateway creates, what its notification credits for them, and what an administrator credits who
completes them by hand. The gateways read the amount and the money of an order in different ways; the completion by
hand knows two of them. -/

namespace Tokengine.Payments.ManualCompletion
open Transactions Interleaving Model.Database Option

structure CreemProduct where
  productId : String
  price : Rat
  quota : Int
  deriving DecidableEq

structure Pricing extends Settings where
  /-- The display type is TOKENS: users ask for tokens instead of units. -/
  displayTokens : Bool
  price : Rat
  minTopUp : Int
  getTopupGroupRatio : String → Rat
  /-- The discounts by requested amount. -/
  amountDiscount : Rat → Option Rat
  payMethods : List String
  stripeMinTopUp : Int
  creemProducts : List CreemProduct
  waffoEnabled : Bool
  waffoMinTopUp : Int
  waffoUnitPrice : Rat

inductive Gateway where
  | epay
  | stripe
  | creem
  | waffo
  | zsPay
  | helipay

structure Buyer where
  id : Int
  group : String
  now : Int
  random : String

section Creation

variable (pricing : Pricing) (buyer : Buyer)

def discountFor (amount : Rat) : Rat := match pricing.amountDiscount amount with
  | some discount => if 0 < discount then discount else 1
  | none => 1

def groupRatio : Rat := if pricing.getTopupGroupRatio buyer.group = 0 then 1 else pricing.getTopupGroupRatio buyer.group

def getPayMoney (amount : Int) : Rat :=
  (if pricing.displayTokens then decimalDiv amount pricing.quotaPerUnit else amount) * pricing.price *
    groupRatio pricing buyer * discountFor pricing amount

def getMinTopup : Int := if pricing.displayTokens then intPart (pricing.minTopUp * pricing.quotaPerUnit) else pricing.minTopUp

def tooLow : String := "充值金额过低"

def pendingTopUp (tradeNo paymentMethod : String) (amount : Int) (money : Rat) : TopUp :=
  ⟨tradeNo, buyer.id, amount, money, paymentMethod, buyer.now, 0, .pending⟩

def requestEpay (amount : Int) (paymentMethod : String) (purchase : Except String Unit) : Except String TopUp :=
  let minimum := getMinTopup pricing
  if amount < minimum then .error s!"充值数量不能小于 {minimum}"
  else if getPayMoney pricing buyer amount < 1 / 100 then .error tooLow
  else if paymentMethod ∉ pricing.payMethods then .error "支付方式不存在"
  else match purchase with
    | .error e => .error e
    | .ok _ => .ok (pendingTopUp buyer ("USR" ++ buyer.random) paymentMethod
        (if pricing.displayTokens then intPart (decimalDiv amount pricing.quotaPerUnit) else amount)
        (getPayMoney pricing buyer amount))

def getStripeMinTopup : Int :=
  if pricing.displayTokens then pricing.stripeMinTopUp * intPart pricing.quotaPerUnit else pricing.stripeMinTopUp

def getChargedAmount (count : Rat) : Rat := count * groupRatio pricing buyer

def requestStripePay (amount : Int) (paymentMethod : String) (link : Except String Unit) : Except String TopUp :=
  let minimum := getStripeMinTopup pricing
  if paymentMethod ≠ "stripe" then .error "不支持的支付渠道"
  else if amount < minimum then .error s!"充值数量不能小于 {minimum}"
  else if 10000 < amount then .error "充值数量不能大于 10000"
  else match link with
    | .error e => .error e
    | .ok _ => .ok (pendingTopUp buyer ("ref_" ++ buyer.random) "stripe" amount (getChargedAmount pricing buyer amount))

def requestCreemPay (productId paymentMethod : String) : Except String TopUp :=
  if paymentMethod ≠ "creem" then .error "不支持的支付渠道"
  else if productId = "" then .error "请选择产品"
  else match pricing.creemProducts.find? fun product => product.productId == productId with
    | none => .error "产品不存在"
    | some product => .ok (pendingTopUp buyer ("ref_" ++ buyer.random) "" product.quota product.price)

def getWaffoPayMoney (amount : Int) : Rat :=
  (if pricing.displayTokens then amount / pricing.quotaPerUnit else amount) * pricing.waffoUnitPrice *
    groupRatio pricing buyer * discountFor pricing amount

def requestWaffoPay (amount : Int) : Except String TopUp :=
  let minimum := pricing.waffoMinTopUp
  if pricing.waffoEnabled = false then .error "Waffo 支付未启用"
  else if amount < minimum then .error s!"充值数量不能小于 {minimum}"
  else if getWaffoPayMoney pricing buyer amount < 1 / 100 then .error tooLow
  else .ok (pendingTopUp buyer ("WAFFO-" ++ buyer.random) "waffo"
    (if pricing.displayTokens then max 1 (intPart (amount / pricing.quotaPerUnit)) else amount)
    (getWaffoPayMoney pricing buyer amount))

def yuanAmount (amount : Rat) : Int :=
  intPart (if pricing.displayTokens then decimalDiv amount pricing.quotaPerUnit else amount)

def requestZSPay (amount : Rat) (paymentMethod : String) (code : Except String Unit) : Except String TopUp :=
  if amount * discountFor pricing amount < 1 / 100 then .error tooLow
  else match code with
    | .error e => .error e
    | .ok _ => .ok (pendingTopUp buyer ("USR" ++ buyer.random) paymentMethod (yuanAmount pricing amount)
        (amount * discountFor pricing amount))

def requestHelipay (amount : Rat) (order : Except String Unit) : Except String TopUp :=
  if amount * discountFor pricing amount < 1 / 100 then .error tooLow
  else match order with
    | .error e => .error e
    | .ok _ => .ok (pendingTopUp buyer ("USR" ++ buyer.random) "helipay" (yuanAmount pricing amount)
        (amount * discountFor pricing amount))

inductive Created : Gateway → TopUp → Prop
  | epay {amount paymentMethod purchase topUp} (created : requestEpay pricing buyer amount paymentMethod purchase = .ok topUp) :
      Created .epay topUp
  | stripe {amount paymentMethod link topUp} (created : requestStripePay pricing buyer amount paymentMethod link = .ok topUp) :
      Created .stripe topUp
  | creem {productId paymentMethod topUp} (created : requestCreemPay pricing buyer productId paymentMethod = .ok topUp) :
      Created .creem topUp
  | waffo {amount topUp} (created : requestWaffoPay pricing buyer amount = .ok topUp) : Created .waffo topUp
  | zsPay {amount paymentMethod code topUp} (created : requestZSPay pricing buyer amount paymentMethod code = .ok topUp) :
      Created .zsPay topUp
  | helipay {amount order topUp} (created : requestHelipay pricing buyer amount order = .ok topUp) : Created .helipay topUp

end Creation

inductive Notifies (gateways : Gateways) : Gateway → Request → String → Prop
  | epay {params tradeNo} (found : epayOrder gateways params = .ok tradeNo) : Notifies gateways .epay (.epay params) tradeNo
  | stripe {payload sig event} (found : gateways.stripeEvent payload sig = some event)
      (type : event.type = .completed) (complete : event.status = "complete") :
      Notifies gateways .stripe (.stripe payload sig) event.clientReferenceId
  | creem {payload sig tradeNo email} (found : creemOrder gateways payload sig = .ok (tradeNo, email)) :
      Notifies gateways .creem (.creem payload sig) tradeNo
  | waffo {payload sig payment} (found : waffoPayment gateways payload sig = .ok payment)
      (success : payment.orderStatus = "PAY_SUCCESS") :
      Notifies gateways .waffo (.waffo payload sig) payment.merchantOrderId
  | zsPay {form tradeNo} (found : zsOrder gateways form = .ok tradeNo) : Notifies gateways .zsPay (.zsPay form) tradeNo
  | helipay {form tradeNo} (found : helipayOrder form = .ok (tradeNo, "SUCCESS")) :
      Notifies gateways .helipay (.helipay form) tradeNo

def quotaAfter (script : Action schema Reply) (db : Store) (userId : Int) : Option Int :=
  (Script.alone exec 0 script (quiet db)).map fun outcome => outcome.2.db.users.column User.quota userId

def SameQuota (first second : Rat) : Prop := ∀ quota : Int, 0 < quota → ((quota : Rat) ≤ first ↔ (quota : Rat) ≤ second)

def Agrees (cfg : Settings) (topUp : TopUp) : Gateway → Prop
  | .epay => topUp.paymentMethod = "stripe" →
      SameQuota (topUp.amount * cfg.quotaPerUnit) (topUp.money * cfg.quotaPerUnit)
  | .stripe => 0 ≤ cfg.toColumn (topUp.money * cfg.quotaPerUnit) ∧
      SameQuota (cfg.toColumn (topUp.money * cfg.quotaPerUnit)) (topUp.money * cfg.quotaPerUnit)
  | .creem => 0 ≤ topUp.amount ∧ SameQuota topUp.amount (topUp.amount * cfg.quotaPerUnit)
  | .waffo => True
  | .zsPay => SameQuota (decimalDiv topUp.money (exchangeRate cfg) * cfg.quotaPerUnit)
      ((if topUp.paymentMethod = "stripe" then topUp.money else topUp.amount) * cfg.quotaPerUnit)
  | .helipay => SameQuota (decimalDiv topUp.money (exchangeRate cfg) * cfg.quotaPerUnit)
      (topUp.amount * cfg.quotaPerUnit)

/-! Whole quotas. -/

variable {val : Rat}

theorem intPart_eq_floor (nonneg : 0 ≤ val) : intPart val = ⌊val⌋ := by
  rw [intPart, Rat.floor_def', Int.tdiv_eq_ediv_of_nonneg (Rat.num_nonneg.mpr nonneg)]

theorem le_intPart {quota : Int} (pos : 0 < quota) : quota ≤ max 0 (intPart val) ↔ (quota : Rat) ≤ val := by
  have max_iff : quota ≤ max 0 (intPart val) ↔ quota ≤ intPart val := by omega
  rw [max_iff, ← Int.le_floor]
  rcases lt_or_ge val 0 with negative | nonneg
  · have below : 0 ≤ (-val.num).tdiv val.den :=
      Int.tdiv_nonneg (neg_nonneg.mpr (Rat.num_neg.mpr negative).le) (Int.natCast_nonneg _)
    rw [Int.neg_tdiv] at below
    have nonpos : intPart val ≤ 0 := Int.neg_nonneg.mp below
    have floor : ⌊val⌋ < 0 := Int.floor_lt_zero.mpr negative
    omega
  · rw [intPart_eq_floor nonneg]

theorem eq_of_same_quotas {first second : Int} (nonneg : 0 ≤ first) (nonneg' : 0 ≤ second)
    (same : ∀ quota : Int, 0 < quota → (quota ≤ first ↔ quota ≤ second)) : first = second := by
  have up : first ≤ second := by
    rcases eq_or_lt_of_le nonneg with zero | pos
    · rw [← zero]
      exact nonneg'
    · exact (same first pos).mp le_rfl
  have down : second ≤ first := by
    rcases eq_or_lt_of_le nonneg' with zero | pos
    · rw [← zero]
      exact nonneg
    · exact (same second pos).mpr le_rfl
  exact le_antisymm up down

theorem sameQuota_iff (first second : Rat) : max 0 (intPart first) = max 0 (intPart second) ↔ SameQuota first second := by
  constructor
  · intro same quota pos
    rw [← le_intPart pos, same, le_intPart pos]
  intro same
  refine eq_of_same_quotas (le_max_left _ _) (le_max_left _ _) fun quota pos => ?_
  rw [le_intPart pos, le_intPart pos]
  exact same quota pos

theorem sameQuota_int_iff (first : Int) (second : Rat) :
    first = max 0 (intPart second) ↔ 0 ≤ first ∧ SameQuota first second := by
  constructor
  · intro same
    refine ⟨same ▸ le_max_left _ _, fun quota pos => ?_⟩
    rw [Int.cast_le, ← le_intPart pos, ← same]
  · rintro ⟨nonneg, same⟩
    refine eq_of_same_quotas nonneg (le_max_left _ _) fun quota pos => ?_
    rw [le_intPart pos, ← same quota pos, Int.cast_le]

/-! What each request credits. -/

variable {userId amount : Int} {gateway : Gateway}

section Credits

variable {free : String → Prop} {db : Store} {topUp : TopUp} {α β : Type} {body : Action schema β} {acct : Local schema}

def Adds (free : String → Prop) (db : Store) (body : Action schema α) (userId amount : Int) : Prop :=
  ∃ after res, Completes free ⟨db, []⟩ body ⟨after, []⟩ res ∧
    after.users.column User.quota userId = db.users.column User.quota userId + amount

theorem adds_attempt {rest : Except String β → Action schema α}
    (adds : Adds free db body userId amount) (ends : ∀ res, ∃ val, rest res = pure val) :
    Adds free db (attempt body >>= rest) userId amount := by
  obtain ⟨after, res, completes, grown⟩ := adds
  obtain ⟨val, same⟩ := ends res
  exact ⟨after, .ok val, completes_attempt completes (by rw [same]; exact completes_pure val), grown⟩

theorem adds_withLock {name : String} {body : Action schema α} (unheld : free name)
    (adds : Adds (fun other => free other ∧ other ≠ name) db body userId amount) :
    Adds free db (withLock name body) userId amount := by
  obtain ⟨after, res, completes, grown⟩ := adds
  exact ⟨after, res, completes_withLock unheld completes, grown⟩

theorem adds_bind_ok {rest : β → Action schema α} {val : β}
    (first : Completes free ⟨db, []⟩ body ⟨db, []⟩ (.ok val)) (adds : Adds free db (rest val) userId amount) :
    Adds free db (body >>= rest) userId amount := by
  obtain ⟨after, res, completes, grown⟩ := adds
  exact ⟨after, res, completes_bind first completes, grown⟩

theorem adds_orRetry {body : Action schema Unit} (adds : Adds free db body userId amount) :
    Adds free db (orRetry body) userId amount := by
  obtain ⟨after, res, completes, grown⟩ := adds
  cases res with
  | ok => exact ⟨after, _, completes_attempt completes (completes_pure _), grown⟩
  | error => exact ⟨after, _, completes_attempt completes (completes_throw _), grown⟩

theorem adds_rollback {body : Action schema α} {e : String}
    (inside : Completes free ⟨db, []⟩ body ⟨db, []⟩ (.error e)) : Adds free db (transaction body) userId 0 :=
  ⟨db, .error e, completes_rollback inside, (Int.add_zero _).symm⟩

theorem Adds.quotaAfter {script : Action schema Reply} (adds : Adds free db script userId amount) :
    quotaAfter script db userId = some (db.users.column User.quota userId + amount) := by
  obtain ⟨after, res, completes, grown⟩ := adds
  obtain ⟨last, ran, same⟩ := completes_alone completes 0
  rw [ManualCompletion.quotaAfter, ran, map_some, same, grown]

theorem completes_find (handle : Handle) (query : Query) :
    Completes free acct (find handle query) acct (.ok (answer query (acct.view handle))) :=
  @completes_query schema free acct handle query

theorem completes_run (handle : Handle) (write : Write) :
    Completes free acct (run handle write) (acct.track (.write handle write)) (.ok ()) :=
  @completes_execute schema free acct handle write

theorem completes_getTopUpByTradeNo (tradeNo : String) :
    Completes free ⟨db, []⟩ (getTopUpByTradeNo tradeNo) ⟨db, []⟩ (.ok (db.topUps.lookup tradeNo)) :=
  completes_attempt (completes_find .global (.topUp tradeNo)) (completes_pure _)

theorem completes_lockedTopUp (stored : db.topUps.lookup topUp.tradeNo = some topUp) :
    Completes free ⟨db, []⟩ (lockedTopUp topUp.tradeNo) ⟨db, []⟩ (.ok topUp) := by
  have read : Completes free ⟨db, []⟩ (find .own (.topUp topUp.tradeNo)) ⟨db, []⟩ (.ok (some topUp)) := by
    rw [← stored]
    exact completes_find .own (.topUp topUp.tradeNo)
  exact completes_attempt read (completes_pure topUp)

theorem quota_credited (credit : Credit) (present : (db.users.lookup credit.userId).isSome = true) (row : TopUp) :
    (apply (.credit credit) (apply (.saveTopUp row) db)).users.column User.quota credit.userId =
      db.users.column User.quota credit.userId + credit.amount := by
  change (db.users.update credit.userId credit.change).column User.quota credit.userId = _
  rw [Table.column_update credit.change (fun _ => rfl) (fun _ => rfl) present, if_pos rfl]

theorem settle_adds (present : (db.users.lookup topUp.userId).isSome = true) (quota : Int) :
    Adds free db (settle topUp quota) topUp.userId (max 0 quota) := by
  have saved : Completes free ⟨db, []⟩ (run .global (.saveTopUp { topUp with status := .success }))
      ⟨apply (.saveTopUp { topUp with status := .success }) db, []⟩ (.ok ()) := completes_run .global _
  by_cases negative : quota < 0
  · have refused : increaseUserQuota topUp.tradeNo topUp.userId quota = throw "quota 不能为负数！" := if_pos negative
    refine ⟨apply (.saveTopUp { topUp with status := .success }) db, .error "quota 不能为负数！", completes_bind saved ?_, ?_⟩
    · rw [refused]
      exact completes_throw _
    · rw [max_eq_left negative.le, Int.add_zero]
      rfl
  · have accepted : increaseUserQuota topUp.tradeNo topUp.userId quota =
        run .global (.credit ⟨topUp.tradeNo, topUp.userId, quota, none, none⟩) := if_neg negative
    refine ⟨apply (.credit ⟨topUp.tradeNo, topUp.userId, quota, none, none⟩)
      (apply (.saveTopUp { topUp with status := .success }) db), .ok (), completes_bind saved ?_, ?_⟩
    · rw [accepted]
      exact completes_run .global _
    · rw [max_eq_right (not_lt.mp negative)]
      exact quota_credited ⟨topUp.tradeNo, topUp.userId, quota, none, none⟩ present _

def marking (db : Store) (now : Int) (topUp : TopUp) : Local schema :=
  ⟨db, [.saveTopUp { topUp with completeTime := now, status := .success }]⟩

theorem completes_completeTx {now : Int} {stripeCustomer email : Option String} :
    Completes free ⟨db, []⟩ (completeTx now topUp amount stripeCustomer email)
      ⟨db, [.saveTopUp { topUp with completeTime := now, status := .success },
        .credit ⟨topUp.tradeNo, topUp.userId, amount, stripeCustomer, email⟩]⟩ (.ok ()) :=
  completes_bind (completes_run .own _) (completes_run .own _)

variable (stored : db.topUps.lookup topUp.tradeNo = some topUp) (pending : topUp.status = .pending)
  (present : (db.users.lookup topUp.userId).isSome = true)

include stored present

theorem locked_adds (now : Int) (credit : Credit) (mine : credit.userId = topUp.userId) {rest : TopUp → Action schema Unit}
    (inside : Completes free ⟨db, []⟩ (rest topUp)
      ⟨db, [.saveTopUp { topUp with completeTime := now, status := .success }, .credit credit]⟩ (.ok ())) :
    Adds free db (transaction (lockedTopUp topUp.tradeNo >>= rest)) topUp.userId credit.amount := by
  rw [← mine] at present ⊢
  exact ⟨_, .ok (), completes_transaction (completes_bind (completes_lockedTopUp stored) inside),
    quota_credited credit present _⟩

include pending

theorem completeOnce_adds (now : Int) (wrongStatus : String) (quota : TopUp → Int) :
    Adds free db (transaction (completeOnce now topUp.tradeNo wrongStatus quota)) topUp.userId (max 0 (quota topUp)) := by
  have unpaid : topUp.status ≠ .success := by simp [pending]
  by_cases worthless : quota topUp ≤ 0
  · rw [max_eq_left worthless]
    refine adds_rollback (e := "无效的充值额度") (completes_bind (completes_lockedTopUp stored) ?_)
    rw [if_neg unpaid, if_neg (not_not.mpr pending), if_pos worthless]
    exact completes_throw _
  · rw [max_eq_right (not_le.mp worthless).le]
    refine locked_adds stored present now ⟨topUp.tradeNo, topUp.userId, quota topUp, none, none⟩ rfl ?_
    rw [if_neg unpaid, if_neg (not_not.mpr pending), if_neg worthless]
    exact completes_completeTx

variable (cfg : Settings) {gateways : Gateways} (now : Int)

theorem recharge_adds (customerId : String) (named : topUp.tradeNo ≠ "") :
    Adds free db (recharge cfg now topUp.tradeNo customerId) topUp.userId (cfg.toColumn (moneyQuota cfg topUp)) := by
  rw [recharge, if_neg named]
  refine adds_orRetry (locked_adds stored present now
    ⟨topUp.tradeNo, topUp.userId, cfg.toColumn (moneyQuota cfg topUp), some customerId, none⟩ rfl ?_)
  rw [if_neg (not_not.mpr pending)]
  exact completes_completeTx

theorem rechargeCreem_adds (customerEmail : String) (named : topUp.tradeNo ≠ "") :
    Adds free db (rechargeCreem now topUp.tradeNo customerEmail) topUp.userId topUp.amount := by
  obtain ⟨user, found⟩ := isSome_iff_exists.mp present
  have chosen : ∃ email, Completes free (marking db now topUp) (emailToSet topUp.userId customerEmail)
      (marking db now topUp) (.ok email) := by
    by_cases anonymous : customerEmail = ""
    · refine ⟨none, ?_⟩
      rw [emailToSet, if_pos anonymous]
      exact completes_pure none
    · have read : Completes free (marking db now topUp) (find .own (.user topUp.userId)) (marking db now topUp)
          (.ok (some user)) := by
        rw [← found]
        exact completes_find .own (.user topUp.userId)
      refine ⟨if user.email = "" then some customerEmail else none, ?_⟩
      rw [emailToSet, if_neg anonymous]
      exact completes_bind read (completes_pure _)
  obtain ⟨email, chosen⟩ := chosen
  have marked : Completes free ⟨db, []⟩ (run .own (.saveTopUp { topUp with completeTime := now, status := .success }))
      (marking db now topUp) (.ok ()) := completes_run .own _
  rw [rechargeCreem, if_neg named]
  refine adds_orRetry (locked_adds stored present now ⟨topUp.tradeNo, topUp.userId, topUp.amount, none, email⟩ rfl ?_)
  rw [if_neg (not_not.mpr pending)]
  exact completes_bind marked (completes_bind chosen (completes_run .own _))

theorem rechargeWaffo_adds (named : topUp.tradeNo ≠ "") :
    Adds free db (rechargeWaffo cfg now topUp.tradeNo) topUp.userId (max 0 (unitQuota cfg topUp)) := by
  rw [rechargeWaffo, if_neg named]
  exact adds_orRetry (completeOnce_adds stored pending present now _ _)

theorem adminCompleteTopUp_adds (named : topUp.tradeNo ≠ "") :
    Adds (fun _ => True) db (adminCompleteTopUp cfg now topUp.tradeNo) topUp.userId (max 0 (manualQuota cfg topUp)) := by
  have completes : Adds (fun other => True ∧ other ≠ topUp.tradeNo) db (manualCompleteTopUp cfg now topUp.tradeNo)
      topUp.userId (max 0 (manualQuota cfg topUp)) := by
    rw [manualCompleteTopUp, if_neg named]
    exact completeOnce_adds stored pending present now _ _
  rw [adminCompleteTopUp, if_neg named]
  refine adds_withLock trivial (adds_attempt completes fun res => ?_)
  cases res <;> exact ⟨_, rfl⟩

def callbackQuota (cfg : Settings) (topUp : TopUp) : Gateway → Int
  | .epay => max 0 (unitQuota cfg topUp)
  | .stripe => cfg.toColumn (moneyQuota cfg topUp)
  | .creem => topUp.amount
  | .waffo => max 0 (unitQuota cfg topUp)
  | .zsPay => max 0 (cnyQuota cfg topUp)
  | .helipay => max 0 (cnyQuota cfg topUp)

omit pending present in
theorem found_adds {α : Type} {rest : Option TopUp → Action schema α}
    (adds : Adds free db (rest (some topUp)) topUp.userId amount) :
    Adds free db (getTopUpByTradeNo topUp.tradeNo >>= rest) topUp.userId amount := by
  have read : Completes free ⟨db, []⟩ (getTopUpByTradeNo topUp.tradeNo) ⟨db, []⟩ (.ok (some topUp)) := by
    rw [← stored]
    exact completes_getTopUpByTradeNo topUp.tradeNo
  exact adds_bind_ok read adds

theorem callback_adds {cfg : Settings} {now : Int} {req : Request}
    {tradeNo : String} (notifies : Notifies gateways gateway req tradeNo) (same : tradeNo = topUp.tradeNo)
    (named : topUp.tradeNo ≠ "") :
    Adds (fun _ => True) db (req.script gateways cfg now) topUp.userId (callbackQuota cfg topUp gateway) := by
  cases notifies with
  | epay found =>
    rw [same] at found
    simp only [Request.script, epayNotify, found]
    refine adds_withLock trivial (found_adds stored ?_)
    simp only [if_pos pending]
    exact adds_attempt (settle_adds present _) fun _ => ⟨_, rfl⟩
  | stripe found type complete =>
    simp only [Request.script, stripeWebhook, found, type, sessionCompleted, complete, ne_eq, not_true_eq_false, if_false]
    rw [same]
    obtain ⟨after, res, completes, grown⟩ := recharge_adds stored pending present cfg now _ named
    exact ⟨after, _, completes_bind (completes_attempt completes (completes_pure ())) (completes_pure _), grown⟩
  | creem found =>
    rw [same] at found
    simp only [Request.script, creemWebhook, found]
    refine found_adds stored ?_
    simp only [pending, ne_eq, not_true_eq_false, if_false]
    refine adds_attempt (rechargeCreem_adds stored pending present now _ named) fun res => ?_
    cases res <;> exact ⟨_, rfl⟩
  | waffo found success =>
    simp only [Request.script, waffoWebhook, found, handleWaffoPayment, success, ne_eq, not_true_eq_false, if_false]
    rw [same]
    refine adds_withLock trivial (adds_attempt (rechargeWaffo_adds stored pending present cfg now named) fun res => ?_)
    cases res <;> exact ⟨_, rfl⟩
  | zsPay found =>
    rw [same] at found
    simp only [Request.script, zsPayNotify, found]
    refine adds_withLock trivial (found_adds stored ?_)
    simp only [if_pos pending]
    refine adds_attempt (settle_adds present _) fun res => ?_
    cases res <;> exact ⟨_, rfl⟩
  | helipay found =>
    rw [same] at found
    simp only [Request.script, helipayNotify, found]
    refine adds_withLock trivial (found_adds stored ?_)
    simp only [if_pos pending, if_true]
    refine adds_attempt (settle_adds present _) fun res => ?_
    cases res <;> exact ⟨_, rfl⟩

end Credits

/-! The orders that come into being. -/

structure Fresh (gateway : Gateway) (topUp : TopUp) : Prop where
  named : topUp.tradeNo ≠ ""
  pending : topUp.status = .pending
  method : match gateway with
    | .stripe => topUp.paymentMethod = "stripe"
    | .creem => topUp.paymentMethod = ""
    | .waffo => topUp.paymentMethod = "waffo"
    | .helipay => topUp.paymentMethod = "helipay"
    | _ => True

theorem append_ne_empty {first : String} (nonempty : 0 < first.length) (second : String) : first ++ second ≠ "" := by
  intro same
  have length : (first ++ second).length = 0 := congrArg String.length same
  rw [String.length_append] at length
  omega

variable {topUp : TopUp} {pricing : Pricing}

theorem created_fresh {buyer : Buyer} (created : Created pricing buyer gateway topUp) : Fresh gateway topUp := by
  cases created with
  | epay created | stripe created =>
    iterate 3 obtain ⟨_, created⟩ := passed created
    split at created
    · cases created
    cases created
    exact ⟨append_ne_empty (by decide) _, rfl, by trivial⟩
  | creem created =>
    iterate 2 obtain ⟨_, created⟩ := passed created
    split at created
    · cases created
    cases created
    exact ⟨append_ne_empty (by decide) _, rfl, rfl⟩
  | zsPay created | helipay created =>
    obtain ⟨_, created⟩ := passed created
    split at created
    · cases created
    cases created
    exact ⟨append_ne_empty (by decide) _, rfl, by trivial⟩
  | waffo created =>
    iterate 3 obtain ⟨_, created⟩ := passed created
    cases created
    exact ⟨append_ne_empty (by decide) _, rfl, rfl⟩

variable {cfg : Settings}

theorem manualQuota_of_ne (other : topUp.paymentMethod ≠ "stripe") :
    manualQuota cfg topUp = intPart (topUp.amount * cfg.quotaPerUnit) := if_neg other

theorem manualQuota_of_eq (stripe : topUp.paymentMethod = "stripe") :
    manualQuota cfg topUp = intPart (topUp.money * cfg.quotaPerUnit) := if_pos stripe

theorem quotas_agree_iff (fresh : Fresh gateway topUp) :
    callbackQuota cfg topUp gateway = max 0 (manualQuota cfg topUp) ↔ Agrees cfg topUp gateway := by
  cases gateway with
  | epay =>
    by_cases stripe : topUp.paymentMethod = "stripe"
    · rw [manualQuota_of_eq stripe]
      exact (sameQuota_iff _ _).trans ⟨fun same _ => same, fun same => same stripe⟩
    · rw [manualQuota_of_ne stripe]
      exact ⟨fun _ same => absurd same stripe, fun _ => rfl⟩
  | stripe =>
    rw [manualQuota_of_eq fresh.method]
    exact sameQuota_int_iff _ _
  | creem =>
    rw [manualQuota_of_ne (by rw [fresh.method]; decide)]
    exact sameQuota_int_iff _ _
  | waffo =>
    rw [manualQuota_of_ne (by rw [fresh.method]; decide)]
    exact ⟨fun _ => trivial, fun _ => rfl⟩
  | zsPay =>
    by_cases stripe : topUp.paymentMethod = "stripe"
    · rw [manualQuota_of_eq stripe, Agrees, if_pos stripe]
      exact sameQuota_iff _ _
    · rw [manualQuota_of_ne stripe, Agrees, if_neg stripe]
      exact sameQuota_iff _ _
  | helipay =>
    rw [manualQuota_of_ne (by rw [fresh.method]; decide)]
    exact sameQuota_iff _ _

theorem manual_completion_agrees {buyer : Buyer} {gateway : Gateway} {topUp : TopUp}
    (created : Created pricing buyer gateway topUp) {req : Request}
    (notifies : Notifies gateways gateway req topUp.tradeNo) {db : Store}
    (stored : db.topUps.lookup topUp.tradeNo = some topUp) (present : (db.users.lookup topUp.userId).isSome = true) (now : Int) :
    ∃ manual callback, quotaAfter (adminCompleteTopUp pricing.toSettings now topUp.tradeNo) db topUp.userId = some manual ∧
      quotaAfter (req.script gateways pricing.toSettings now) db topUp.userId = some callback ∧
      (callback = manual ↔ Agrees pricing.toSettings topUp gateway) := by
  have fresh := created_fresh created
  refine ⟨_, _, (adminCompleteTopUp_adds stored fresh.pending present pricing.toSettings now fresh.named).quotaAfter,
    (callback_adds stored fresh.pending present notifies rfl fresh.named).quotaAfter, ?_⟩
  rw [← quotas_agree_iff fresh]
  exact Int.add_right_inj _

def usualPricing : Pricing where
  toSettings := usualSettings
  displayTokens := false
  price := 73 / 10
  minTopUp := 1
  getTopupGroupRatio := fun _ => 1
  amountDiscount := fun _ => none
  payMethods := ["alipay", "wxpay"]
  stripeMinTopUp := 1
  creemProducts := [⟨"starter", 5, 500000⟩]
  waffoEnabled := true
  waffoMinTopUp := 1
  waffoUnitPrice := 1

def buyer : Buyer := ⟨7, "default", 1000, "1"⟩

def storeWith (topUp : TopUp) : Store := { emptyStore with
  users := emptyStore.users.save ⟨7, 0, "", ""⟩
  topUps := emptyStore.topUps.save topUp }

theorem epay_order_agrees : ∃ manual callback, quotaAfter (adminCompleteTopUp usualSettings 1100 "USR1")
      (storeWith ⟨"USR1", 7, 10, 73, "alipay", 1000, 0, .pending⟩) 7 = some manual ∧
    quotaAfter (epayNotify openGateways usualSettings (some [("out_trade_no", "USR1")]))
      (storeWith ⟨"USR1", 7, 10, 73, "alipay", 1000, 0, .pending⟩) 7 = some callback ∧
    (callback = manual ↔ Agrees usualSettings ⟨"USR1", 7, 10, 73, "alipay", 1000, 0, .pending⟩ .epay) := by
  have created : requestEpay usualPricing buyer 10 "alipay" (.ok ()) =
      .ok ⟨"USR1", 7, 10, 73, "alipay", 1000, 0, .pending⟩ := by decide +kernel
  have found : epayOrder openGateways (some [("out_trade_no", "USR1")]) = .ok "USR1" := by decide +kernel
  exact manual_completion_agrees (.epay created) (.epay found) (by decide +kernel) (by decide +kernel) 1100

/-- A payment of ten yuan is worth ten units by hand; and the quota of a Creem product is multiplied once more. -/
theorem manual_completion_differs : (∃ topUp, requestZSPay usualPricing buyer 10 "zs_pay" (.ok ()) = .ok topUp ∧
      quotaAfter (adminCompleteTopUp usualSettings 1100 topUp.tradeNo) (storeWith topUp) 7 = some 5000000 ∧
      quotaAfter (zsPayNotify openGateways usualSettings (some [("biz_content", topUp.tradeNo)])) (storeWith topUp) 7 =
        some 684931) ∧ ∃ topUp, requestCreemPay usualPricing buyer "starter" "creem" = .ok topUp ∧
      quotaAfter (adminCompleteTopUp usualSettings 1100 topUp.tradeNo) (storeWith topUp) 7 = some 250000000000 ∧
      quotaAfter (creemWebhook openGateways 1100 topUp.tradeNo (topUp.tradeNo ++ "secret")) (storeWith topUp) 7 =
        some 500000 :=
  ⟨⟨⟨"USR1", 7, 10, 10, "zs_pay", 1000, 0, .pending⟩, by decide +kernel, by decide +kernel, by decide +kernel⟩,
    ⟨"ref_1", 7, 500000, 5, "", 1000, 0, .pending⟩, by decide +kernel, by decide +kernel, by decide +kernel⟩

/-! ### Orders of tokens -/

theorem decimalDiv_le {divisor : Rat} {units : Int} (nonneg : 0 ≤ val / divisor) (below : val / divisor ≤ units) :
    decimalDiv val divisor ≤ units := by
  have rounded : roundAway (val / divisor * 10 ^ 16) < units * 10 ^ 16 + 1 := by
    rw [roundAway, if_pos (by linarith), Int.floor_lt]
    push_cast
    linarith
  have bound : (roundAway (val / divisor * 10 ^ 16) : Rat) ≤ units * 10 ^ 16 := by
    exact_mod_cast Int.lt_add_one_iff.mp rounded
  rw [decimalDiv]
  linarith

/-- The units of an order of tokens are worth the tokens iff the tokens come to a whole number of units. -/
theorem units_worth_iff {unit : Rat} (pos : 0 < unit) (amount : Int) :
    max 0 (intPart (intPart (decimalDiv amount unit) * unit)) = amount ↔
      0 ≤ amount ∧ ∃ units : Int, decimalDiv amount unit = units ∧ intPart (units * unit) = amount := by
  constructor
  · intro worth
    have nonneg : 0 ≤ amount := worth ▸ le_max_left _ _
    have quotient : 0 ≤ (amount : Rat) / unit := div_nonneg (by exact_mod_cast nonneg) pos.le
    have divided := decimalDiv_nonneg quotient
    have whole : 0 ≤ (intPart (decimalDiv amount unit) : Rat) := by exact_mod_cast intPart_nonneg divided
    have product := mul_nonneg whole pos.le
    rw [max_eq_right (intPart_nonneg product)] at worth
    have paid : (amount : Rat) ≤ intPart (decimalDiv amount unit) * unit := by
      nth_rewrite 1 [← worth]
      rw [intPart_eq_floor product]
      exact Int.floor_le _
    have upper := decimalDiv_le quotient ((div_le_iff₀ pos).mpr paid)
    have lower : (intPart (decimalDiv amount unit) : Rat) ≤ decimalDiv amount unit := by
      rw [intPart_eq_floor divided]
      exact Int.floor_le _
    exact ⟨nonneg, _, le_antisymm upper lower, worth⟩
  · rintro ⟨nonneg, units, divided, worth⟩
    have whole : intPart (units : Rat) = units := by simp [intPart]
    rw [divided, whole, worth, max_eq_right nonneg]

section Tokens

variable {buyer : Buyer} {paymentMethod : String} {purchase : Except String Unit} (tokens : pricing.displayTokens = true)
  (created : requestEpay pricing buyer amount paymentMethod purchase = .ok topUp)
include tokens created

theorem requestEpay_amount : topUp.amount = intPart (decimalDiv amount pricing.quotaPerUnit) := by
  iterate 3 obtain ⟨_, created⟩ := passed created
  split at created
  · cases created
  cases created
  exact if_pos tokens

/-- The callback credits the tokens that were asked and paid for iff they come to a whole number of units. -/
theorem tokens_credited_iff (pos : 0 < pricing.quotaPerUnit)
    {params : Option (List (String × String))} (found : epayOrder gateways params = .ok topUp.tradeNo) {db : Store}
    (stored : db.topUps.lookup topUp.tradeNo = some topUp) (present : (db.users.lookup topUp.userId).isSome = true) :
    quotaAfter (epayNotify gateways pricing.toSettings params) db topUp.userId =
        some (db.users.column User.quota topUp.userId + amount) ↔
      0 ≤ amount ∧ ∃ units : Int, decimalDiv amount pricing.quotaPerUnit = units ∧
        intPart (units * pricing.quotaPerUnit) = amount := by
  have fresh := created_fresh (.epay created)
  have credited := (@callback_adds _ _ _ stored fresh.pending present _ pricing.toSettings 0 _ _ (.epay found) rfl
    fresh.named).quotaAfter
  rw [← units_worth_iff pos, ← requestEpay_amount tokens created]
  change quotaAfter ((Request.epay params).script gateways pricing.toSettings 0) db topUp.userId = _ ↔ _
  rw [credited]
  simp [callbackQuota, unitQuota]

end Tokens

def tokenPricing : Pricing := { usualPricing with displayTokens := true }

theorem whole_units_credited : quotaAfter (epayNotify openGateways usualSettings (some [("out_trade_no", "USR1")]))
      (storeWith ⟨"USR1", 7, 2, 73 / 5, "alipay", 1000, 0, .pending⟩) 7 = some (0 + 1000000) := by
  have created : requestEpay tokenPricing buyer 1000000 "alipay" (.ok ()) =
      .ok ⟨"USR1", 7, 2, 73 / 5, "alipay", 1000, 0, .pending⟩ := by decide +kernel
  have found : epayOrder openGateways (some [("out_trade_no", "USR1")]) = .ok "USR1" := by decide +kernel
  exact (tokens_credited_iff rfl created (by decide +kernel) found (by decide +kernel) (by decide +kernel)).mpr
    ⟨by decide, 2, by decide +kernel, by decide +kernel⟩

/-- One and a half units are paid for, and one is credited. -/
theorem broken_unit_lost : requestEpay tokenPricing buyer 750000 "alipay" (.ok ()) =
      .ok ⟨"USR1", 7, 1, 219 / 20, "alipay", 1000, 0, .pending⟩ ∧
    quotaAfter (epayNotify openGateways usualSettings (some [("out_trade_no", "USR1")]))
      (storeWith ⟨"USR1", 7, 1, 219 / 20, "alipay", 1000, 0, .pending⟩) 7 = some 500000 :=
  ⟨by decide +kernel, by decide +kernel⟩

end Tokengine.Payments.ManualCompletion
