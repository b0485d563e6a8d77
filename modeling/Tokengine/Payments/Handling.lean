import Tokengine.Payments.Orders

/-! What is kept when an order is read, saved, marked and credited is kept by every request. -/

namespace Tokengine.Payments.Handling
open Transactions

/-- What holds of the programs `keeps`, and of what stands in a transaction `closes`: an order may be saved with another
status when it is known from a read, and as paid where that is allowed. -/
structure Rules (cfg : Settings) (may : String → Prop) (knows : String → TopUp → Prop)
    (keeps closes : ∀ {α : Type}, Action schema α → Prop) : Prop where
  ends {α : Type} {val : α} : keeps (pure val)
  fails {α : Type} {e : String} : keeps (throw e : Action schema α)
  stops {α : Type} {val : α} : closes (pure val)
  aborts {α : Type} {e : String} : closes (throw e : Action schema α)
  follows {α β : Type} {body : Action schema β} {rest : β → Action schema α} :
    keeps body → (∀ val, keeps (rest val)) → keeps (body >>= rest)
  catches {α β : Type} {body : Action schema β} {rest : Except String β → Action schema α} :
    keeps body → (∀ res, keeps (rest res)) → keeps (attempt body >>= rest)
  locks {α : Type} {body : Action schema α} {name : String} : keeps body → keeps (withLock name body)
  commits {α : Type} {body : Action schema α} : closes body → keeps (transaction body)
  reads {α : Type} {rest : Option TopUp → Action schema α} {tradeNo : String} : keeps (rest none) →
    (∀ row, knows tradeNo row → keeps (rest (some row))) → keeps (getTopUpByTradeNo tradeNo >>= rest)
  looks {α : Type} {rest : TopUp → Action schema α} {tradeNo : String} :
    (∀ row, knows tradeNo row → closes (rest row)) → closes (lockedTopUp tradeNo >>= rest)
  saves {tradeNo : String} {row : TopUp} {status : Plans.OrderStatus} : knows tradeNo row → status ≠ .success →
    keeps (run .global (.saveTopUp { row with status })) ∧ closes (run .own (.saveTopUp { row with status }))
  settles {tradeNo : String} {row : TopUp} : may tradeNo → knows tradeNo row →
    keeps (settle row (unitQuota cfg row)) ∧ keeps (settle row (cnyQuota cfg row))
  completes {tradeNo : String} {row : TopUp} {now amount : Int} {stripeCustomer email : Option String} : may tradeNo →
    knows tradeNo row → closes (completeTx now row amount stripeCustomer email)
  creem {now : Int} {tradeNo email : String} : may tradeNo → closes (rechargeCreemTx now tradeNo email)
  expires {now : Int} {tradeNo : String} : keeps (expireSubscriptionOrder now tradeNo)
  sweeps {cutoff : Int} : keeps (run .global (.expirePending cutoff))

/-- The orders that a request may mark as paid. -/
def Marks (gateways : Gateways) : Request → String → Prop
  | .epay params, tradeNo => epayOrder gateways params = .ok tradeNo
  | .zsPay form, tradeNo => zsOrder gateways form = .ok tradeNo
  | .helipay form, tradeNo => helipayOrder form = .ok (tradeNo, "SUCCESS")
  | .stripe payload sig, tradeNo => ∃ event, gateways.stripeEvent payload sig = some event ∧
      event.type = .completed ∧ event.status = "complete" ∧ event.clientReferenceId = tradeNo
  | .creem payload sig, tradeNo => ∃ email, creemOrder gateways payload sig = .ok (tradeNo, email)
  | .waffo payload sig, tradeNo => ∃ payment, waffoPayment gateways payload sig = .ok payment ∧
      payment.orderStatus = "PAY_SUCCESS" ∧ payment.merchantOrderId = tradeNo
  | .queryZS asked resp, tradeNo => asked = tradeNo ∧ resp = .ok "S"
  | .complete asked, tradeNo => asked = tradeNo
  | _, _ => False

def Allows (gateways : Gateways) (may : String → Prop) (req : Request) : Prop :=
  ∀ tradeNo, Marks gateways req tradeNo → may tradeNo

section Requests

variable {gateways : Gateways} {cfg : Settings} {may : String → Prop} {knows : String → TopUp → Prop}
  {keeps closes : ∀ {α : Type}, Action schema α → Prop} (rules : Rules cfg may knows keeps closes) {now : Int}
  {tradeNo : String} {form : Option Form}
include rules

theorem Rules.retries {body : Action schema Unit} (inside : closes body) : keeps (orRetry (transaction body)) := by
  refine rules.catches (rules.commits inside) fun res => ?_
  cases res with
  | ok => exact rules.ends
  | error => exact rules.fails

theorem Rules.recharges {customerId : String} (allowed : may tradeNo) : keeps (recharge cfg now tradeNo customerId) := by
  refine iteInduction (fun _ => rules.fails) fun _ => rules.retries (rules.looks fun row known => ?_)
  exact iteInduction (fun _ => rules.aborts) fun _ => rules.completes allowed known

theorem Rules.once {wrongStatus : String} {quota : TopUp → Int} (allowed : may tradeNo) :
    closes (completeOnce now tradeNo wrongStatus quota) := by
  refine rules.looks fun row known => iteInduction (fun _ => rules.stops) fun _ => ?_
  refine iteInduction (fun _ => rules.aborts) fun _ => iteInduction (fun _ => rules.aborts) fun _ => ?_
  exact rules.completes allowed known

theorem Rules.cancels {userId : Int} : keeps (cancelTopUpByTradeNo tradeNo userId) := by
  refine rules.commits (rules.looks fun row known => iteInduction (fun _ => rules.aborts) fun _ => ?_)
  cases row.status with
  | pending => exact (rules.saves known fun same => by cases same).2
  | _ => exact rules.aborts

theorem Rules.epay {params : Option Form} (allowed : Allows gateways may (.epay params)) :
    keeps (epayNotify gateways cfg params) := by
  unfold epayNotify
  split
  · exact rules.ends
  next tradeNo found =>
    refine rules.locks (rules.reads rules.ends fun row known => iteInduction (fun _ => ?_) fun _ => rules.ends)
    exact rules.catches (rules.settles (allowed tradeNo found) known).1 fun _ => rules.ends

theorem Rules.zsPay (allowed : Allows gateways may (.zsPay form)) :
    keeps (zsPayNotify gateways cfg form) := by
  unfold zsPayNotify
  split
  · exact rules.ends
  next tradeNo found =>
    refine rules.locks (rules.reads rules.ends fun row known => iteInduction (fun _ => ?_) fun _ => rules.ends)
    refine rules.catches (rules.settles (allowed tradeNo found) known).2 fun res => ?_
    cases res <;> exact rules.ends

theorem Rules.queryZS {resp : Except String String} (allowed : resp = .ok "S" → may tradeNo) :
    keeps (queryZSPayStatus gateways cfg tradeNo resp) := by
  have reads : ∀ {body : Option TopUp → Action schema Reply}, (∀ found, keeps (body found)) →
      keeps (getTopUpByTradeNo tradeNo >>= body) := fun rest => rules.reads (rest none) fun _ _ => rest _
  refine iteInduction (fun _ => rules.ends) fun _ => reads fun known => iteInduction (fun _ => rules.ends) fun _ => ?_
  refine iteInduction (fun _ => rules.ends) fun _ => ?_
  cases resp with
  | error => exact rules.ends
  | ok tradeState =>
    refine iteInduction (fun success => rules.locks (rules.reads rules.ends fun row known => ?_)) fun _ => rules.ends
    have settled := (rules.settles (allowed (by rw [success])) known).2
    exact iteInduction (fun _ => rules.catches settled fun _ => rules.ends) fun _ => rules.ends

theorem Rules.helipay (allowed : Allows gateways may (.helipay form)) :
    keeps (helipayNotify cfg form) := by
  unfold helipayNotify
  split
  · exact rules.ends
  next tradeNo _ found =>
  refine rules.locks (rules.reads rules.ends fun row known => iteInduction (fun _ => ?_) fun _ => rules.ends)
  refine iteInduction (fun success => ?_) fun _ => iteInduction (fun _ => ?_) fun _ => rules.ends
  · rw [success] at found
    refine rules.catches (rules.settles (allowed tradeNo found) known).2 fun res => ?_
    cases res <;> exact rules.ends
  · exact rules.catches (rules.saves known fun same => by cases same).1 fun _ => rules.ends

theorem Rules.expired {event : StripeEvent} : keeps (sessionExpired now event) := by
  refine iteInduction (fun _ => rules.ends) fun _ => iteInduction (fun _ => rules.ends) fun _ => rules.locks ?_
  refine rules.catches rules.expires fun res => ?_
  cases res with
  | ok => exact rules.ends
  | error e =>
    refine iteInduction (fun _ => rules.reads rules.ends fun row known => ?_) fun _ => rules.ends
    exact rules.catches (rules.saves known fun same => by cases same).1 fun _ => rules.ends

variable {payload sig : String}

theorem Rules.stripe (allowed : Allows gateways may (.stripe payload sig)) :
    keeps (stripeWebhook gateways cfg now payload sig) := by
  unfold stripeWebhook
  split
  · exact rules.ends
  next event found =>
  cases type : event.type with
  | completed =>
    refine rules.follows (iteInduction (fun _ => rules.ends) fun complete => ?_) fun _ => rules.ends
    have marks := allowed _ ⟨event, found, type, not_not.mp complete, rfl⟩
    exact rules.catches (rules.recharges marks) fun _ => rules.ends
  | expired => exact rules.follows rules.expired fun _ => rules.ends
  | other => exact rules.ends

theorem Rules.creemPaid (allowed : Allows gateways may (.creem payload sig)) :
    keeps (creemWebhook gateways now payload sig) := by
  unfold creemWebhook
  split
  · exact rules.ends
  next tradeNo email found =>
  refine rules.reads rules.ends fun row _ => iteInduction (fun _ => rules.ends) fun _ => ?_
  have marks := allowed tradeNo ⟨email, found⟩
  refine rules.catches (iteInduction (fun _ => rules.fails) fun _ => rules.retries (rules.creem marks)) fun res => ?_
  cases res <;> exact rules.ends

theorem Rules.waffo (allowed : Allows gateways may (.waffo payload sig)) :
    keeps (waffoWebhook gateways cfg now payload sig) := by
  unfold waffoWebhook
  split
  · exact rules.ends
  next payment found =>
  refine iteInduction (fun _ => iteInduction (fun _ => rules.ends) fun _ => ?_) fun success => rules.locks ?_
  · refine rules.reads rules.ends fun row known => iteInduction (fun _ => ?_) fun _ => rules.ends
    exact rules.catches (rules.saves known fun same => by cases same).1 fun _ => rules.ends
  have marks := allowed _ ⟨payment, found, not_not.mp success, rfl⟩
  refine rules.catches (iteInduction (fun _ => rules.fails) fun _ => rules.retries (rules.once marks)) fun res => ?_
  cases res <;> exact rules.ends

theorem Rules.completed (allowed : may tradeNo) : keeps (adminCompleteTopUp cfg now tradeNo) := by
  refine iteInduction (fun _ => rules.ends) fun _ => rules.locks (rules.catches ?_ fun res => ?_)
  · exact iteInduction (fun _ => rules.fails) fun _ => rules.commits (rules.once allowed)
  · cases res <;> exact rules.ends

theorem Rules.cancelled {errorText : String} {userId : Int} : keeps (cancelOrder errorText tradeNo userId) := by
  refine iteInduction (fun _ => rules.ends) fun _ => rules.catches rules.cancels fun res => ?_
  cases res <;> exact rules.ends

theorem Rules.script (req : Request) (allowed : Allows gateways may req) :
    keeps (req.script gateways cfg now) := by
  cases req with
  | epay params => exact rules.epay allowed
  | zsPay form => exact rules.zsPay allowed
  | helipay form => exact rules.helipay allowed
  | stripe payload sig => exact rules.stripe allowed
  | creem payload sig => exact rules.creemPaid allowed
  | waffo payload sig => exact rules.waffo allowed
  | queryZS tradeNo resp => exact rules.queryZS fun success => allowed tradeNo ⟨rfl, success⟩
  | complete tradeNo => exact rules.completed (allowed tradeNo rfl)
  | cancelZS | cancelHelipay => exact rules.cancelled
  | expire cutoff =>
    refine rules.catches rules.sweeps fun res => ?_
    cases res <;> exact rules.ends

end Requests

end Tokengine.Payments.Handling
