import Tokengine.Service.Settlement

/-! Billing of a request: the session it holds, and the settlement each kind of request uses. -/

namespace Tokengine.Service.Billing
open Program Model Database Quota Subscription Funding Session

/-- A request with its `Billing`. -/
structure Request where
  info : RelayInfo
  billing : Option BillingSession
  world : World

def onRequestWorld {ε α : Type} (program : Program World ε α) : Program Request ε α :=
  zoom Request.world (fun world req => { req with world }) program

def withSession (session : BillingSession) (program : Program Open String Unit) : Program Request String Unit :=
  fun req =>
    let (res, o) := program ⟨session, req.info, req.world⟩
    (res, ⟨o.info, some o.session, o.world⟩)

def adjustUserQuota (userId delta : Int) : Program World String Unit :=
  if 0 < delta then decreaseUserQuota userId delta false else increaseUserQuota userId (-delta) false

def postConsumeQuota (quota : Int) : Program Request String Unit := do
  let req ← get
  if req.info.billingSource = some .subscription then
    if req.info.subscriptionId = 0 then throw "subscription id is missing"
    else if quota = 0 then pure ()
    else do
      onRequestWorld (postConsumeUserSubscriptionDelta req.info.subscriptionId quota)
      modify fun req => { req with
        info := { req.info with subscriptionPostDelta := req.info.subscriptionPostDelta + quota } }
  else onRequestWorld (adjustUserQuota req.info.userId quota)
  if req.info.isPlayground then pure () else onRequestWorld (adjustTokenQuota req.info.tokenId quota)

def settleBilling (actualQuota : Int) : Program Request String Unit := do
  let req ← get
  match req.billing with
  | some session => withSession session (settle actualQuota)
  | none =>
    let quotaDelta := actualQuota - req.info.finalPreConsumedQuota
    if quotaDelta = 0 then pure () else postConsumeQuota quotaDelta

def settleBillingWithTokens (actualTokens actualQuota : Int) : Program Request String Unit := do
  let req ← get
  match req.billing with
  | none => settleBilling actualQuota
  | some session =>
    if session.billingMode = some .tokens then withSession session (settleTokens actualTokens)
    else settleBilling actualQuota

def countUsage (quota : Int) : Program Request String Unit := do
  let req ← get
  onRequestWorld (updateUserUsedQuotaAndRequestCount req.info.userId quota)
  onRequestWorld (updateChannelUsedQuota req.info.channelId quota)

def countTokens (totalTokens quota : Int) : Program Request String Unit :=
  if totalTokens = 0 then pure () else countUsage quota

/-- The end of a text request that used `totalTokens` at a price of `quota`; errors are logged. -/
def postTextConsumeQuota (totalTokens quota : Int) : Program Request String Unit := do
  countTokens totalTokens quota
  let req ← get
  logged (if req.info.priceBillingMode = .tokens then settleBillingWithTokens totalTokens quota
    else settleBilling quota)

def postAudioConsumeQuota (totalTokens quota : Int) : Program Request String Unit := do
  let quota := if totalTokens = 0 then 0 else quota
  countTokens totalTokens quota
  logged (settleBilling quota)

def settleTask (quota : Int) : Program Request String Unit := do
  logged (settleBilling quota)
  countUsage quota

def refundBilling : Program Request String Unit := do
  let req ← get
  match req.billing with
  | none => pure ()
  | some session => withSession session refund

/-- The billing mode of `ModelPriceHelper`: by the same lookups as the session, with errors read as quota. -/
def priceBillingMode (tokenId : Int) : Program World String BillingMode := do
  let tokensSub ← attempt (checkTokenHasTokensSubscription tokenId)
  match tokensSub with
  | .ok (some _) => pure .tokens
  | _ => pure .quota

end Tokengine.Service.Billing
