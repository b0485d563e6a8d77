import Tokengine.Service.Funding

/-! The life of a billing session: pre-consumption, settlement, refund. -/

namespace Tokengine.Service.Session
open Program Model Database Quota Subscription Funding Text

/-- The part of `RelayInfo` that billing reads and writes. -/
structure RelayInfo where
  (userId tokenId : Int)
  tokenKey : String
  tokenUnlimited : Bool
  /-- `token_quota` of the request context. -/
  tokenQuota : Int
  (isPlayground forcePreConsume : Bool)
  (requestId originModelName billingPreference : String)
  channelId : Int
  /-- `PriceData.BillingMode`. -/
  priceBillingMode : BillingMode
  (userQuota finalPreConsumedQuota : Int)
  billingSource : Option BillingSource
  subscriptionId : Int
  subscriptionPreConsumed : Int
  (subscriptionPostDelta subscriptionAmountTotal subscriptionAmountUsedAfterPreConsume subscriptionPlanId : Int)
  subscriptionPlanTitle : String

structure BillingSession where
  funding : FundingSource
  (preConsumedQuota tokenConsumed : Int)
  (fundingSettled settled refunded : Bool)
  /-- A wallet session leaves the mode unset. -/
  billingMode : Option BillingMode
  (preConsumedTokens tokensConsumed : Int)

def BillingSession.new (funding : FundingSource) (billingMode : Option BillingMode) : BillingSession where
  funding := funding
  preConsumedQuota := 0
  tokenConsumed := 0
  fundingSettled := false
  settled := false
  refunded := false
  billingMode := billingMode
  preConsumedTokens := 0
  tokensConsumed := 0

inductive ErrorCode where
  | queryDataError
  | updateDataError
  | insufficientUserQuota
  | preConsumeTokenQuotaFailed
  deriving DecidableEq

structure NewAPIError where
  err : String
  errorCode : ErrorCode
  statusCode : Nat

def newError (err : String) (errorCode : ErrorCode) : NewAPIError := ⟨err, errorCode, 500⟩

def forbidden (err : String) (errorCode : ErrorCode) : NewAPIError := ⟨err, errorCode, 403⟩

structure Open where
  session : BillingSession
  info : RelayInfo
  world : World

def onWorld {ε α : Type} (program : Program World ε α) : Program Open ε α :=
  zoom Open.world (fun world o => { o with world }) program

def modifySession {ε : Type} (change : BillingSession → BillingSession) : Program Open ε Unit :=
  modify fun o => { o with session := change o.session }

def modifyInfo {ε : Type} (change : RelayInfo → RelayInfo) : Program Open ε Unit :=
  modify fun o => { o with info := change o.info }

def adjustTokenQuota (tokenId delta : Int) : Program World String Unit :=
  if 0 < delta then decreaseTokenQuota tokenId delta else increaseTokenQuota tokenId (-delta)

def settleFunding (delta : Int) : Program Open String Unit := do
  let o ← get
  if o.session.fundingSettled then pure ()
  else do
    onWorld (o.session.funding.settle delta)
    modifySession fun session => { session with fundingSettled := true }

def settle (actualQuota : Int) : Program Open String Unit := do
  let o ← get
  let delta := actualQuota - o.session.preConsumedQuota
  if o.session.settled then pure ()
  else if delta = 0 then modifySession fun session => { session with settled := true }
  else do
    settleFunding delta
    let tokenErr ← attempt (if o.info.isPlayground then pure () else onWorld (adjustTokenQuota o.info.tokenId delta))
    if o.session.funding.source = .subscription then
      modifyInfo fun info => { info with subscriptionPostDelta := info.subscriptionPostDelta + delta }
    modifySession fun session => { session with settled := true }
    liftM tokenErr

def settleTokens (actualTokens : Int) : Program Open String Unit := do
  let o ← get
  let delta := actualTokens - o.session.preConsumedTokens
  if o.session.settled then pure ()
  else if o.session.billingMode ≠ some .tokens then modifySession fun session => { session with settled := true }
  else if delta = 0 then modifySession fun session => { session with settled := true }
  else do
    if !o.session.fundingSettled then
      onWorld (o.session.funding.settleTokens delta)
      modifySession fun session => { session with fundingSettled := true }
    modifySession fun session => { session with tokensConsumed := actualTokens, settled := true }

def needsRefund (session : BillingSession) : Bool :=
  if session.settled || session.refunded || session.fundingSettled then false
  else if 0 < session.tokenConsumed then true
  else
    match session.funding with
    | .subscription funding => 0 < funding.preConsumed
    | _ => false

def refundBalances (session : BillingSession) (info : RelayInfo) : Program World String Unit := do
  let _ ← attempt session.funding.refund
  if 0 < session.tokenConsumed ∧ info.isPlayground = false then
    let _ ← attempt (increaseTokenQuota info.tokenId session.tokenConsumed)
    pure ()
  else pure ()

def refund : Program Open String Unit := do
  let o ← get
  if o.session.settled || o.session.refunded || !needsRefund o.session then pure ()
  else do
    modifySession fun session => { session with refunded := true }
    onWorld (refundBalances o.session o.info)

def shouldTrust (trustQuota : Int) (session : BillingSession) (info : RelayInfo) : Bool :=
  if info.forcePreConsume then false
  else if trustQuota ≤ 0 then false
  else if !(info.tokenUnlimited || trustQuota < info.tokenQuota) then false
  else
    match session.funding.source with
    | .wallet => trustQuota < info.userQuota
    | .subscription => false

def syncRelayInfo (session : BillingSession) (info : RelayInfo) : RelayInfo :=
  let info := { info with
    finalPreConsumedQuota := session.preConsumedQuota
    billingSource := some session.funding.source }
  match session.funding with
  | .subscription sub => { info with
      subscriptionId := sub.subscriptionId
      subscriptionPreConsumed := sub.preConsumed
      subscriptionPostDelta := 0
      subscriptionAmountTotal := sub.amountTotal
      subscriptionAmountUsedAfterPreConsume := sub.amountUsedAfter
      subscriptionPlanId := sub.planId
      subscriptionPlanTitle := sub.planTitle }
  | .tokens sub => { info with
      subscriptionId := sub.subscriptionId
      subscriptionPreConsumed := sub.preConsumed
      subscriptionPostDelta := 0
      subscriptionAmountTotal := sub.tokensInfo.tokensTotal
      subscriptionAmountUsedAfterPreConsume := sub.tokensInfo.tokensUsedAfter
      subscriptionPlanId := sub.planId
      subscriptionPlanTitle := sub.planTitle }
  | .wallet _ => { info with subscriptionId := 0, subscriptionPreConsumed := 0 }

def tokenNotEnough (env : Env) (remain quota : Int) : String :=
  "token quota is not enough, token remain quota: " ++ env.formatQuota remain ++ ", need quota: " ++
    env.formatQuota quota

def preConsumeTokenQuota (info : RelayInfo) (quota : Int) : Program World String Unit :=
  if quota < 0 then throw negativeQuota
  else if info.isPlayground then pure ()
  else do
    let token ← getTokenByKey info.tokenKey
    let env ← getEnv (σ := World) (fun world => world)
    if info.tokenUnlimited = false ∧ token.remainQuota < quota then
      throw (tokenNotEnough env token.remainQuota quota)
    else decreaseTokenQuota info.tokenId quota

def consumeToken (effectiveQuota : Int) : Program Open NewAPIError Unit := do
  let o ← get
  if 0 < effectiveQuota then
    let charged ← attempt (onWorld (preConsumeTokenQuota o.info effectiveQuota))
    match charged with
    | .error err => throw (forbidden err .preConsumeTokenQuotaFailed)
    | .ok () => modifySession fun session => { session with tokenConsumed := effectiveQuota }
  else pure ()

def rollbackToken : Program Open NewAPIError Unit := do
  let o ← get
  if 0 < o.session.tokenConsumed ∧ o.info.isPlayground = false then
    let _ ← attempt (onWorld (increaseTokenQuota o.info.tokenId o.session.tokenConsumed))
    modifySession fun session => { session with tokenConsumed := 0 }
  else pure ()

def fundingError (err : String) : NewAPIError :=
  if contains err "no active subscription" || contains err "subscription quota insufficient" then
    forbidden ("订阅额度不足或未配置订阅: " ++ err) .insufficientUserQuota
  else newError err .updateDataError

def effectiveQuota (trustQuota : Int) (session : BillingSession) (info : RelayInfo) (quota : Int) : Int :=
  if shouldTrust trustQuota session info then 0 else quota

def preConsume (quota : Int) : Program Open NewAPIError Unit := do
  let o ← get
  let effective := effectiveQuota o.world.env.trustQuota o.session o.info quota
  consumeToken effective
  let consumed ← attempt (onWorld (o.session.funding.preConsume effective))
  match consumed with
  | .error err =>
    rollbackToken
    throw (fundingError err)
  | .ok funding =>
    modifySession fun session => { session with funding, preConsumedQuota := effective }
    modify fun o => { o with info := syncRelayInfo o.session o.info }

/-! The factory: which source pays, and the fall back to the other one. -/

inductive BillingPreference where
  | subscriptionFirst
  | walletFirst
  | subscriptionOnly
  | walletOnly
  deriving DecidableEq

def normalizeBillingPreference (pref : String) : BillingPreference :=
  match trimSpace pref with
  | "wallet_first" => .walletFirst
  | "subscription_only" => .subscriptionOnly
  | "wallet_only" => .walletOnly
  | _ => .subscriptionFirst

structure Relay where
  info : RelayInfo
  world : World

def onRelayWorld {ε α : Type} (program : Program World ε α) : Program Relay ε α :=
  zoom Relay.world (fun world relay => { relay with world }) program

def opening (session : BillingSession) (program : Program Open NewAPIError Unit) :
    Program Relay NewAPIError BillingSession := fun relay =>
  match program ⟨session, relay.info, relay.world⟩ with
  | (.ok (), o) => (.ok o.session, ⟨o.info, o.world⟩)
  | (.error e, o) => (.error e, ⟨o.info, o.world⟩)

def walletEmpty (env : Env) (userQuota : Int) : NewAPIError :=
  forbidden ("用户额度不足, 剩余额度: " ++ env.formatQuota userQuota) .insufficientUserQuota

def walletTooLow (env : Env) (userQuota quota : Int) : NewAPIError :=
  forbidden ("预扣费额度失败, 用户剩余额度: " ++ env.formatQuota userQuota ++ ", 需要预扣费额度: " ++
    env.formatQuota quota) .insufficientUserQuota

def tryWallet (preConsumedQuota : Int) : Program Relay NewAPIError BillingSession := do
  let relay ← get
  let userQuota ← attempt (onRelayWorld (getUserQuota relay.info.userId))
  match userQuota with
  | .error err => throw (newError err .queryDataError)
  | .ok userQuota =>
    if userQuota ≤ 0 then throw (walletEmpty relay.world.env userQuota)
    else if userQuota - preConsumedQuota < 0 then throw (walletTooLow relay.world.env userQuota preConsumedQuota)
    else do
      modify fun relay => { relay with info := { relay.info with userQuota } }
      opening (.new (.wallet ⟨relay.info.userId, 0⟩) none) (preConsume preConsumedQuota)

def checkTokenHasTokensSubscription (tokenId : Int) : Program World String (Option UserSubscription) :=
  if tokenId ≤ 0 then pure none
  else do
    let token ← getTokenById tokenId
    if token.subscriptionId ≤ 0 then pure none
    else do
      let sub ← getUserSubscriptionById token.subscriptionId
      let plan ← getSubscriptionPlanById sub.planId
      if plan.planType = .tokens then pure (some sub) else pure none

def tokensFundingError (err : String) : NewAPIError :=
  if contains err "tokens subscription quota insufficient" || contains err "model not applicable" then
    forbidden ("tokens订阅额度不足或模型不适用: " ++ err) .insufficientUserQuota
  else newError err .updateDataError

def preConsumeTokens (funding : TokensSubscriptionFunding) (tokens : Int) : Program Open NewAPIError Unit := do
  let consumed ← attempt (onWorld (funding.preConsumeTokens tokens))
  match consumed with
  | .error err => throw (tokensFundingError err)
  | .ok funding =>
    modifySession fun session => { session with funding := .tokens funding, preConsumedTokens := tokens }
    modify fun o => { o with info := syncRelayInfo o.session o.info }

def subConsume (preConsumedQuota : Int) : Int := if preConsumedQuota ≤ 0 then 1 else preConsumedQuota

def newTokensFunding (info : RelayInfo) (amount : Int) : TokensSubscriptionFunding :=
  ⟨info.requestId, info.userId, info.originModelName, amount, 0, 0, ⟨0, 0, 0, 0, ""⟩, 0, ""⟩

def newSubscriptionFunding (info : RelayInfo) (amount : Int) : SubscriptionFunding :=
  ⟨info.requestId, info.userId, info.originModelName, amount, 0, 0, 0, 0, 0, ""⟩

def trySubscription (preConsumedQuota : Int) : Program Relay NewAPIError BillingSession := do
  let relay ← get
  let amount := subConsume preConsumedQuota
  let tokensSub ← attempt (onRelayWorld (checkTokenHasTokensSubscription relay.info.tokenId))
  match tokensSub with
  | .error err => throw (newError err .queryDataError)
  | .ok (some _) =>
    let funding := newTokensFunding relay.info amount
    opening (.new (.tokens funding) (some .tokens)) (preConsumeTokens funding amount)
  | .ok none =>
    opening (.new (.subscription (newSubscriptionFunding relay.info amount)) (some .quota)) (preConsume amount)

def orElse (first second : Program Relay NewAPIError BillingSession) : Program Relay NewAPIError BillingSession := do
  let tried ← attempt first
  match tried with
  | .ok session => pure session
  | .error err => if err.errorCode = .insufficientUserQuota then second else throw err

def newBillingSession (preConsumedQuota : Int) : Program Relay NewAPIError BillingSession := do
  let relay ← get
  match normalizeBillingPreference relay.info.billingPreference with
  | .subscriptionOnly => trySubscription preConsumedQuota
  | .walletOnly => tryWallet preConsumedQuota
  | .walletFirst => orElse (tryWallet preConsumedQuota) (trySubscription preConsumedQuota)
  | .subscriptionFirst =>
    let hasSub ← attempt (onRelayWorld (hasActiveUserSubscription relay.info.userId))
    match hasSub with
    | .error err => throw (newError err .queryDataError)
    | .ok false => tryWallet preConsumedQuota
    | .ok true => orElse (trySubscription preConsumedQuota) (tryWallet preConsumedQuota)

end Tokengine.Service.Session
