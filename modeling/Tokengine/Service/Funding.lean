import Tokengine.Model.Quota
import Tokengine.Model.SubscriptionSpec

/-! The sources that pay for a request: the wallet, a quota subscription or a tokens subscription. -/

namespace Tokengine.Service.Funding
open Program Model Database Quota Subscription

inductive BillingSource where
  | wallet
  | subscription
  deriving DecidableEq

inductive BillingMode where
  | quota
  | tokens
  deriving DecidableEq

structure WalletFunding where
  userId : Int
  /-- What was pre-consumed from the wallet. -/
  consumed : Int

structure SubscriptionFunding where
  requestId : String
  userId : Int
  modelName : String
  (amount subscriptionId preConsumed amountTotal amountUsedAfter planId : Int)
  planTitle : String

structure TokensBillingInfo where
  (tokensTotal tokensUsedBefore tokensUsedAfter tokensPreConsumed : Int)
  applicableModels : String

structure TokensSubscriptionFunding where
  requestId : String
  userId : Int
  modelName : String
  (tokensToConsume subscriptionId preConsumed : Int)
  tokensInfo : TokensBillingInfo
  planId : Int
  planTitle : String

inductive FundingSource where
  | wallet (funding : WalletFunding)
  | subscription (funding : SubscriptionFunding)
  | tokens (funding : TokensSubscriptionFunding)

def FundingSource.source : FundingSource → BillingSource
  | .wallet _ => .wallet
  | .subscription _ => .subscription
  | .tokens _ => .subscription

def WalletFunding.preConsume (funding : WalletFunding) (amount : Int) : Program World String WalletFunding :=
  if amount ≤ 0 then pure funding
  else do
    decreaseUserQuota funding.userId amount false
    pure { funding with consumed := amount }

def WalletFunding.settle (funding : WalletFunding) (delta : Int) : Program World String Unit :=
  if delta = 0 then pure ()
  else if 0 < delta then decreaseUserQuota funding.userId delta false
  else increaseUserQuota funding.userId (-delta) false

def WalletFunding.refund (funding : WalletFunding) : Program World String Unit :=
  if funding.consumed ≤ 0 then pure () else increaseUserQuota funding.userId funding.consumed false

def planInfoOrEmpty (userSubscriptionId : Int) : Program World String SubscriptionPlanInfo := do
  let info ← attempt (getSubscriptionPlanInfoByUserSubscriptionId userSubscriptionId)
  match info with
  | .ok info => pure info
  | .error _ => pure ⟨0, ""⟩

def SubscriptionFunding.preConsume (funding : SubscriptionFunding) : Program World String SubscriptionFunding := do
  let res ← preConsumeUserSubscription funding.requestId funding.userId funding.modelName funding.amount
  let info ← planInfoOrEmpty res.userSubscriptionId
  pure { funding with
    subscriptionId := res.userSubscriptionId
    preConsumed := res.preConsumed
    amountTotal := res.total
    amountUsedAfter := res.usedAfter
    planId := info.planId
    planTitle := info.planTitle }

def SubscriptionFunding.settle (funding : SubscriptionFunding) (delta : Int) : Program World String Unit :=
  if delta = 0 then pure () else postConsumeUserSubscriptionDelta funding.subscriptionId delta

/-- At most `attempts` tries; the last error is reported. -/
def retry (fn : Program World String Unit) (lastErr : Except String Unit) : Nat → Program World String Unit
  | 0 => fun world => (lastErr, world)
  | attempts + 1 => do
    let tried ← attempt fn
    match tried with
    | .ok () => pure ()
    | .error e => retry fn (.error e) attempts

def refundWithRetry (fn : Program World String Unit) : Program World String Unit := retry fn (.ok ()) 3

def SubscriptionFunding.refund (funding : SubscriptionFunding) : Program World String Unit :=
  if funding.preConsumed ≤ 0 then pure ()
  else refundWithRetry (refundSubscriptionPreConsume funding.requestId)

def TokensSubscriptionFunding.preConsumeTokens (funding : TokensSubscriptionFunding) (tokens : Int) :
    Program World String TokensSubscriptionFunding :=
  if tokens ≤ 0 then pure funding
  else do
    let res ← preConsumeUserSubscriptionTokens funding.requestId funding.userId funding.modelName tokens
    let info ← planInfoOrEmpty res.userSubscriptionId
    pure { funding with
      subscriptionId := res.userSubscriptionId
      preConsumed := res.preConsumed
      tokensInfo := ⟨res.total, res.usedBefore, res.usedAfter, res.preConsumed, res.applicableModels⟩
      planId := info.planId
      planTitle := info.planTitle }

def TokensSubscriptionFunding.settleTokens (funding : TokensSubscriptionFunding) (delta : Int) :
    Program World String Unit :=
  if delta = 0 then pure () else postConsumeUserSubscriptionTokensDelta funding.subscriptionId delta

def TokensSubscriptionFunding.refund (funding : TokensSubscriptionFunding) : Program World String Unit :=
  if funding.preConsumed ≤ 0 then pure ()
  else refundWithRetry (refundSubscriptionTokensPreConsume funding.requestId)

def FundingSource.preConsume (amount : Int) : FundingSource → Program World String FundingSource
  | .wallet funding => do
    let funding ← funding.preConsume amount
    pure (.wallet funding)
  | .subscription funding => do
    let funding ← funding.preConsume
    pure (.subscription funding)
  | .tokens funding => pure (.tokens funding)

def FundingSource.settle (delta : Int) : FundingSource → Program World String Unit
  | .wallet funding => funding.settle delta
  | .subscription funding => funding.settle delta
  | .tokens _ => pure ()

def FundingSource.refund : FundingSource → Program World String Unit
  | .wallet funding => funding.refund
  | .subscription funding => funding.refund
  | .tokens funding => funding.refund

def FundingSource.settleTokens (delta : Int) : FundingSource → Program World String Unit
  | .tokens funding => funding.settleTokens delta
  | _ => pure ()

end Tokengine.Service.Funding
