import Tokengine.Tasks.Task

/-! Billing of a task after its submission: the refund of a failed task and the settlement of a finished one. -/

namespace Tokengine.Tasks
open Program Model Database Quota Subscription Service Session Billing

def resolveTokenKey (tokenId : Int) : Program World String String := do
  let token ← attempt (getTokenById tokenId)
  match token with
  | .ok token => pure token.key
  | .error _ => pure ""

def taskIsSubscription (task : Task) : Bool :=
  decide (task.privateData.billingSource = some .subscription) && decide (0 < task.privateData.subscriptionId)

def taskAdjustFunding (task : Task) (delta : Int) : Program World String Unit :=
  if taskIsSubscription task then postConsumeUserSubscriptionDelta task.privateData.subscriptionId delta
  else adjustUserQuota task.userId delta

def taskAdjustTokenQuota (task : Task) (delta : Int) : Program World String Unit :=
  if task.privateData.tokenId ≤ 0 ∨ delta = 0 then pure ()
  else do
    let tokenKey ← resolveTokenKey task.privateData.tokenId
    if tokenKey = "" then pure () else logged (adjustTokenQuota task.privateData.tokenId delta)

def refundTaskQuota (task : Task) : Program World String Unit :=
  if task.quota = 0 then pure ()
  else do
    let funded ← attempt (taskAdjustFunding task (-task.quota))
    match funded with
    | .error _ => pure ()
    | .ok () =>
      taskAdjustTokenQuota task (-task.quota)
      updateUserUsedQuota task.userId (-task.quota)
      updateChannelUsedQuota task.channelId (-task.quota)

def recalculateTaskQuota (task : Task) (actualQuota : Int) : Program World String Task :=
  if actualQuota ≤ 0 then pure task
  else if actualQuota - task.quota = 0 then pure task
  else do
    let quotaDelta := actualQuota - task.quota
    let funded ← attempt (taskAdjustFunding task quotaDelta)
    match funded with
    | .error _ => pure task
    | .ok () =>
      taskAdjustTokenQuota task quotaDelta
      if 0 < quotaDelta then updateUserUsedQuotaAndRequestCount task.userId quotaDelta
      else updateUserUsedQuota task.userId quotaDelta
      updateChannelUsedQuota task.channelId quotaDelta
      pure { task with quota := actualQuota }

structure TaskInfo where
  (status reason url progress : String)
  totalTokens : Int
  deriving DecidableEq

def failTaskInfo (reason : String) : TaskInfo := ⟨"FAILURE", reason, "", "", 0⟩

/-- Prices that are computed outside: by the adaptor of the platform, and from the ratio settings for a number of
tokens; the latter may leave the quota as it is. -/
structure Pricing where
  adjustBillingOnComplete : Task → TaskInfo → Int
  quotaByTokens : Task → Int → Option Int

def settleTaskBillingOnComplete (pricing : Pricing) (task : Task) (taskResult : TaskInfo) : Program World String Task :=
  if task.privateData.perCallBilling then pure task
  else if 0 < pricing.adjustBillingOnComplete task taskResult then
    recalculateTaskQuota task (pricing.adjustBillingOnComplete task taskResult)
  else if 0 < taskResult.totalTokens then
    match pricing.quotaByTokens task taskResult.totalTokens with
    | some actualQuota => recalculateTaskQuota task actualQuota
    | none => pure task
  else pure task

/-- The end of `RelayTask` for an accepted submission: settle, count, and the row to insert. -/
def relayTask (res : TaskSubmitResult) (perCallBilling : Bool) (publicTaskId : String) :
    Program Request String Task := do
  settleTask res.quota
  let req ← get
  pure (submittedTask req.info res perCallBilling publicTaskId req.world.env.now)

end Tokengine.Tasks
