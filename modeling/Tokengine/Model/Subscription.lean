import Mathlib.Data.List.Sort
import Tokengine.Model.ResetTime

/-! Pre-consumption, settlement and refund of user subscriptions. A subscription carries two meters,
quota and tokens; both are charged by the same code over different columns. The columns are of type
`int64`: `Meter.int64` has the arithmetic of the code, and the two meters themselves have that of a run
in which no sum leaves the range. -/

namespace Tokengine.Model.Subscription
open Program Database ResetTime Text

structure Meter where
  (used limit : UserSubscription → Int)
  setUsed : Int → UserSubscription → UserSubscription
  /-- What a sum or a difference is stored as. -/
  fit : Int → Int
  exceeded : Int → Int → String
  used_setUsed : ∀ val sub, used (setUsed val sub) = val
  limit_setUsed : ∀ val sub, limit (setUsed val sub) = limit sub
  id_setUsed : ∀ val sub, (setUsed val sub).id = sub.id
  setUsed_setUsed : ∀ first second sub, setUsed second (setUsed first sub) = setUsed second sub
  setUsed_used : ∀ sub, setUsed (used sub) sub = sub

def amountMeter : Meter where
  used := UserSubscription.amountUsed
  limit := UserSubscription.amountTotal
  setUsed val sub := { sub with amountUsed := val }
  fit := id
  exceeded used total := s!"subscription used exceeds total, used={used} total={total}"
  used_setUsed _ _ := rfl
  limit_setUsed _ _ := rfl
  id_setUsed _ _ := rfl
  setUsed_setUsed _ _ _ := rfl
  setUsed_used _ := rfl

def tokensMeter : Meter where
  used := UserSubscription.tokensUsed
  limit := UserSubscription.tokensLimit
  setUsed val sub := { sub with tokensUsed := val }
  fit := id
  exceeded used limit := s!"tokens used exceeds limit, used={used} limit={limit}"
  used_setUsed _ _ := rfl
  limit_setUsed _ _ := rfl
  id_setUsed _ _ := rfl
  setUsed_setUsed _ _ _ := rfl
  setUsed_used _ := rfl

attribute [simp] Meter.used_setUsed Meter.limit_setUsed Meter.id_setUsed Meter.setUsed_setUsed Meter.setUsed_used

def Meter.int64 (meter : Meter) : Meter := { meter with fit := wrap64 }

/-- `IsModelApplicableForTokensSubscription`, also written out in both candidate loops. -/
def modelApplicable (sub : UserSubscription) (modelName : String) : Bool :=
  sub.applicableModels == "" ||
    (split sub.applicableModels ',').any fun name => trimSpace name == modelName

def Meter.hasRoom (meter : Meter) (sub : UserSubscription) (amount : Int) : Bool :=
  !(0 < meter.limit sub && meter.fit (meter.limit sub - meter.used sub) < amount)

def Meter.eligible (meter : Meter) (modelName : String) (amount : Int) (sub : UserSubscription) : Bool :=
  modelApplicable sub modelName && meter.hasRoom sub amount

/-- `ORDER BY end_time asc, id asc`. -/
def expiresBefore (first second : UserSubscription) : Prop :=
  first.endTime < second.endTime ∨ (first.endTime = second.endTime ∧ first.id ≤ second.id)

instance : DecidableRel expiresBefore := fun _ _ => inferInstanceAs (Decidable (_ ∨ _))

def isActive (now userId : Int) (sub : UserSubscription) : Bool :=
  sub.userId == userId && sub.status == .active && now < sub.endTime

def activeSubscriptions (now userId : Int) (db : Db) : List UserSubscription :=
  (db.subs.rows.filter (isActive now userId)).insertionSort expiresBefore

/-- `tx.Save(&sub)` writes back every column of the row. -/
def saveSubscription (sub : UserSubscription) (db : Db) : Db := { db with subs := db.subs.save sub }

def saveRecord (record : SubscriptionPreConsumeRecord) (db : Db) : Db :=
  { db with records := db.records.save record }

def txSave (change : Db → Db) : Program Tx String Unit := txWrite change (fun _ => .ok ())

def planById (id : Int) (db : Db) : Except String SubscriptionPlan :=
  match db.plans.lookup id with
  | some plan => .ok plan
  | none => .error recordNotFound

def getSubscriptionPlanByIdTx (id : Int) : Program Tx String SubscriptionPlan :=
  if id ≤ 0 then throw "invalid plan id" else txRead (planById id)

def getSubscriptionPlanById (id : Int) : Program World String SubscriptionPlan :=
  if id ≤ 0 then throw "invalid plan id" else dbRead (planById id)

def maybeResetUserSubscriptionWithPlanTx (sub : UserSubscription) (plan : SubscriptionPlan) (env : Env) :
    Program Tx String UserSubscription :=
  match dueReset env.utcOffset env.now plan sub with
  | .error e => throw e
  | .ok none => pure sub
  | .ok (some later) => do
    txSave (saveSubscription later)
    pure later

/-- The common part of `SubscriptionPreConsumeResult` and `SubscriptionTokensPreConsumeResult`. -/
structure PreConsumeResult where
  (userSubscriptionId preConsumed total usedBefore usedAfter : Int)
  applicableModels : String
  deriving DecidableEq

def alreadyRefunded : String := "subscription pre-consume already refunded"

def Meter.replayed (meter : Meter) (sub : UserSubscription) (preConsumed : Int) : PreConsumeResult :=
  ⟨sub.id, preConsumed, meter.limit sub, meter.used sub, meter.used sub, sub.applicableModels⟩

def subscriptionById (id : Int) (db : Db) : Except String UserSubscription :=
  match db.subs.lookup id with
  | some sub => .ok sub
  | none => .error recordNotFound

def recordByRequestId (requestId : String) (db : Db) : Except String SubscriptionPreConsumeRecord :=
  match db.records.lookup requestId with
  | some record => .ok record
  | none => .error recordNotFound

def Meter.replay (meter : Meter) (existing : SubscriptionPreConsumeRecord) : Program Tx String PreConsumeResult :=
  if existing.status = .refunded then throw alreadyRefunded
  else do
    let sub ← txRead (subscriptionById existing.userSubscriptionId)
    pure (meter.replayed sub existing.preConsumed)

def duplicateKey : String := "UNIQUE constraint failed: subscription_pre_consume_records.request_id"

/-- `tx.Create(record)`: the request id has a unique index. -/
def createRecord (record : SubscriptionPreConsumeRecord) : Program Tx String Unit :=
  txWrite (saveRecord record) fun db =>
    match db.records.lookup record.requestId with
    | some _ => .error duplicateKey
    | none => .ok ()

/-- `sub.AmountUsed += amount`. -/
def Meter.charged (meter : Meter) (sub : UserSubscription) (amount : Int) : UserSubscription :=
  meter.setUsed (meter.fit (meter.used sub + amount)) sub

/-- Record the pre-consumption and charge the chosen candidate. A failed insert is answered from
the record of the same request id, if there is one, with the candidate as the subscription. -/
def Meter.consume (meter : Meter) (requestId : String) (userId amount : Int) (sub : UserSubscription) :
    Program Tx String PreConsumeResult := do
  let created ← attempt (createRecord ⟨requestId, userId, sub.id, amount, .consumed⟩)
  match created with
  | .error e =>
    let found ← attempt (txRead (recordByRequestId requestId))
    match found with
    | .error _ => throw e
    | .ok dup =>
      if dup.status = .refunded then throw alreadyRefunded
      else pure (meter.replayed sub dup.preConsumed)
  | .ok () =>
    txSave (saveSubscription (meter.charged sub amount))
    pure ⟨sub.id, amount, meter.limit sub, meter.used sub, meter.used (meter.charged sub amount), sub.applicableModels⟩

/-- The candidate loop. `prepare` is what the loop does before the checks; it may skip the candidate. -/
def Meter.consumeFirst (meter : Meter) (prepare : UserSubscription → Program Tx String (Option UserSubscription))
    (insufficient : String) (requestId : String) (userId : Int) (modelName : String) (amount : Int) :
    List UserSubscription → Program Tx String PreConsumeResult
  | [] => throw insufficient
  | cand :: rest => do
    let prepared ← prepare cand
    match prepared with
    | none => meter.consumeFirst prepare insufficient requestId userId modelName amount rest
    | some sub =>
      if meter.eligible modelName amount sub then meter.consume requestId userId amount sub
      else meter.consumeFirst prepare insufficient requestId userId modelName amount rest

def noActiveSubscription : String := "no active subscription"

def Meter.preConsumeTx (meter : Meter) (prepare : UserSubscription → Program Tx String (Option UserSubscription))
    (insufficient : String) (requestId : String) (userId : Int) (modelName : String) (amount now : Int) :
    Program Tx String PreConsumeResult := do
  let existing ← txRead fun db => .ok (db.records.lookup requestId)
  match existing with
  | some record => meter.replay record
  | none =>
    let subs ← attempt (txRead fun db => .ok (activeSubscriptions now userId db))
    match subs with
    | .error _ => throw noActiveSubscription
    | .ok [] => throw noActiveSubscription
    | .ok (first :: rest) =>
      meter.consumeFirst prepare insufficient requestId userId modelName amount (first :: rest)

def Meter.preConsume (meter : Meter) (prepare : Env → UserSubscription → Program Tx String (Option UserSubscription))
    (insufficient notPositive : String) (requestId : String) (userId : Int) (modelName : String) (amount : Int) :
    Program World String PreConsumeResult :=
  if userId ≤ 0 then throw "invalid userId"
  else if trimSpace requestId = "" then throw "requestId is empty"
  else if amount ≤ 0 then throw notPositive
  else do
    let env ← getEnv (σ := World) (fun world => world)
    transaction (meter.preConsumeTx (prepare env) insufficient requestId userId modelName amount env.now)

def prepareQuota (env : Env) (cand : UserSubscription) : Program Tx String (Option UserSubscription) := do
  let plan ← getSubscriptionPlanByIdTx cand.planId
  let sub ← maybeResetUserSubscriptionWithPlanTx cand plan env
  pure (some sub)

def prepareTokens (_ : Env) (cand : UserSubscription) : Program Tx String (Option UserSubscription) := do
  let plan ← getSubscriptionPlanByIdTx cand.planId
  pure (if plan.planType = .tokens then some cand else none)

def preConsumeUserSubscription (requestId : String) (userId : Int) (modelName : String) (amount : Int) :
    Program World String PreConsumeResult :=
  amountMeter.preConsume prepareQuota s!"subscription quota insufficient, need={amount}" "amount must be > 0"
    requestId userId modelName amount

def preConsumeUserSubscriptionTokens (requestId : String) (userId : Int) (modelName : String) (tokens : Int) :
    Program World String PreConsumeResult :=
  tokensMeter.preConsume prepareTokens
    s!"tokens subscription quota insufficient or model not applicable, need={tokens} tokens"
    "tokensToConsume must be > 0" requestId userId modelName tokens

def Meter.newUsed (meter : Meter) (sub : UserSubscription) (delta : Int) : Int :=
  if meter.fit (meter.used sub + delta) < 0 then 0 else meter.fit (meter.used sub + delta)

def Meter.adjusted (meter : Meter) (sub : UserSubscription) (delta : Int) : Except String UserSubscription :=
  if 0 < meter.limit sub ∧ meter.limit sub < meter.newUsed sub delta then
    .error (meter.exceeded (meter.newUsed sub delta) (meter.limit sub))
  else .ok (meter.setUsed (meter.newUsed sub delta) sub)

def Meter.postConsumeTx (meter : Meter) (userSubscriptionId delta : Int) : Program Tx String Unit := do
  let sub ← txRead (subscriptionById userSubscriptionId)
  match meter.adjusted sub delta with
  | .error e => throw e
  | .ok changed => txSave (saveSubscription changed)

def Meter.postConsume (meter : Meter) (userSubscriptionId delta : Int) : Program World String Unit :=
  if userSubscriptionId ≤ 0 then throw "invalid userSubscriptionId"
  else if delta = 0 then pure ()
  else transaction (meter.postConsumeTx userSubscriptionId delta)

def postConsumeUserSubscriptionDelta : Int → Int → Program World String Unit := amountMeter.postConsume

def postConsumeUserSubscriptionTokensDelta : Int → Int → Program World String Unit := tokensMeter.postConsume

def Meter.refundTx (meter : Meter) (requestId : String) : Program Tx String Unit := do
  let record ← txRead (recordByRequestId requestId)
  if record.status = .refunded then pure ()
  else if record.preConsumed ≤ 0 then txSave (saveRecord { record with status := .refunded })
  else do
    onGlobal (meter.postConsume record.userSubscriptionId (-record.preConsumed))
    txSave (saveRecord { record with status := .refunded })

def Meter.refund (meter : Meter) (requestId : String) : Program World String Unit :=
  if trimSpace requestId = "" then throw "requestId is empty"
  else transaction (meter.refundTx requestId)

def refundSubscriptionPreConsume : String → Program World String Unit := amountMeter.refund

def refundSubscriptionTokensPreConsume : String → Program World String Unit := tokensMeter.refund

def isDue (now : Int) (sub : UserSubscription) : Bool :=
  decide (0 < sub.nextResetTime) && decide (sub.nextResetTime ≤ now)

def dueSubscriptions (now : Int) (limit : Nat) (db : Db) : List UserSubscription :=
  ((db.subs.rows.filter fun sub => isDue now sub && sub.status == .active).insertionSort
    fun first second => first.nextResetTime ≤ second.nextResetTime).take limit

def dueSubscriptionById (id now : Int) (db : Db) : Except String UserSubscription :=
  match db.subs.lookup id with
  | some sub => if isDue now sub then .ok sub else .error recordNotFound
  | none => .error recordNotFound

def resetOneTx (env : Env) (plan : SubscriptionPlan) (id : Int) : Program Tx String Bool := do
  let locked ← attempt (txRead (dueSubscriptionById id env.now))
  match locked with
  | .error _ => pure false
  | .ok sub => do
    let _ ← maybeResetUserSubscriptionWithPlanTx sub plan env
    pure true

def resetEach (env : Env) : List UserSubscription → Int → Program World String Int
  | [], resetCount => pure resetCount
  | sub :: rest, resetCount => do
    let plan ← attempt (getSubscriptionPlanById sub.planId)
    match plan with
    | .error _ => resetEach env rest resetCount
    | .ok plan => do
      let reset ← transaction (resetOneTx env plan sub.id)
      resetEach env rest (if reset then resetCount + 1 else resetCount)

def resetDueSubscriptions (limit : Int) : Program World String Int := do
  let env ← getEnv (σ := World) (fun world => world)
  let subs ← dbRead fun db => .ok (dueSubscriptions env.now (if limit ≤ 0 then 200 else limit.toNat) db)
  resetEach env subs 0

def getUserSubscriptionById (id : Int) : Program World String UserSubscription :=
  if id ≤ 0 then throw "invalid userSubscription id" else dbRead (subscriptionById id)

structure SubscriptionPlanInfo where
  planId : Int
  planTitle : String
  deriving DecidableEq

def getSubscriptionPlanInfoByUserSubscriptionId (id : Int) : Program World String SubscriptionPlanInfo :=
  if id ≤ 0 then throw "invalid userSubscriptionId"
  else do
    let sub ← dbRead (subscriptionById id)
    let plan ← getSubscriptionPlanById sub.planId
    pure ⟨sub.planId, plan.title⟩

def hasActiveUserSubscription (userId : Int) : Program World String Bool :=
  if userId ≤ 0 then throw "invalid userId"
  else do
    let env ← getEnv (σ := World) (fun world => world)
    dbRead fun db => .ok (0 < (db.subs.rows.filter (isActive env.now userId)).length)

end Tokengine.Model.Subscription
