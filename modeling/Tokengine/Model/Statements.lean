import Tokengine.Lib.Interleaving
import Tokengine.Model.SubscriptionSpec

/-! The quota functions of a subscription as scripts of SQL statements, to be interleaved with other
requests. Reads take no lock and see the committed tables and the transaction's own writes. A write
locks its row until the transaction ends, and an insert locks its key; another transaction that wants
the same lock waits. A statement that fails does not end its transaction. -/

namespace Tokengine.Model.Statements
open Interleaving Database ResetTime Subscription Function Text Table List

inductive Statement where
  | findRecord (requestId : String)
  | findActive (now userId : Int)
  | findPlan (id : Int)
  | findSub (id : Int)
  | createRecord (record : SubscriptionPreConsumeRecord)
  /-- `tx.Save(&sub)`: writes every column of `row`; `read` is the row that the transaction had before. -/
  | saveSub (read row : UserSubscription)
  | saveRecord (record : SubscriptionPreConsumeRecord)
  | commit
  | rollback

abbrev Answer : Statement → Type
  | .findRecord _ => Option SubscriptionPreConsumeRecord
  | .findActive _ _ => List UserSubscription
  | .findPlan _ => Option SubscriptionPlan
  | .findSub _ => Option UserSubscription
  | .createRecord _ => Bool
  | _ => Unit

inductive Key where
  | sub (id : Int)
  | record (requestId : String)
  deriving DecidableEq

inductive Write where
  | sub (row : UserSubscription)
  | record (row : SubscriptionPreConsumeRecord)

def Write.key : Write → Key
  | .sub row => .sub row.id
  | .record row => .record row.requestId

def Write.apply (db : Db) : Write → Db
  | .sub row => saveSubscription row db
  | .record row => saveRecord row db

def applyAll (writes : List Write) (db : Db) : Db := writes.foldl Write.apply db

def Write.subRow : Write → Option UserSubscription
  | .sub row => some row
  | .record _ => none

def Write.recordRow : Write → Option SubscriptionPreConsumeRecord
  | .sub _ => none
  | .record row => some row

variable {writes : List Write}

theorem mem_subRows {row : UserSubscription} (mem : row ∈ writes.filterMap Write.subRow) : .sub row ∈ writes := by
  obtain ⟨write, listed, same⟩ := mem_filterMap.mp mem
  cases write with
  | sub _ =>
    cases same
    exact listed
  | record _ => cases same

theorem mem_recordRows {row : SubscriptionPreConsumeRecord}
    (mem : row ∈ writes.filterMap Write.recordRow) : .record row ∈ writes := by
  obtain ⟨write, listed, same⟩ := mem_filterMap.mp mem
  cases write with
  | sub _ => cases same
  | record _ =>
    cases same
    exact listed

variable (writes : List Write)

theorem applyAll_eq (db : Db) : applyAll writes db = { db with
      subs := (writes.filterMap Write.subRow).foldl save db.subs
      records := (writes.filterMap Write.recordRow).foldl save db.records } := by
  induction writes generalizing db with
  | nil => rfl
  | cons write rest tail =>
    refine (tail (write.apply db)).trans ?_
    cases write <;> rfl

theorem applyAll_plans (db : Db) : (applyAll writes db).plans = db.plans := by rw [applyAll_eq]

theorem applyAll_subs (db : Db) :
    (applyAll writes db).subs = (writes.filterMap Write.subRow).foldl save db.subs := by rw [applyAll_eq]

theorem applyAll_records (db : Db) :
    (applyAll writes db).records = (writes.filterMap Write.recordRow).foldl save db.records := by rw [applyAll_eq]

/-- The committed tables, the writes of the open transactions and who holds which lock. -/
structure Shared where
  db : Db
  pending : Nat → List Write
  locks : Key → Option Nat

def quiet (db : Db) : Shared := ⟨db, fun _ => [], fun _ => none⟩

def Shared.view (shared : Shared) (pid : Nat) : Db := applyAll (shared.pending pid) shared.db

def Shared.free (shared : Shared) (pid : Nat) (key : Key) : Bool :=
  match shared.locks key with
  | none => true
  | some holder => holder == pid

def Shared.stage (shared : Shared) (pid : Nat) (write : Write) : Shared := { shared with
  pending := update shared.pending pid (shared.pending pid ++ [write])
  locks := update shared.locks write.key (some pid) }

def Shared.close (shared : Shared) (pid : Nat) (db : Db) : Shared where
  db := db
  pending := update shared.pending pid []
  locks key := if shared.locks key = some pid then none else shared.locks key

section Shared

variable (shared : Shared) {pid other : Nat} (write : Write) {key : Key} (db : Db)

@[simp]
theorem stage_pending_self : (shared.stage pid write).pending pid = shared.pending pid ++ [write] :=
  update_self ..

theorem mem_staged {shared : Shared} {write staged : Write} (mem : staged ∈ (shared.stage pid write).pending pid) :
    staged ∈ shared.pending pid ∨ staged = write := by
  rw [stage_pending_self] at mem
  exact (List.mem_append.mp mem).imp_right List.mem_singleton.mp

theorem stage_pending_other (ne : other ≠ pid) :
    (shared.stage pid write).pending other = shared.pending other := update_of_ne ne ..

@[simp]
theorem stage_locks_self : (shared.stage pid write).locks write.key = some pid := update_self ..

theorem stage_locks_other (ne : key ≠ write.key) :
    (shared.stage pid write).locks key = shared.locks key := update_of_ne ne ..

@[simp]
theorem close_pending_self : (shared.close pid db).pending pid = [] := update_self ..

theorem close_pending_other (ne : other ≠ pid) :
    (shared.close pid db).pending other = shared.pending other := update_of_ne ne ..

end Shared

def exec : Semantics Answer Shared := fun pid shared stmt =>
  match stmt with
  | .findRecord requestId => some ((shared.view pid).records.lookup requestId, shared)
  | .findActive now userId => some (activeSubscriptions now userId (shared.view pid), shared)
  | .findPlan id => some ((shared.view pid).plans.lookup id, shared)
  | .findSub id => some ((shared.view pid).subs.lookup id, shared)
  | .createRecord record =>
    if shared.free pid (.record record.requestId) then
      match (shared.view pid).records.lookup record.requestId with
      | some _ => some (false, shared)
      | none => some (true, shared.stage pid (.record record))
    else none
  | .saveSub _ row => if shared.free pid (.sub row.id) then some ((), shared.stage pid (.sub row)) else none
  | .saveRecord record =>
    if shared.free pid (.record record.requestId) then some ((), shared.stage pid (.record record)) else none
  | .commit => some ((), shared.close pid (shared.view pid))
  | .rollback => some ((), shared.close pid shared.db)

/-! The scripts. -/

abbrev Body (α : Type) := ExceptT String (Script Answer) α

def findRecord (requestId : String) : Body (Option SubscriptionPreConsumeRecord) := ask (Statement.findRecord requestId)

def findActive (now userId : Int) : Body (List UserSubscription) := ask (Statement.findActive now userId)

def findPlan (id : Int) : Body (Option SubscriptionPlan) := ask (Statement.findPlan id)

def findSub (id : Int) : Body (Option UserSubscription) := ask (Statement.findSub id)

def createRecord (record : SubscriptionPreConsumeRecord) : Body Bool := ask (Statement.createRecord record)

def saveSub (read row : UserSubscription) : Body Unit := ask (Statement.saveSub read row)

def saveRecord (record : SubscriptionPreConsumeRecord) : Body Unit := ask (Statement.saveRecord record)

def orNotFound {α : Type} : Option α → Body α
  | some val => pure val
  | none => throw recordNotFound

/-- `First`: a missing row is an error. -/
def firstSub (id : Int) : Body UserSubscription := findSub id >>= orNotFound

def firstRecord (requestId : String) : Body SubscriptionPreConsumeRecord := findRecord requestId >>= orNotFound

def getSubscriptionPlanByIdTx (id : Int) : Body SubscriptionPlan :=
  if id ≤ 0 then throw "invalid plan id" else findPlan id >>= orNotFound

def maybeResetUserSubscriptionWithPlanTx (sub : UserSubscription) (plan : SubscriptionPlan) (env : Env) :
    Body UserSubscription :=
  match dueReset env.utcOffset env.now plan sub with
  | .error e => throw e
  | .ok none => pure sub
  | .ok (some later) => do
    saveSub sub later
    pure later

def prepare (env : Env) (cand : UserSubscription) : Body UserSubscription := do
  let plan ← getSubscriptionPlanByIdTx cand.planId
  maybeResetUserSubscriptionWithPlanTx cand plan env

def replay (existing : SubscriptionPreConsumeRecord) : Body PreConsumeResult :=
  if existing.status = .refunded then throw alreadyRefunded
  else do
    let sub ← firstSub existing.userSubscriptionId
    pure (amountMeter.replayed sub existing.preConsumed)

def recover (requestId : String) (sub : UserSubscription) : Body PreConsumeResult := do
  let found ← findRecord requestId
  match found with
  | none => throw duplicateKey
  | some dup =>
    if dup.status = .refunded then throw alreadyRefunded
    else pure (amountMeter.replayed sub dup.preConsumed)

def charge (sub : UserSubscription) (amount : Int) : Body PreConsumeResult := do
  saveSub sub (amountMeter.int64.charged sub amount)
  pure (amountMeter.int64.receipt amount sub)

def consume (requestId : String) (userId amount : Int) (sub : UserSubscription) : Body PreConsumeResult := do
  let created ← createRecord ⟨requestId, userId, sub.id, amount, .consumed⟩
  if created then charge sub amount else recover requestId sub

def consumeFirst (env : Env) (requestId : String) (userId : Int) (modelName : String) (amount : Int) :
    List UserSubscription → Body PreConsumeResult
  | [] => throw s!"subscription quota insufficient, need={amount}"
  | cand :: rest => do
    let sub ← prepare env cand
    if amountMeter.int64.eligible modelName amount sub then consume requestId userId amount sub
    else consumeFirst env requestId userId modelName amount rest

def preConsumeTx (env : Env) (requestId : String) (userId : Int) (modelName : String) (amount : Int) :
    Body PreConsumeResult := do
  let existing ← findRecord requestId
  match existing with
  | some record => replay record
  | none =>
    let subs ← findActive env.now userId
    match subs with
    | [] => throw noActiveSubscription
    | first :: rest => consumeFirst env requestId userId modelName amount (first :: rest)

/-- `DB.Transaction`: commit the body, or roll it back. -/
def transaction {α : Type} (body : Body α) : Script Answer (Except String α) := do
  let res ← body.run
  match res with
  | .ok val =>
    let _ ← perform .commit
    pure (.ok val)
  | .error e =>
    let _ ← perform .rollback
    pure (.error e)

def preConsumeUserSubscription (env : Env) (requestId : String) (userId : Int) (modelName : String)
    (amount : Int) : Script Answer (Except String PreConsumeResult) :=
  if userId ≤ 0 then pure (.error "invalid userId")
  else if trimSpace requestId = "" then pure (.error "requestId is empty")
  else if amount ≤ 0 then pure (.error "amount must be > 0")
  else transaction (preConsumeTx env requestId userId modelName amount)

/-- By how much the usage of a subscription has moved. The source returns nothing in its place. -/
structure Moved where
  (subscriptionId amount : Int)

def adjust (userSubscriptionId delta : Int) (sub : UserSubscription) : Body Moved :=
  match amountMeter.int64.adjusted sub delta with
  | .error e => throw e
  | .ok changed => do
    saveSub sub changed
    pure ⟨userSubscriptionId, changed.amountUsed - sub.amountUsed⟩

def postConsumeTx (userSubscriptionId delta : Int) : Body Moved := do
  let sub ← firstSub userSubscriptionId
  adjust userSubscriptionId delta sub

def postConsumeUserSubscriptionDelta (userSubscriptionId delta : Int) : Script Answer (Except String Moved) :=
  if userSubscriptionId ≤ 0 then pure (.error "invalid userSubscriptionId")
  else if delta = 0 then pure (.ok ⟨userSubscriptionId, 0⟩)
  else transaction (postConsumeTx userSubscriptionId delta)

def mark (record : SubscriptionPreConsumeRecord) (moved : Moved) : Body Moved := do
  saveRecord { record with status := .refunded }
  pure moved

def refundTx (requestId : String) : Body Moved := do
  let record ← firstRecord requestId
  if record.status = .refunded then pure ⟨record.userSubscriptionId, 0⟩
  else if record.preConsumed ≤ 0 then mark record ⟨record.userSubscriptionId, 0⟩
  else do
    let moved ← ExceptT.mk (postConsumeUserSubscriptionDelta record.userSubscriptionId (-record.preConsumed))
    mark record moved

def refundSubscriptionPreConsume (requestId : String) : Script Answer (Except String Moved) :=
  if trimSpace requestId = "" then pure (.error "requestId is empty")
  else transaction (refundTx requestId)

end Tokengine.Model.Statements
