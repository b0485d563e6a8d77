import Tokengine.Service.Funding

/-! The refund of a pre-consumption under failing statements. The usage is returned in a transaction
that commits before the record is marked, so that every attempt which fails in between returns the
amount once more. -/

namespace Tokengine.Billing.RefundOnce
open Program Model Database Subscription Service.Funding Table

inductive Step where
  | findRecord
  | findSub
  | saveSub
  | commitSub
  | saveRecord
  | commitRecord

def failedStep (reads writes : List (Option String)) : Option Step :=
  match fault reads 0, fault reads 1, fault writes 0, fault writes 1, fault writes 2, fault writes 3 with
  | some _, _, _, _, _, _ => some .findRecord
  | none, some _, _, _, _, _ => some .findSub
  | none, none, some _, _, _, _ => some .saveSub
  | none, none, none, some _, _, _ => some .commitSub
  | none, none, none, none, some _, _ => some .saveRecord
  | none, none, none, none, none, some _ => some .commitRecord
  | none, none, none, none, none, none => none

def Step.reads : Step → Nat
  | .findRecord => 1
  | _ => 2

def Step.writes : Step → Nat
  | .findRecord => 0
  | .findSub => 0
  | .saveSub => 1
  | .commitSub => 2
  | .saveRecord => 3
  | .commitRecord => 4

def Step.afterUsage : Step → Bool
  | .saveRecord => true
  | .commitRecord => true
  | _ => false

def usageCommits : Nat → List (Option String) → List (Option String) → Nat
  | 0, _, _ => 0
  | attempts + 1, reads, writes =>
    match failedStep reads writes with
    | none => 1
    | some step =>
      step.afterUsage.toNat + usageCommits attempts (reads.drop step.reads) (writes.drop step.writes)

/-- A pre-consumption that is recorded and not refunded, with the subscription it was charged to. -/
structure Recorded (db : Db) (requestId : String) (record : SubscriptionPreConsumeRecord) (sub : UserSubscription) :
    Prop where
  named : Text.trimSpace requestId ≠ ""
  found : db.records.lookup requestId = some record
  consumed : record.status = .consumed
  charged : 0 < record.preConsumed
  positive : 0 < record.userSubscriptionId
  owner : db.subs.lookup record.userSubscriptionId = some sub

variable {sub : UserSubscription}

theorem Recorded.saved {db : Db} {requestId : String} {record : SubscriptionPreConsumeRecord}
    {changed : UserSubscription} (recorded : Recorded db requestId record sub) (same : changed.id = sub.id) :
    Recorded (saveSubscription changed db) requestId record changed := by
  refine { recorded with owner := ?_ }
  rw [← (lookup_some recorded.owner).2, ← same]
  exact lookup_save_self _ _

variable {e : String}

section Attempt

variable (meter : Meter) {world : World} {requestId : String} {record : SubscriptionPreConsumeRecord} {changed : UserSubscription} {subscriptionId delta : Int}

/-- A transaction of one statement, which may fail at the statement or when it commits. -/
def saveAlone (change : Db → Db) (world : World) : Except String Unit × World :=
  match fault world.writeFaults 0, fault world.writeFaults 1 with
  | some e, _ => (.error e, world.skip 0 1)
  | none, some e => (.error e, world.skip 0 2)
  | none, none => (.ok (), (world.skip 0 2).put (change world.db))

omit meter in
theorem transaction_save (change : Db → Db) : transaction (txSave change) world = saveAlone change world := by
  have second : fault (world.skip 0 1).writeFaults 0 = fault world.writeFaults 1 := fault_drop ..
  rw [transaction, saveAlone]
  cases save : fault world.writeFaults 0 with
  | some e => rw [txSave, txWrite_fault _ _ _ save]
  | none =>
    rw [txSave, txWrite_clear _ save rfl]
    dsimp only
    cases commit : fault world.writeFaults 1 with
    | some e => rw [dbWrite_fault _ (second.trans commit), World.skip_skip]
    | none => rw [dbWrite_clear _ (second.trans commit), World.skip_skip]; rfl

theorem postConsume_begins (positive : 0 < subscriptionId) (nonzero : delta ≠ 0)
    (found : world.db.subs.lookup subscriptionId = some sub) (fits : meter.adjusted sub delta = .ok changed) :
    meter.postConsume subscriptionId delta world = match fault world.readFaults 0 with
      | some e => (.error e, world.skip 1 0)
      | none => saveAlone (saveSubscription changed) (world.skip 1 0) := by
  rw [Meter.postConsume, if_neg (Int.not_le.mpr positive), if_neg nonzero]
  cases read : fault world.readFaults 0 with
  | some e => rw [transaction, Meter.postConsumeTx, bind_error (txRead_fault _ _ read)]
  | none =>
    rw [← transaction_save, transaction, Meter.postConsumeTx, bind_at, txRead_clear _ _ read, id, subscriptionById, found]
    simp only [fits]
    rfl

variable (recorded : Recorded world.db requestId record sub)
include recorded

theorem refundTx_begins (clear : fault world.readFaults 0 = none) : meter.refundTx requestId ⟨world, id⟩ =
      match meter.postConsume record.userSubscriptionId (-record.preConsumed) (world.skip 1 0) with
      | (.error e, reached) => (.error e, ⟨reached, id⟩)
      | (.ok (), reached) => txSave (saveRecord { record with status := .refunded }) ⟨reached, id⟩ := by
  have looked : txRead (recordByRequestId requestId) ⟨world, id⟩ = (.ok record, ⟨world.skip 1 0, id⟩) := by
    rw [txRead_clear _ _ clear, id, recordByRequestId, recorded.found]
  have consumed : record.status ≠ .refunded := by
    rw [recorded.consumed]
    decide
  rw [Meter.refundTx, bind_ok looked, if_neg consumed, if_neg (Int.not_le.mpr recorded.charged), bind_at, onGlobal,
    zoom_at]
  rcases meter.postConsume record.userSubscriptionId (-record.preConsumed) (world.skip 1 0) with ⟨e | _, reached⟩ <;> rfl

theorem refund_attempt (fits : meter.adjusted sub (-record.preConsumed) = .ok changed) :
    match failedStep world.readFaults world.writeFaults with
    | none => meter.refund requestId world = (.ok (), (world.skip 2 4).put
        (saveRecord { record with status := .refunded } (saveSubscription changed world.db)))
    | some step => ∃ e, meter.refund requestId world = (.error e, (world.skip step.reads step.writes).put
        (if step.afterUsage then saveSubscription changed world.db else world.db)) := by
  rw [Meter.refund, if_neg recorded.named, transaction, failedStep]
  cases read : fault world.readFaults 0 with
  | some e =>
    rw [Meter.refundTx, bind_error (txRead_fault _ _ read)]
    exact ⟨e, rfl⟩
  | none =>
    have charged := recorded.charged
    have nextRead : fault (world.skip 1 0).readFaults 0 = fault world.readFaults 1 := fault_drop ..
    have owner : (world.skip 1 0).db.subs.lookup record.userSubscriptionId = some sub := recorded.owner
    rw [refundTx_begins meter recorded read, postConsume_begins meter recorded.positive (by omega) owner fits, nextRead,
      World.skip_skip]
    cases fault world.readFaults 1 with
    | some e => exact ⟨e, rfl⟩
    | none =>
      have usage : ∀ n, fault (world.skip 2 0).writeFaults n = fault world.writeFaults n := fun _ => rfl
      simp only [saveAlone, usage, World.skip_skip]
      cases fault world.writeFaults 0 with
      | some e => exact ⟨e, rfl⟩
      | none =>
        cases fault world.writeFaults 1 with
        | some e => exact ⟨e, rfl⟩
        | none =>
          have mark : ∀ db n, fault ((world.skip 2 2).put db).writeFaults n = fault world.writeFaults (2 + n) :=
            fun _ _ => fault_drop ..
          have marks := @transaction_save ((world.skip 2 2).put (saveSubscription changed world.db))
            (saveRecord { record with status := .refunded })
          rw [saveAlone, mark, mark, World.put_skip, World.put_skip, World.skip_skip, World.skip_skip] at marks
          cases save : fault world.writeFaults 2 with
          | some e => exact ⟨e, marks.trans (by rw [save]; rfl)⟩
          | none =>
            cases commit : fault world.writeFaults 3 with
            | some e => exact ⟨e, marks.trans (by rw [save, commit]; rfl)⟩
            | none => exact marks.trans (by rw [save, commit]; rfl)

theorem refund_exceeds (exceeds : meter.adjusted sub (-record.preConsumed) = .error e) :
    ∃ e after, meter.refund requestId world = (.error e, after) ∧ Idle world after := by
  rw [Meter.refund, if_neg recorded.named, transaction]
  cases read : fault world.readFaults 0 with
  | some e =>
    have idle := txRead_confined (recordByRequestId requestId) ⟨world, id⟩
    rw [txRead_fault _ _ read] at idle
    rw [Meter.refundTx, bind_error (txRead_fault _ _ read)]
    exact ⟨e, _, rfl, idle⟩
  | none =>
    have idle := dbRead_idle (recordByRequestId requestId) world
    rw [dbRead_clear _ read] at idle
    rw [refundTx_begins meter recorded read]
    rcases returned : meter.postConsume record.userSubscriptionId (-record.preConsumed) (world.skip 1 0) with
      ⟨e | _, after⟩
    · exact ⟨e, after, rfl, Idle.trans idle (postConsume_error meter returned)⟩
    have charged := recorded.charged
    obtain ⟨zero, _⟩ | ⟨sub', changed, found, fits, _⟩ := postConsume_ok meter returned
    · omega
    · cases recorded.owner.symm.trans found
      rw [exceeds] at fits
      cases fits

end Attempt

/-! Usage that is returned again and again. -/

/-- What is left of the usage after `amount` has been returned a number of times. -/
def decline (amount : Int) : Nat → Int → Int
  | 0, used => used
  | commits + 1, used => decline amount commits (max (used + -amount) 0)

variable {amount : Int}

theorem decline_bounds (positive : 0 < amount) (commits : Nat) {used : Int} (nonneg : 0 ≤ used) :
    0 ≤ decline amount commits used ∧ decline amount commits used ≤ used := by
  induction commits generalizing used with
  | zero => exact ⟨nonneg, Int.le_refl used⟩
  | succ commits tail =>
    have bounds := tail (Int.le_max_right (used + -amount) 0)
    rw [decline]
    omega

theorem decline_at_most (positive : 0 < amount) (commits : Nat) (used : Int) :
    used - decline amount commits used ≤ amount ↔ commits ≤ 1 ∨ used ≤ amount := by
  match commits with
  | 0 => simp only [decline]; omega
  | 1 => simp only [decline]; omega
  | commits + 2 =>
    have bounds := decline_bounds positive commits (Int.le_max_right (max (used + -amount) 0 + -amount) 0)
    rw [decline, decline]
    omega

theorem decline_exact (positive : 0 < amount) {commits : Nat} (committed : 0 < commits) {used : Int}
    (bounded : commits ≤ 1 ∨ used ≤ amount) (enough : amount ≤ used) : used - decline amount commits used = amount := by
  obtain ⟨commits, rfl⟩ := Nat.exists_eq_succ_of_ne_zero committed.ne'
  rw [decline]
  rcases bounded with once | small
  · obtain rfl : commits = 0 := by omega
    rw [decline]
    omega
  · have bounds := decline_bounds positive commits (Int.le_max_right (used + -amount) 0)
    omega

variable {world : World}

section Retry

variable (meter : Meter) {requestId : String} {record : SubscriptionPreConsumeRecord} {after : World}
  {fn : Program World String Unit} {lastErr res : Except String Unit}

omit meter in
theorem retry_ok (done : fn world = (.ok (), after))
    (lastErr : Except String Unit) (attempts : Nat) : retry fn lastErr (attempts + 1) world = (.ok (), after) := by
  rw [retry, attempt_bind, done]
  rfl

omit meter in
theorem retry_error (failed : fn world = (.error e, after)) (lastErr : Except String Unit) (attempts : Nat) :
    retry fn lastErr (attempts + 1) world = retry fn (.error e) attempts after := by
  rw [retry, attempt_bind, failed]

variable (attempts : Nat) (started : attempts = 0 → lastErr ≠ .ok ())
  (recorded : Recorded world.db requestId record sub)
  (run : retry (meter.refund requestId) lastErr attempts world = (res, after))
include started recorded run

theorem retry_refunds [meter.Exact]
    (fits : meter.limit sub ≤ 0 ∨ meter.used sub + -record.preConsumed ≤ meter.limit sub) :
    after.db.subs.lookup record.userSubscriptionId = some (meter.setUsed
      (decline record.preConsumed (usageCommits attempts world.readFaults world.writeFaults) (meter.used sub)) sub) ∧
    (res = .ok () → 0 < usageCommits attempts world.readFaults world.writeFaults ∧
      after.db.records.lookup requestId = some { record with status := .refunded }) := by
  induction attempts generalizing lastErr world sub with
  | zero =>
    cases run
    refine ⟨?_, fun ok => absurd ok (started rfl)⟩
    rw [usageCommits, decline, meter.setUsed_used]
    exact recorded.owner
  | succ attempts tail =>
    have attempted := refund_attempt meter recorded (adjusted_within meter sub _ fits)
    rw [usageCommits]
    cases failed : failedStep world.readFaults world.writeFaults with
    | none =>
      rw [failed] at attempted
      rw [retry_ok attempted] at run
      cases run
      refine ⟨(recorded.saved (meter.id_setUsed _ _)).owner, fun _ => ⟨Nat.one_pos, ?_⟩⟩
      rw [← (lookup_some recorded.found).2]
      exact lookup_save_self _ _
    | some step =>
      rw [failed] at attempted
      obtain ⟨e, attempted⟩ := attempted
      rw [retry_error attempted] at run
      have erred : attempts = 0 → (Except.error e : Except String Unit) ≠ .ok () := fun _ => nofun
      dsimp only
      cases passed : step.afterUsage with
      | false =>
        rw [passed] at run
        have still : Recorded ((world.skip step.reads step.writes).put world.db).db requestId record sub := recorded
        rw [Bool.toNat_false, Nat.zero_add]
        exact tail erred still run fits
      | true =>
        rw [passed] at run
        generalize changes : meter.setUsed (max (meter.used sub + -record.preConsumed) 0) sub = changed at run
        have later : Recorded ((world.skip step.reads step.writes).put (saveSubscription changed world.db)).db requestId
            record changed := recorded.saved (changes ▸ meter.id_setUsed _ _)
        have charged := recorded.charged
        have stillFits : meter.limit changed ≤ 0 ∨ meter.used changed + -record.preConsumed ≤ meter.limit changed := by
          rw [← changes, meter.limit_setUsed, meter.used_setUsed]
          omega
        obtain ⟨used, marked⟩ := tail erred later run stillFits
        rw [← changes, meter.setUsed_setUsed, meter.used_setUsed] at used
        rw [Bool.toNat_true, Nat.add_comm]
        exact ⟨used, fun ok => ⟨Nat.succ_pos _, (marked ok).2⟩⟩

theorem retry_exceeds (exceeds : meter.adjusted sub (-record.preConsumed) = .error e) :
    after.db = world.db ∧ res ≠ .ok () := by
  induction attempts generalizing lastErr world with
  | zero =>
    cases run
    exact ⟨rfl, started rfl⟩
  | succ attempts tail =>
    obtain ⟨e, reached, attempted, idle⟩ := refund_exceeds meter recorded exceeds
    rw [retry_error attempted] at run
    have erred : attempts = 0 → (Except.error e : Except String Unit) ≠ .ok () := fun _ => nofun
    rw [← idle.db_eq] at recorded ⊢
    exact tail erred recorded run

end Retry

def refundedOnce (requestId : String) (record : SubscriptionPreConsumeRecord) (sub : UserSubscription)
    (res : Except String Unit) (after : World) : Prop :=
  let returned := sub.amountUsed - after.db.subs.column UserSubscription.amountUsed record.userSubscriptionId
  returned ≤ record.preConsumed ∧
    (res = .ok () → (record.preConsumed ≤ sub.amountUsed → returned = record.preConsumed) ∧
      (after.db.records.lookup requestId).map SubscriptionPreConsumeRecord.status = some .refunded)

/-- A refund is made at most once exactly when at most one attempt commits the change of usage, when there is no more
usage than one refund returns, or when the change is refused. -/
theorem refund_at_most_once_iff (world : World) (requestId : String) (record : SubscriptionPreConsumeRecord)
    (sub : UserSubscription) (recorded : Recorded world.db requestId record sub) (res : Except String Unit)
    (after : World) (run : refundWithRetry (refundSubscriptionPreConsume requestId) world = (res, after)) :
    refundedOnce requestId record sub res after ↔
      usageCommits 3 world.readFaults world.writeFaults ≤ 1 ∨ sub.amountUsed ≤ record.preConsumed ∨
        0 < sub.amountTotal ∧ sub.amountTotal < sub.amountUsed - record.preConsumed := by
  have charged := recorded.charged
  by_cases fits : sub.amountTotal ≤ 0 ∨ sub.amountUsed + -record.preConsumed ≤ sub.amountTotal
  · obtain ⟨owner, marked⟩ := retry_refunds amountMeter 3 nofun recorded run fits
    have used : after.db.subs.column UserSubscription.amountUsed record.userSubscriptionId =
        decline record.preConsumed (usageCommits 3 world.readFaults world.writeFaults) sub.amountUsed :=
      column_of_lookup owner _
    have bound := decline_at_most charged (usageCommits 3 world.readFaults world.writeFaults) sub.amountUsed
    simp only [refundedOnce, used]
    constructor
    · rintro ⟨atMost, _⟩
      exact (bound.mp atMost).imp_right Or.inl
    intro condition
    have bounded : usageCommits 3 world.readFaults world.writeFaults ≤ 1 ∨ sub.amountUsed ≤ record.preConsumed := by
      omega
    refine ⟨bound.mpr bounded, fun ok => ?_⟩
    obtain ⟨committed, found⟩ := marked ok
    refine ⟨decline_exact charged committed bounded, ?_⟩
    rw [found]
    rfl
  · obtain ⟨e, exceeds⟩ := adjusted_exceeds amountMeter sub (-record.preConsumed)
      (by change 0 < sub.amountTotal; omega) (by change sub.amountTotal < sub.amountUsed + _; omega)
    obtain ⟨same, failed⟩ := retry_exceeds amountMeter 3 nofun recorded run exceeds
    have unused : after.db.subs.column UserSubscription.amountUsed record.userSubscriptionId = sub.amountUsed := by
      rw [same]
      exact column_of_lookup recorded.owner _
    refine ⟨fun _ => by omega, fun _ => ⟨by omega, fun ok => absurd ok failed⟩⟩

def refundDb : Db := { emptyDb with
  subs := Table.empty.save ⟨3, 1, 5, 100, 60, 0, 2000, .active, 0, 0, 0, 0, ""⟩
  records := Table.empty.save ⟨"request", 1, 3, 30, .consumed⟩ }

theorem refundDb_recorded : Recorded refundDb "request" ⟨"request", 1, 3, 30, .consumed⟩
    ⟨3, 1, 5, 100, 60, 0, 2000, .active, 0, 0, 0, 0, ""⟩ :=
  ⟨by decide, by decide, rfl, by decide, by decide, by decide⟩

/-- The driver refuses the change of usage once; the second attempt succeeds. -/
theorem refundDb_refunds_once : ∃ res after, refundWithRetry (refundSubscriptionPreConsume "request")
        ⟨plainEnv, refundDb, [], [some "deadlock"]⟩ = (res, after) ∧
      refundedOnce "request" ⟨"request", 1, 3, 30, .consumed⟩ ⟨3, 1, 5, 100, 60, 0, 2000, .active, 0, 0, 0, 0, ""⟩
        res after :=
  ⟨_, _, rfl, (refund_at_most_once_iff ⟨plainEnv, refundDb, [], [some "deadlock"]⟩ "request" _ _ refundDb_recorded _ _
    rfl).mpr (Or.inl (by decide))⟩

/-- The driver refuses to mark the record: the second attempt returns the amount again, and what another request
has used is gone. -/
theorem refundDb_refunds_twice : ∃ after, refundWithRetry (refundSubscriptionPreConsume "request")
        ⟨plainEnv, refundDb, [], [none, none, some "deadlock"]⟩ = (.ok (), after) ∧
      refundDb.subs.column UserSubscription.amountUsed 3 = 60 ∧ after.db.subs.column UserSubscription.amountUsed 3 = 0 :=
  ⟨_, rfl, by decide, by decide⟩

end Tokengine.Billing.RefundOnce
