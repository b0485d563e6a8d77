import Mathlib
import Tokengine.Lib.Totals
import Tokengine.Model.Locks
import Tokengine.Model.Wrapping

/-! Interleaved changes of the usage of subscriptions add up as long as no row is written that has
changed since it was read, and the usage does not stop at 0 or overflow. -/

namespace Tokengine.Billing.LostUpdate
open Interleaving Model Database ResetTime Subscription Statements List Function Option Table Runs
open Wrapping (wrap64_of_inRange)

inductive Op where
  | preConsume (requestId : String) (userId : Int) (modelName : String) (amount : Int)
  | postConsumeDelta (userSubscriptionId delta : Int)
  | refund (requestId : String)

def receipted (res : PreConsumeResult) : Moved := ⟨res.userSubscriptionId, res.usedAfter - res.usedBefore⟩

def Op.script (env : Env) : Op → Script Answer (Except String Moved)
  | .preConsume requestId userId modelName amount => do
    let res ← Statements.preConsumeUserSubscription env requestId userId modelName amount
    pure (res.map receipted)
  | .postConsumeDelta id delta => Statements.postConsumeUserSubscriptionDelta id delta
  | .refund requestId => Statements.refundSubscriptionPreConsume requestId

def Op.requestId : Op → Option String
  | .preConsume requestId _ _ _ => some requestId
  | .postConsumeDelta _ _ => none
  | .refund requestId => some requestId

def start (env : Env) (db : Db) (ops : List Op) : Machine Answer Shared (Except String Moved) :=
  ⟨quiet db, ops.map (Op.script env)⟩

/-- What the operation adds to the usage of a subscription if it succeeds. -/
def Op.delta (db : Db) : Op → Int
  | .preConsume requestId _ _ amount => if (db.records.lookup requestId).isSome then 0 else amount
  | .postConsumeDelta _ delta => delta
  | .refund requestId =>
    match db.records.lookup requestId with
    | some record => if record.status = .refunded ∨ record.preConsumed ≤ 0 then 0 else -record.preConsumed
    | none => 0

/-- The subscription that the operation names. A pre-consumption chooses one. -/
def Op.subscription (db : Db) : Op → Option Int
  | .preConsume _ _ _ _ => none
  | .postConsumeDelta id _ => some id
  | .refund requestId => (db.records.lookup requestId).map SubscriptionPreConsumeRecord.userSubscriptionId

def deltaOf (db : Db) (ops : List Op) (pid : Nat) : Int := ops[pid]?.elim 0 (Op.delta db)

/-- The table still holds the row as it was read, and the change takes the usage neither below 0 nor out of `int64`. -/
def rowUnchanged (delta : Nat → Int) (shared : Shared) (pid : Nat) : Statement → Prop
  | .saveSub read _ => shared.db.subs.lookup read.id = some read ∧ 0 ≤ read.amountUsed + delta pid ∧
    read.amountUsed + delta pid < 2 ^ 63
  | _ => True

def usedOf (db : Db) (id : Int) : Int := db.subs.column UserSubscription.amountUsed id

def contribution (id : Int) : Except String Moved → Int
  | .ok moved => if id = moved.subscriptionId then moved.amount else 0
  | .error _ => 0

structure Op.Moves (db : Db) (op : Op) (moved : Moved) : Prop where
  amount : moved.amount = op.delta db
  subscription : ∀ id, op.subscription db = some id → moved.subscriptionId = id

def Steady (env : Env) (db : Db) (sub : UserSubscription) : Prop :=
  ∀ plan, db.plans.lookup sub.planId = some plan → dueReset env.utcOffset env.now plan sub = .ok none

/-! What each process accounts for. -/

structure Account where
  /-- The row that the open transaction has read and the one it has written. -/
  staged : Option (UserSubscription × UserSubscription)
  /-- What the committed transactions have moved. -/
  moved : Int → Int
  /-- The process has not written its record yet. -/
  untouched : Bool

def difference : Option (UserSubscription × UserSubscription) → Int → Int
  | none => 0
  | some (read, row) => Pi.single read.id (row.amountUsed - read.amountUsed)

section Discipline

variable (env : Env) (db : Db) (own : Option String) (delta : Int)

def allowed (acct : Account) : Statement → Prop
  | .saveSub read row => acct.staged = none ∧ row = { read with amountUsed := row.amountUsed }
  | .createRecord record => own = some record.requestId
  | .saveRecord record => own = some record.requestId
  | _ => True

def answered (acct : Account) : (stmt : Statement) → Answer stmt → Prop
  | .findRecord requestId, found =>
    own = some requestId → acct.untouched = true → found = db.records.lookup requestId
  | .findActive _ _, rows => ∀ row ∈ rows, Steady env db row
  | .findPlan id, found => found = db.plans.lookup id
  | .findSub id, found => ∀ sub, found = some sub → sub.id = id
  | .createRecord record, created =>
    acct.untouched = true → created = (db.records.lookup record.requestId).isNone
  | .saveSub read _, _ => 0 ≤ read.amountUsed + delta ∧ read.amountUsed + delta < 2 ^ 63
  | _, _ => True

def track (acct : Account) : (stmt : Statement) → Answer stmt → Account
  | .saveSub read row, _ => { acct with staged := some (read, row) }
  | .createRecord _, _ => { acct with untouched := false }
  | .saveRecord _, _ => { acct with untouched := false }
  | .commit, _ => { acct with staged := none, moved := acct.moved + difference acct.staged }
  | .rollback, _ => { acct with staged := none }
  | _, _ => acct

def discipline : Discipline Answer Account := ⟨allowed own, answered env db own delta, track⟩

end Discipline

/-- An account agrees with what its process has pending and with the rows it relies on. -/
structure Stands (db : Db) (own : Option String) (shared : Shared) (pid : Nat) (acct : Account) : Prop where
  rows : (shared.pending pid).filterMap Write.subRow = (acct.staged.map Prod.snd).toList
  read : ∀ read row, acct.staged = some (read, row) →
    shared.db.subs.lookup read.id = some read ∧ row = { read with amountUsed := row.amountUsed }
  records : ∀ record, .record record ∈ shared.pending pid → own = some record.requestId ∧ acct.untouched = false
  fresh : ∀ requestId, own = some requestId → acct.untouched = true →
    shared.db.records.lookup requestId = db.records.lookup requestId

structure Balanced (env : Env) (db : Db) (own : Nat → Option String) (count : Nat) (shared : Shared)
    (accts : Nat → Account) : Prop where
  total : ∀ id, usedOf shared.db id = usedOf db id + ∑ pid ∈ Finset.range count, (accts pid).moved id
  locked : Locked shared
  plans : shared.db.plans = db.plans
  steady : ∀ id row, shared.db.subs.lookup id = some row → Steady env db row
  stands : ∀ pid, Stands db (own pid) shared pid (accts pid)

variable {sub : UserSubscription}

theorem Steady.used {env : Env} {db : Db} (steady : Steady env db sub) (used : Int) :
    Steady env db { sub with amountUsed := used } :=
  fun plan planned => dueReset_none_used (steady plan planned) used

variable {other : Nat} {row : UserSubscription} {acct : Account}

section Steps

variable {env : Env} {db : Db} {own : Nat → Option String} {count : Nat} {shared : Shared}
  {accts : Nat → Account} {pid : Nat}

theorem recordRows_none {writes : List Write} (none : ∀ record, .record record ∉ writes) :
    writes.filterMap Write.recordRow = [] := by
  rw [filterMap_eq_nil_iff]
  intro write member
  cases write with
  | sub row => rfl
  | record row => exact absurd member (none row)

theorem stands_update {later : Shared} (mine : Stands db (own pid) later pid acct)
    (others : ∀ other, other ≠ pid → Stands db (own other) later other (accts other)) (other : Nat) :
    Stands db (own other) later other (update accts pid acct other) := by
  by_cases same : other = pid
  · subst same
    rw [update_self]
    exact mine
  · rw [update_of_ne same]
    exact others other same

section

variable {own : Option String} (stands : Stands db own shared pid acct) {record : SubscriptionPreConsumeRecord}
  {read : UserSubscription}
include stands

theorem Stands.stage_record (mine : own = some record.requestId) :
    Stands db own (shared.stage pid (.record record)) pid { acct with untouched := false } where
  rows := by
    rw [stage_pending_self, filterMap_append, stands.rows]
    exact append_nil _
  read := stands.read
  records written member := by
    rcases mem_staged member with old | new
    · exact ⟨(stands.records written old).1, rfl⟩
    · cases new
      exact ⟨mine, rfl⟩
  fresh _ _ untouched := by cases untouched

theorem Stands.stage_sub (nothing : acct.staged = none) (present : shared.db.subs.lookup read.id = some read)
    (only : row = { read with amountUsed := row.amountUsed }) :
    Stands db own (shared.stage pid (.sub row)) pid { acct with staged := some (read, row) } where
  rows := by
    rw [stage_pending_self, filterMap_append, stands.rows, nothing]
    rfl
  read _ _ staged := by
    cases staged
    exact ⟨present, only⟩
  records written member := by
    rcases mem_staged member with old | new
    · exact stands.records written old
    · cases new
  fresh := stands.fresh

theorem Stands.touched : Stands db own shared pid { acct with untouched := false } :=
  ⟨stands.rows, stands.read, fun record member => ⟨(stands.records record member).1, rfl⟩, nofun⟩

theorem Stands.rollback : Stands db own (shared.close pid shared.db) pid { acct with staged := none } where
  rows := by rw [close_pending_self]; rfl
  read _ _ staged := by cases staged
  records _ member := by
    rw [close_pending_self] at member
    cases member
  fresh := stands.fresh

theorem Stands.pending_row (staged : acct.staged = some (read, row)) : .sub row ∈ shared.pending pid := by
  apply mem_subRows
  rw [stands.rows, staged]
  exact mem_singleton_self row

end

variable (balanced : Balanced env db own count shared accts)
include balanced

theorem Balanced.view_record {requestId : String} (mine : own pid = some requestId)
    (untouched : (accts pid).untouched = true) :
    (shared.view pid).records.lookup requestId = db.records.lookup requestId := by
  have none : ∀ record, .record record ∉ shared.pending pid := by
    intro record member
    rw [((balanced.stands pid).records record member).2] at untouched
    cases untouched
  rw [Shared.view, applyAll_records, recordRows_none none]
  exact (balanced.stands pid).fresh requestId mine untouched

theorem Balanced.view_steady {id : Int} (found : (shared.view pid).subs.lookup id = some row) : Steady env db row := by
  rw [Shared.view, applyAll_subs, (balanced.stands pid).rows] at found
  cases staged : (accts pid).staged with
  | none =>
    rw [staged] at found
    exact balanced.steady id row found
  | some pair =>
    obtain ⟨read, written⟩ := pair
    obtain ⟨present, same⟩ := (balanced.stands pid).read read written staged
    rw [staged] at found
    change (shared.db.subs.save written).lookup id = some row at found
    rw [lookup_save] at found
    split at found
    · cases found
      rw [same]
      exact (balanced.steady read.id read present).used _
    · exact balanced.steady id row found

theorem Balanced.commit_used (id : Int) :
    usedOf (shared.view pid) id = usedOf shared.db id + difference (accts pid).staged id := by
  rw [usedOf, Shared.view, applyAll_subs, (balanced.stands pid).rows]
  cases staged : (accts pid).staged with
  | none => exact (Int.add_zero _).symm
  | some pair =>
    obtain ⟨read, row⟩ := pair
    obtain ⟨present, only⟩ := (balanced.stands pid).read read row staged
    have sameId : row.id = read.id := by rw [only]
    change (shared.db.subs.save row).column UserSubscription.amountUsed id =
      _ + (Pi.single read.id (row.amountUsed - read.amountUsed) : Int → Int) id
    rw [column, lookup_save, sameId]
    by_cases here : id = read.id
    · rw [if_pos here, here, Pi.single_eq_same, usedOf, column_of_lookup present]
      change row.amountUsed = _
      omega
    · rw [if_neg here, Pi.single_eq_of_ne here, Int.add_zero]
      rfl

variable (distinct : ∀ first second requestId, own first = some requestId → own second = some requestId → first = second)

include distinct in
theorem Balanced.stands_commit_other (ne : other ≠ pid) :
    Stands db (own other) (shared.close pid (shared.view pid)) other (accts other) := by
  have stands := balanced.stands other
  have same := close_pending_other shared (shared.view pid) ne
  refine ⟨by rw [same]; exact stands.rows, ?_, by rw [same]; exact stands.records, ?_⟩
  · intro read row staged
    obtain ⟨present, only⟩ := stands.read read row staged
    refine ⟨?_, only⟩
    have others : ∀ written ∈ (shared.pending pid).filterMap Write.subRow, written.id ≠ read.id := by
      intro written member clash
      have sameKey : (Write.sub written).key = (Write.sub row).key := by
        rw [only]
        exact congrArg Key.sub clash
      exact ne (balanced.locked.exclusive (stands.pending_row staged) (mem_subRows member) sameKey.symm)
    change (shared.view pid).subs.lookup read.id = some read
    rw [Shared.view, applyAll_subs, lookup_saves others]
    exact present
  · intro requestId mine untouched
    have others : ∀ written ∈ (shared.pending pid).filterMap Write.recordRow, written.requestId ≠ requestId := by
      intro written member clash
      have theirs := ((balanced.stands pid).records written (mem_recordRows member)).1
      rw [clash] at theirs
      exact ne (distinct other pid requestId mine theirs)
    change (shared.view pid).records.lookup requestId = _
    rw [Shared.view, applyAll_records, lookup_saves others]
    exact stands.fresh requestId mine untouched

theorem Balanced.stands_commit : Stands db (own pid) (shared.close pid (shared.view pid)) pid
      { accts pid with staged := none, moved := (accts pid).moved + difference (accts pid).staged } where
  rows := by rw [close_pending_self]; rfl
  read _ _ staged := by cases staged
  records _ member := by
    rw [close_pending_self] at member
    cases member
  fresh requestId mine untouched := balanced.view_record mine untouched

theorem Balanced.total_kept (inside : pid < count) (acct : Account) (same : acct.moved = (accts pid).moved)
    (id : Int) : usedOf shared.db id = usedOf db id +
      ∑ other ∈ Finset.range count, (update accts pid acct other).moved id := by
  rw [balanced.total, sum_range_update inside accts acct fun acct => acct.moved id, same]
  omega

/-- The writes of one process do not show in the account of another before they are committed. -/
theorem Balanced.uncommitted {after : Shared} (inside : pid < count) (locked : Locked after) (same : after.db = shared.db)
    (others : ∀ other, other ≠ pid → after.pending other = shared.pending other)
    (unmoved : acct.moved = (accts pid).moved) (mine : Stands db (own pid) after pid acct) :
    Balanced env db own count after (update accts pid acct) := by
  obtain ⟨store, pending, locks⟩ := after
  cases same
  refine ⟨balanced.total_kept inside acct unmoved, locked, balanced.plans, balanced.steady,
    stands_update mine fun other ne => ?_⟩
  obtain ⟨rows, read, records, fresh⟩ := balanced.stands other
  rw [← others other ne] at rows records
  exact ⟨rows, read, records, fresh⟩

include distinct in
omit balanced in
/-- Every statement keeps the accounts in balance, provided that it does not overwrite a row that has changed. -/
theorem balanced_preserved (delta : Nat → Int) : Preserved exec (fun pid => discipline env db (own pid) (delta pid))
    (Balanced env db own count) (rowUnchanged delta) count := by
  intro pid shared accts stmt answer after inside balanced kept unchanged ran
  have locked := locked_effect balanced.locked (exec_effect ran)
  have stands := balanced.stands pid
  have still : Balanced env db own count shared (update accts pid (accts pid)) := by
    rw [update_eq_self]
    exact balanced
  cases exec_effect ran with
  | findRecord requestId => exact ⟨fun mine untouched => balanced.view_record mine untouched, still⟩
  | findActive now userId =>
    exact ⟨fun row member => balanced.view_steady (lookup_of_mem (activeSubscriptions_mem member).1), still⟩
  | findPlan id =>
    refine ⟨?_, still⟩
    change (shared.view pid).plans.lookup id = _
    rw [Shared.view, applyAll_plans, balanced.plans]
  | findSub id =>
    exact ⟨fun sub found => (lookup_some found).2, still⟩
  | taken record existing found =>
    refine ⟨?_, ?_⟩
    · intro untouched
      have same := balanced.view_record kept untouched
      rw [found] at same
      rw [← same]
      rfl
    · exact balanced.uncommitted inside locked rfl (fun _ _ => rfl) rfl stands.touched
  | created record free missing =>
    refine ⟨?_, ?_⟩
    · intro untouched
      have same := balanced.view_record kept untouched
      rw [missing] at same
      rw [← same]
      rfl
    · exact balanced.uncommitted inside locked rfl (fun _ => stage_pending_other _ _) rfl (stands.stage_record kept)
  | saveSub read row free =>
    exact ⟨unchanged.2, balanced.uncommitted inside locked rfl (fun _ => stage_pending_other _ _) rfl
      (stands.stage_sub kept.1 unchanged.1 kept.2)⟩
  | saveRecord record free =>
    exact ⟨trivial, balanced.uncommitted inside locked rfl (fun _ => stage_pending_other _ _) rfl (stands.stage_record kept)⟩
  | commit =>
    refine ⟨trivial, fun id => ?_, locked, ?_, fun id row found => balanced.view_steady found,
      stands_update balanced.stands_commit fun other ne => balanced.stands_commit_other distinct ne⟩
    · change usedOf (shared.view pid) id = _
      rw [balanced.commit_used, balanced.total, sum_range_update inside accts _ fun acct => acct.moved id]
      change _ = _ + (_ + ((accts pid).moved id + difference (accts pid).staged id - (accts pid).moved id))
      omega
    · change (shared.view pid).plans = db.plans
      rw [Shared.view, applyAll_plans, balanced.plans]
  | rollback =>
    exact ⟨trivial, balanced.uncommitted inside locked rfl (fun _ => close_pending_other _ _) rfl stands.rollback⟩

end Steps

/-! Every operation keeps to the discipline. -/

def Staged {α : Type} (view : α → Moved) (good : α → Prop) (acct : Account) : Except String α → Prop
  | .ok val => acct.moved + difference acct.staged =
      Pi.single (view val).subscriptionId (view val).amount ∧ good val
  | .error _ => acct.moved = 0

def Committed {α : Type} (view : α → Moved) (good : α → Prop) (acct : Account) (res : Except String α) : Prop :=
  acct.staged = none ∧
    match res with
    | .ok val => acct.moved = Pi.single (view val).subscriptionId (view val).amount ∧ good val
    | .error _ => acct.moved = 0

variable {amount : Int}

variable {env : Env} {db : Db} {own : Option String} {delta : Int} {α : Type} {view : α → Moved} {good : α → Prop}

theorem meets_transaction {body : Body α}
    (first : Script.Meets (discipline env db own delta) (Staged view good) body acct) :
    (transaction body).Meets (discipline env db own delta) (Committed view good) acct := by
  apply meets_bind first
  intro acct res staged
  cases res <;> exact ⟨trivial, fun _ _ => ⟨rfl, staged⟩⟩

def Account.Clean (acct : Account) : Prop := acct.staged = none ∧ acct.moved = 0

theorem clean_moved (clean : acct.Clean) (subscriptionId : Int) :
    acct.moved + difference acct.staged = Pi.single subscriptionId 0 := by
  rw [clean.1, clean.2, Pi.single_zero]
  rfl

def Charged (amount : Int) : Account → Except String PreConsumeResult → Prop :=
  Staged receipted fun res => (receipted res).amount = amount

theorem meets_charge (clean : acct.Clean) : Script.Meets (discipline env db own amount) (Charged amount)
      (charge sub amount) acct := by
  refine meets_ask ⟨clean.1, rfl⟩ fun _ (within : 0 ≤ sub.amountUsed + amount ∧ _) => meets_pure ⟨?_, ?_⟩
  · change acct.moved + _ = _
    rw [clean.2, zero_add]
    rfl
  · change wrap64 (sub.amountUsed + amount) - sub.amountUsed = amount
    rw [wrap64_of_inRange ⟨by omega, within.2⟩]
    omega

def HandedOn (acct : Account) (cand : UserSubscription) (reached : Account) (res : Except String UserSubscription) :
    Prop :=
  reached = acct ∧ ∀ sub, res = .ok sub → sub = cand

theorem meets_prepare {cand : UserSubscription} (steady : Steady env db cand) :
    Script.Meets (discipline env db own delta) (HandedOn acct cand) (prepare env cand) acct := by
  unfold prepare Statements.getSubscriptionPlanByIdTx
  split
  · exact ⟨rfl, by simp⟩
  refine meets_ask trivial fun answer relied => ?_
  cases answer with
  | none => exact ⟨rfl, by simp⟩
  | some plan =>
    have planned : db.plans.lookup cand.planId = some plan := relied.symm
    change Script.Meets _ _ (Statements.maybeResetUserSubscriptionWithPlanTx cand plan env) acct
    rw [Statements.maybeResetUserSubscriptionWithPlanTx, steady plan planned]
    exact ⟨rfl, by simp⟩

structure Fresh (db : Db) (own : Option String) (requestId : String) (acct : Account) : Prop where
  mine : own = some requestId
  missing : db.records.lookup requestId = none
  staged : acct.staged = none
  moved : acct.moved = 0
  untouched : acct.untouched = true

variable {requestId : String} {good : Moved → Prop}

theorem meets_consume (fresh : Fresh db own requestId acct) (userId : Int) :
    Script.Meets (discipline env db own amount) (Charged amount) (consume requestId userId amount sub) acct := by
  refine meets_ask fresh.mine fun created relied => ?_
  have free : created = true := by
    have known := relied fresh.untouched
    rw [fresh.missing] at known
    exact known
  rw [if_pos free]
  apply meets_charge
  exact ⟨fresh.staged, fresh.moved⟩

theorem meets_consumeFirst (fresh : Fresh db own requestId acct) (userId : Int) (modelName : String)
    (cands : List UserSubscription) (steady : ∀ row ∈ cands, Steady env db row) :
    Script.Meets (discipline env db own amount) (Charged amount)
      (consumeFirst env requestId userId modelName amount cands) acct := by
  induction cands with
  | nil => exact fresh.moved
  | cons cand rest tail =>
    refine meets_fallible_bind (meets_prepare (steady cand mem_cons_self)) ?_ ?_
    · rintro _ sub ⟨rfl, same⟩
      split
      · exact meets_consume fresh userId
      · exact tail fun row member => steady row (mem_cons_of_mem _ member)
    · rintro _ e ⟨rfl, _⟩
      exact fresh.moved

theorem meets_replay (clean : acct.Clean) (existing : SubscriptionPreConsumeRecord) :
    Script.Meets (discipline env db own delta) (Charged 0) (replay existing) acct := by
  unfold replay
  split
  · exact clean.2
  refine meets_ask trivial fun found _ => ?_
  cases found with
  | none => exact clean.2
  | some sub =>
    have nothing : (receipted (amountMeter.replayed sub existing.preConsumed)).amount = 0 := Int.sub_self _
    refine meets_pure ⟨?_, nothing⟩
    rw [nothing]
    exact clean_moved clean _

section

variable (mine : own = some requestId) (clean : acct.Clean)
  (untouched : acct.untouched = true) (userId : Int) (modelName : String)
include mine clean untouched userId modelName

theorem meets_preConsumeTx :
    Script.Meets (discipline env db own ((Op.preConsume requestId userId modelName amount).delta db))
      (Charged ((Op.preConsume requestId userId modelName amount).delta db))
      (Statements.preConsumeTx env requestId userId modelName amount) acct := by
  refine meets_ask trivial fun existing relied => ?_
  have looked := relied mine untouched
  simp only [Op.delta, ← looked]
  cases existing with
  | some record => exact meets_replay clean record
  | none =>
    refine meets_ask trivial fun rows steady => ?_
    cases rows with
    | nil => exact clean.2
    | cons first rest =>
      have fresh : Fresh db own requestId acct := ⟨mine, looked.symm, clean.1, clean.2, untouched⟩
      exact meets_consumeFirst fresh userId modelName (first :: rest) steady

theorem meets_preConsume (amount : Int) :
    (Statements.preConsumeUserSubscription env requestId userId modelName amount).Meets
      (discipline env db own ((Op.preConsume requestId userId modelName amount).delta db)) (Committed receipted fun res =>
        (receipted res).amount = (Op.preConsume requestId userId modelName amount).delta db) acct := by
  unfold Statements.preConsumeUserSubscription
  split
  · exact ⟨clean.1, clean.2⟩
  split
  · exact ⟨clean.1, clean.2⟩
  split
  · exact ⟨clean.1, clean.2⟩
  exact meets_transaction (meets_preConsumeTx mine clean untouched userId modelName)

end

theorem meets_postConsume (clean : acct.Clean) (userSubscriptionId delta : Int) :
    (Statements.postConsumeUserSubscriptionDelta userSubscriptionId delta).Meets (discipline env db own delta)
      (Committed id fun moved => moved.subscriptionId = userSubscriptionId ∧ moved.amount = delta) acct := by
  unfold Statements.postConsumeUserSubscriptionDelta
  split
  · exact ⟨clean.1, clean.2⟩
  split
  next zero => exact ⟨clean.1, by rw [clean.2]; exact (Pi.single_zero _).symm, rfl, zero.symm⟩
  apply meets_transaction
  refine meets_ask trivial fun found relied => ?_
  cases found with
  | none => exact clean.2
  | some sub =>
    have sameId : sub.id = userSubscriptionId := relied sub rfl
    change Script.Meets _ _ (adjust userSubscriptionId delta sub) acct
    rw [adjust]
    cases fits : amountMeter.int64.adjusted sub delta with
    | error e => exact clean.2
    | ok changed =>
      obtain ⟨rfl, _⟩ := adjusted_fits amountMeter.int64 fits
      refine meets_ask ⟨clean.1, rfl⟩ fun _ (within : 0 ≤ sub.amountUsed + delta ∧ _) => meets_pure ⟨?_, rfl, ?_⟩
      · change acct.moved + Pi.single sub.id _ = _
        rw [clean.2, zero_add, sameId]
        rfl
      · change (if wrap64 (sub.amountUsed + delta) < 0 then 0 else wrap64 (sub.amountUsed + delta)) - sub.amountUsed = delta
        rw [wrap64_of_inRange ⟨by omega, within.2⟩, if_neg (Int.not_lt.mpr within.1)]
        omega

theorem meets_mark (mine : own = some record.requestId) {moved : Moved} (holds : Staged id good acct (.ok moved)) :
    Script.Meets (discipline env db own delta) (Staged id good) (mark record moved) acct :=
  meets_ask mine fun _ _ => meets_pure holds

theorem meets_refund (mine : own = some requestId) (clean : acct.Clean) (untouched : acct.untouched = true) :
    (Statements.refundSubscriptionPreConsume requestId).Meets (discipline env db own ((Op.refund requestId).delta db))
      (Committed id ((Op.refund requestId).Moves db)) acct := by
  have nothing := clean_moved clean
  unfold Statements.refundSubscriptionPreConsume
  split
  · exact ⟨clean.1, clean.2⟩
  apply meets_transaction
  refine meets_ask trivial fun found relied => ?_
  have looked := relied mine untouched
  cases found with
  | none => exact clean.2
  | some record =>
    have recorded : db.records.lookup requestId = some record := looked.symm
    have sameId : own = some record.requestId := by rw [(lookup_some recorded).2, mine]
    have delta : (Op.refund requestId).delta db =
        if record.status = .refunded ∨ record.preConsumed ≤ 0 then 0 else -record.preConsumed := by
      simp only [Op.delta, recorded]
    have named : ∀ id, (Op.refund requestId).subscription db = some id → record.userSubscriptionId = id := by
      simp only [Op.subscription, recorded]
      exact fun id same => Option.some.inj same
    change Script.Meets _ _ (if record.status = .refunded then pure ⟨record.userSubscriptionId, 0⟩
      else if record.preConsumed ≤ 0 then mark record ⟨record.userSubscriptionId, 0⟩
      else do
        let moved ← ExceptT.mk (Statements.postConsumeUserSubscriptionDelta record.userSubscriptionId
          (-record.preConsumed))
        mark record moved : Body Moved) acct
    split
    next refunded => exact ⟨nothing _, by rw [delta, if_pos (Or.inl refunded)], named⟩
    next consumed =>
    split
    next notPositive => exact meets_mark sameId ⟨nothing _, by rw [delta, if_pos (Or.inr notPositive)], named⟩
    next pos =>
    rw [if_neg (not_or.mpr ⟨consumed, pos⟩)] at delta
    rw [delta]
    refine meets_fallible_bind (meets_postConsume clean _ _) ?_ fun _ _ failed => failed.2
    rintro reached moved ⟨unstaged, committed, sub, amount⟩
    refine meets_mark sameId ⟨?_, amount.trans delta.symm, fun id same => sub.trans (named id same)⟩
    rw [committed, unstaged]
    exact add_zero _

theorem meets_op (op : Op) : (op.script env).Meets (discipline env db op.requestId (op.delta db))
    (Committed id (op.Moves db)) ⟨none, 0, true⟩ := by
  cases op with
  | preConsume requestId userId modelName amount =>
    refine meets_bind (meets_preConsume rfl ⟨rfl, rfl⟩ rfl userId modelName amount) ?_
    intro acct res committed
    cases res with
    | error e => exact committed
    | ok val => exact ⟨committed.1, committed.2.1, committed.2.2, nofun⟩
  | postConsumeDelta userSubscriptionId delta =>
    refine meets_mono (fun acct res committed => ?_) (meets_postConsume ⟨rfl, rfl⟩ userSubscriptionId delta)
    cases res with
    | error e => exact committed
    | ok moved =>
      refine ⟨committed.1, committed.2.1, committed.2.2.2, fun id same => ?_⟩
      exact committed.2.2.1.trans (Option.some.inj same)
  | refund requestId => exact meets_refund rfl ⟨rfl, rfl⟩ rfl

def ownRequest (ops : List Op) (pid : Nat) : Option String := ops[pid]?.bind Op.requestId

section Runs

variable {ops : List Op}

theorem start_balanced (steady : ∀ row ∈ db.subs.rows, Steady env db row) :
    Balanced env db (ownRequest ops) ops.length (quiet db) (fun _ => ⟨none, 0, true⟩) where
  total id := by
    change usedOf db id = usedOf db id + ∑ pid ∈ Finset.range ops.length, 0
    rw [Finset.sum_const_zero, Int.add_zero]
  locked _ _ member := by cases member
  plans := rfl
  steady _ row found := steady row (lookup_some found).1
  stands _ :=
    { rows := rfl
      read := fun _ _ staged => nomatch staged
      records := fun _ member => nomatch member
      fresh := fun _ _ _ => rfl }

def closes (db : Db) (ops : List Op) (pid : Nat) : Account → Except String Moved → Prop :=
  Committed id fun moved => ∀ op, ops[pid]? = some op → op.Moves db moved

theorem start_coherent (steady : ∀ row ∈ db.subs.rows, Steady env db row) :
    Coherent (fun pid => discipline env db (ownRequest ops pid) (deltaOf db ops pid)) (closes db ops)
      (Balanced env db (ownRequest ops) ops.length) ops.length (start env db ops) := by
  refine ⟨length_map _, _, start_balanced steady, ?_⟩
  intro pid script found
  rw [start, getElem?_map] at found
  obtain ⟨op, listed, rfl⟩ := map_eq_some_iff.mp found
  have own : ownRequest ops pid = op.requestId := by rw [ownRequest, listed, bind_some]
  have delta : deltaOf db ops pid = op.delta db := by rw [deltaOf, listed, elim_some]
  have goal : closes db ops pid = Committed id (op.Moves db) := by
    simp [closes, listed]
  dsimp only
  rw [own, delta, goal]
  exact meets_op op

theorem committed_contribution {res : Except String Moved}
    (committed : Committed id good acct res) (subscriptionId : Int) :
    acct.moved subscriptionId = contribution subscriptionId res := by
  cases res with
  | ok moved => rw [committed.2.1, Pi.single_apply]; rfl
  | error e => rw [committed.2]; rfl

end Runs

/-- The usage of every subscription is what it was plus the deltas of the successful operations, in every interleaving
in which no operation writes a row that has changed since it was read or would take the usage below 0 or out of `int64`. -/
theorem interleaved_usage_adds_up (env : Env) (db : Db) (ops : List Op) (schedule : List Nat)
    (final : Machine Answer Shared (Except String Moved)) (results : Nat → Except String Moved)
    (distinct : ∀ first second requestId, ownRequest ops first = some requestId →
      ownRequest ops second = some requestId → first = second) (steady : ∀ row ∈ db.subs.rows, Steady env db row)
    (unchanged : Runs.Guarded (step exec) (whenPerforming (rowUnchanged (deltaOf db ops))) (start env db ops) schedule)
    (run : Runs.exec (step exec) (start env db ops) schedule = some final)
    (finished : ∀ pid, pid < ops.length → final.processes[pid]? = some (.done (results pid))) :
    (∀ id, usedOf final.shared.db id = usedOf db id + ∑ pid ∈ Finset.range ops.length, contribution id (results pid)) ∧
    ∀ pid op moved, ops[pid]? = some op → results pid = .ok moved → op.Moves db moved := by
  obtain ⟨_, accts, balanced, meets⟩ :=
    coherent_run (balanced_preserved distinct _) (start_coherent steady) unchanged run
  have closed : ∀ pid, pid < ops.length → closes db ops pid (accts pid) (results pid) :=
    fun pid inside => meets pid _ (finished pid inside)
  constructor
  · intro id
    rw [balanced.total]
    congr 1
    apply Finset.sum_congr rfl
    intro pid member
    exact committed_contribution (closed pid (Finset.mem_range.mp member)) id
  · intro pid op moved listed succeeded
    have committed := closed pid (List.getElem?_eq_some_iff.mp listed).1
    rw [succeeded] at committed
    exact committed.2.2 op listed

def sharedDb : Db := { emptyDb with
  plans := Table.empty.save ⟨5, "plan", "never", 0, .quota⟩
  subs := Table.empty.save ⟨3, 1, 5, 100, 10, 0, 2000, .active, 0, 0, 0, 0, ""⟩ }

theorem sharedDb_steady : ∀ row ∈ sharedDb.subs.rows, Steady plainEnv sharedDb row := by
  intro row member
  cases mem_singleton.mp member
  intro plan planned
  cases planned
  rfl

def settlements : List Op := [.postConsumeDelta 3 5, .postConsumeDelta 3 7]

theorem sharedDb_one_by_one :
    ∃ final, Runs.exec (step exec) (start plainEnv sharedDb settlements) [0, 0, 0, 1, 1, 1] = some final ∧
      usedOf final.shared.db 3 = usedOf sharedDb 3 + ∑ pid ∈ Finset.range 2,
        contribution 3 (if pid = 0 then .ok ⟨3, 5⟩ else .ok ⟨3, 7⟩) := by
  have distinct : ∀ pid requestId, ownRequest settlements pid ≠ some requestId := by
    intro pid requestId
    match pid with
    | 0 | 1 | _ + 2 => exact nofun
  have unchanged : Runs.Guarded (step exec) (whenPerforming (rowUnchanged (deltaOf sharedDb settlements)))
      (start plainEnv sharedDb settlements) [0, 0, 0, 1, 1, 1] := by
    iterate 2
      refine guarded_cons (whenPerforming_call rfl trivial) rfl ?_
      refine guarded_cons (whenPerforming_call rfl ⟨rfl, by decide, by decide⟩) rfl ?_
      refine guarded_cons (whenPerforming_call rfl trivial) rfl ?_
    trivial
  refine ⟨_, rfl, (interleaved_usage_adds_up plainEnv sharedDb settlements [0, 0, 0, 1, 1, 1] _
    (fun pid => if pid = 0 then .ok ⟨3, 5⟩ else .ok ⟨3, 7⟩) (fun pid _ id own => absurd own (distinct pid id))
    sharedDb_steady unchanged rfl ?_).1 3⟩
  intro pid inside
  match pid, inside with
  | 0, _ | 1, _ => rfl

/-- Both settlements read the row before either has written it: the first one is lost. -/
theorem sharedDb_loses_update :
    ∃ final, Runs.exec (step exec) (start plainEnv sharedDb settlements) [0, 1, 0, 0, 1, 1] = some final ∧
      final.processes = [.done (.ok ⟨3, 5⟩), .done (.ok ⟨3, 7⟩)] ∧ usedOf sharedDb 3 = 10 ∧ usedOf final.shared.db 3 = 17 :=
  ⟨_, rfl, rfl, by decide, by decide⟩

end Tokengine.Billing.LostUpdate
