import Tokengine.Model.Statements

/-! Pending writes are locked, so that no two open transactions write the same row. -/

namespace Tokengine.Model.Statements
open Database Subscription List

def Locked (shared : Shared) : Prop :=
  ∀ pid write, write ∈ shared.pending pid → shared.locks write.key = some pid

variable {shared : Shared}

theorem Locked.exclusive (locked : Locked shared) {first second : Nat} {write other : Write}
    (inFirst : write ∈ shared.pending first) (inSecond : other ∈ shared.pending second) (same : write.key = other.key) :
    first = second := by
  have held := locked first write inFirst
  rw [same, locked second other inSecond] at held
  exact (Option.some.inj held).symm

variable {pid : Nat} {stmt : Statement}

theorem locked_stage {write : Write} (locked : Locked shared) (free : shared.free pid write.key = true) :
    Locked (shared.stage pid write) := by
  intro holder pending mem
  by_cases same : pending.key = write.key
  · have mine : holder = pid := by
      by_contra ne
      rw [stage_pending_other shared write ne] at mem
      have held := locked holder pending mem
      rw [same] at held
      simp only [Shared.free, held, beq_iff_eq] at free
      exact ne free
    rw [same, stage_locks_self, mine]
  · rw [stage_locks_other shared write same]
    by_cases mine : holder = pid
    · subst mine
      rcases mem_staged mem with old | new
      · exact locked holder pending old
      · exact absurd (congrArg Write.key new) same
    · rw [stage_pending_other shared write mine] at mem
      exact locked holder pending mem

theorem locked_close (locked : Locked shared) (db : Db) : Locked (shared.close pid db) := by
  intro holder pending mem
  by_cases mine : holder = pid
  · rw [mine, close_pending_self] at mem
    cases mem
  rw [close_pending_other shared db mine] at mem
  have held := locked holder pending mem
  have kept : shared.locks pending.key ≠ some pid := by
    rw [held]
    exact fun same => mine (Option.some.inj same)
  exact (if_neg kept).trans held

/-- What a statement can do: answer from the tables, stage a write whose row is free, or end the transaction. -/
inductive Effect (pid : Nat) (shared : Shared) : (stmt : Statement) → Answer stmt → Shared → Prop
  | findRecord (requestId : String) :
      Effect pid shared (.findRecord requestId) ((shared.view pid).records.lookup requestId) shared
  | findActive (now userId : Int) :
      Effect pid shared (.findActive now userId) (activeSubscriptions now userId (shared.view pid)) shared
  | findPlan (id : Int) : Effect pid shared (.findPlan id) ((shared.view pid).plans.lookup id) shared
  | findSub (id : Int) : Effect pid shared (.findSub id) ((shared.view pid).subs.lookup id) shared
  | taken (record existing : SubscriptionPreConsumeRecord)
      (found : (shared.view pid).records.lookup record.requestId = some existing) :
      Effect pid shared (.createRecord record) false shared
  | created (record : SubscriptionPreConsumeRecord) (free : shared.free pid (.record record.requestId) = true)
      (missing : (shared.view pid).records.lookup record.requestId = none) :
      Effect pid shared (.createRecord record) true (shared.stage pid (.record record))
  | saveSub (read row : UserSubscription) (free : shared.free pid (.sub row.id) = true) :
      Effect pid shared (.saveSub read row) () (shared.stage pid (.sub row))
  | saveRecord (record : SubscriptionPreConsumeRecord) (free : shared.free pid (.record record.requestId) = true) :
      Effect pid shared (.saveRecord record) () (shared.stage pid (.record record))
  | commit : Effect pid shared .commit () (shared.close pid (shared.view pid))
  | rollback : Effect pid shared .rollback () (shared.close pid shared.db)

theorem exec_effect {after : Shared} {answer : Answer stmt}
    (ran : exec pid shared stmt = some (answer, after)) : Effect pid shared stmt answer after := by
  cases stmt with
  | findRecord requestId => cases ran; exact .findRecord requestId
  | findActive now userId => cases ran; exact .findActive now userId
  | findPlan id => cases ran; exact .findPlan id
  | findSub id => cases ran; exact .findSub id
  | createRecord record =>
    simp only [exec] at ran
    split at ran
    next free =>
      cases found : (shared.view pid).records.lookup record.requestId with
      | none =>
        rw [found] at ran
        cases ran
        exact .created record free found
      | some existing =>
        rw [found] at ran
        cases ran
        exact .taken record existing found
    · cases ran
  | saveSub read row =>
    simp only [exec] at ran
    split at ran
    next free => cases ran; exact .saveSub read row free
    · cases ran
  | saveRecord record =>
    simp only [exec] at ran
    split at ran
    next free => cases ran; exact .saveRecord record free
    · cases ran
  | commit => cases ran; exact .commit
  | rollback => cases ran; exact .rollback

theorem locked_effect {after : Shared} {answer : Answer stmt} (locked : Locked shared)
    (effect : Effect pid shared stmt answer after) : Locked after := by
  cases effect with
  | created _ free _ | saveSub _ _ free | saveRecord _ free => exact locked_stage locked free
  | commit | rollback => exact locked_close locked _
  | _ => exact locked

end Tokengine.Model.Statements
