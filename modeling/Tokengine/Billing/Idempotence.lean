import Tokengine.Billing.ChosenSubscription
import Tokengine.Model.Locks

/-! Concurrent pre-consumptions of one request. The unique index lets one of them charge. The others
answer from its record, except that a call whose insert is refused reports the subscription that it
had chosen itself. -/

namespace Tokengine.Billing.Idempotence
open ChosenSubscription (payable)
open Interleaving Model Database ResetTime Subscription Statements PlanTypes List Function Option Table Runs

structure Call where
  userId : Int
  modelName : String
  amount : Int
  deriving DecidableEq

def Call.script (env : Env) (requestId : String) (call : Call) : Script Answer (Except String PreConsumeResult) :=
  Model.Statements.preConsumeUserSubscription env requestId call.userId call.modelName call.amount

def start (env : Env) (db : Db) (requestId : String) (calls : List Call) :
    Machine Answer Shared (Except String PreConsumeResult) :=
  ⟨quiet db, calls.map (Call.script env requestId)⟩

/-- The step that `pid` takes after `done` charges a subscription: it stores a row that is neither the initial one nor
what a reset that was due makes of that. -/
structure ChargesAt (env : Env) (db : Db) (requestId : String) (calls : List Call) (done : List Nat) (pid : Nat)
    (old row : UserSubscription) : Prop where
  reached : ∃ before after, Runs.exec (step exec) (start env db requestId calls) done = some before ∧
    step exec before pid = some after ∧ after.shared.db.subs.lookup old.id = some row ∧
    before.shared.db.subs.lookup old.id ≠ some row
  initial : db.subs.lookup old.id = some old
  charged : ¬Renewed env db old row

/-- No call looks for candidates once the request is recorded. -/
def unrecorded (requestId : String) (shared : Shared) (_ : Nat) : Statement → Prop
  | .findActive _ _ => shared.db.records.lookup requestId = none
  | _ => True

/-- Calls of one request. If `strict` holds, all of them are `call`, and none looks for candidates once the request is
recorded. -/
structure Setting where
  strict : Prop
  env : Env
  db : Db
  requestId : String
  call : Call

/-! The rows that the calls store. -/

section Rows

variable (s : Setting)

def NotDue (row : UserSubscription) : Prop :=
  ∀ plan, s.db.plans.lookup row.planId = some plan → dueReset s.env.utcOffset s.env.now plan row = .ok none

/-- A row that comes from an initial one by the reset that was due, and by a charge if the record says so. -/
def Held (record : Option SubscriptionPreConsumeRecord) (row : UserSubscription) : Prop :=
  ∃ old, s.db.subs.lookup row.id = some old ∧ (Renewed s.env s.db old row ∨ ∃ made, record = some made ∧
    made.userSubscriptionId = row.id ∧ row = amountMeter.int64.charged (refresh s.env s.db old) made.preConsumed ∧ NotDue s row)

variable {s} {row old : UserSubscription} {record : Option SubscriptionPreConsumeRecord}

theorem Held.any (held : Held s none row) : Held s record row := by
  obtain ⟨old, found, renewed | ⟨_, none, _⟩⟩ := held
  · exact ⟨old, found, Or.inl renewed⟩
  · cases none

theorem Held.renewed (held : Held s none row) (found : s.db.subs.lookup row.id = some old) : Renewed s.env s.db old row := by
  obtain ⟨_, same, renewed | ⟨_, none, _⟩⟩ := held
  · cases same.symm.trans found
    exact renewed
  · cases none

/-- The first subscription that can pay, among the initial ones. -/
def Picked (s : Setting) (id : Int) : Prop :=
  ∃ old, s.db.subs.lookup id = some old ∧ isActive s.env.now s.call.userId old = true ∧
    payable s.env s.call.modelName s.call.amount s.db old = true ∧
    ∀ other ∈ s.db.subs.rows, isActive s.env.now s.call.userId other = true →
      payable s.env s.call.modelName s.call.amount s.db other = true → expiresBefore old other

theorem Picked.unique {first second : Int} (one : Picked s first) (two : Picked s second) : first = second := by
  obtain ⟨row, found, active, pays, least⟩ := one
  obtain ⟨row', found', active', pays', least'⟩ := two
  have same := expiresBefore_antisymm (least row' (lookup_some found').1 active' pays')
    (least' row (lookup_some found).1 active pays)
  rw [(lookup_some found).2, (lookup_some found').2] at same
  exact same

end Rows

/-! What each call accounts for. -/

structure Account where
  /-- The record that the open transaction has inserted. -/
  staged : Option SubscriptionPreConsumeRecord
  /-- The record that the call has inserted and committed. -/
  committed : Option SubscriptionPreConsumeRecord
  /-- The committed record that the call has read. -/
  seen : Option SubscriptionPreConsumeRecord
  /-- The candidates that the call has read. -/
  cands : List UserSubscription

section Discipline

variable (s : Setting)

/-- The candidates of a call that reads them before the request is recorded. -/
structure Listed (rows : List UserSubscription) : Prop where
  fresh : s.db.records.lookup s.requestId = none
  ordered : rows.Pairwise expiresBefore
  renewed : ∀ row ∈ rows, Held s none row
  /-- No subscription that can pay is missing. -/
  complete : ∀ old ∈ s.db.subs.rows, isActive s.env.now s.call.userId old = true →
    payable s.env s.call.modelName s.call.amount s.db old = true → ∃ row ∈ rows, row.id = old.id

def allowed (acct : Account) : Statement → Prop
  | .findRecord id => id = s.requestId ∧ acct.staged = none
  | .findActive now userId => acct.staged = none ∧ now = s.env.now ∧ (s.strict → userId = s.call.userId)
  | .createRecord record => record.requestId = s.requestId ∧ acct.staged = none ∧
      (s.strict → Picked s record.userSubscriptionId)
  | .saveSub _ row => Held s acct.staged row
  | .saveRecord _ => False
  | .commit => acct.committed = none
  | _ => True

def answered (acct : Account) : (stmt : Statement) → Answer stmt → Prop
  | .findRecord _, found => s.strict → s.db.records.lookup s.requestId = none → ∀ record, found = some record →
      Picked s record.userSubscriptionId
  | .findActive now userId, rows => (∀ row ∈ rows, isActive now userId row = true ∧ ∃ record, Held s record row) ∧
      (s.strict → Listed s rows)
  | .findPlan id, found => found = s.db.plans.lookup id
  | .findSub id, found => ∀ sub, found = some sub → sub.id = id
  | .createRecord _, created => created = true → ∀ row ∈ acct.cands, Held s none row
  | _, _ => True

def track (acct : Account) : (stmt : Statement) → Answer stmt → Account
  | .findRecord _, found => { acct with seen := found }
  | .findActive _ _, rows => { acct with cands := rows }
  | .createRecord record, true => { acct with staged := some record }
  | .commit, _ => { acct with staged := none, committed := acct.staged }
  | .rollback, _ => { acct with staged := none }
  | _, _ => acct

def discipline : Discipline Answer Account := ⟨allowed s, answered s, track⟩

/-- The record that the calls have committed, and not an earlier one. -/
def made (entry : Option SubscriptionPreConsumeRecord) : Option SubscriptionPreConsumeRecord :=
  if (s.db.records.lookup s.requestId).isSome then none else entry

/-- An account agrees with the committed record, if there is one, and with what its process has pending. -/
structure Stands (entry : Option SubscriptionPreConsumeRecord) (pending : List Write) (acct : Account) : Prop where
  records : pending.filterMap Write.recordRow = acct.staged.toList
  rows : ∀ row, .sub row ∈ pending → Held s acct.staged row
  staged : ∀ record, acct.staged = some record → record.requestId = s.requestId ∧ entry = none ∧
    (s.strict → Picked s record.userSubscriptionId)
  committed : ∀ record, acct.committed = some record → entry = some record
  seen : ∀ record, acct.seen = some record → entry = some record
  cands : ∀ row ∈ acct.cands, Held s (made s entry) row

/-- The accounts together agree with the tables. -/
structure Single (shared : Shared) (accts : Nat → Account) : Prop where
  locked : Locked shared
  plans : shared.db.plans = s.db.plans
  kept : ∀ record, s.db.records.lookup s.requestId = some record → shared.db.records.lookup s.requestId = some record
  picked : s.strict → ∀ record, made s (shared.db.records.lookup s.requestId) = some record →
    Picked s record.userSubscriptionId
  present : ∀ id, (s.db.subs.lookup id).isSome → (shared.db.subs.lookup id).isSome
  rows : ∀ id row, shared.db.subs.lookup id = some row → Held s (made s (shared.db.records.lookup s.requestId)) row
  stands : ∀ pid, Stands s (shared.db.records.lookup s.requestId) (shared.pending pid) (accts pid)

end Discipline

variable {s : Setting} {shared : Shared} {accts : Nat → Account} {pid : Nat} {entry : Option SubscriptionPreConsumeRecord}

theorem made_none : made s none = none := ite_self _

theorem lookup_saves_cases {rows : List UserSubscription} {table : Table UserSubscription.id} {id : Int}
    {row : UserSubscription} (found : (rows.foldl save table).lookup id = some row) :
    row ∈ rows ∨ table.lookup id = some row := by
  induction rows generalizing table with
  | nil => exact Or.inr found
  | cons first rest tail =>
    rcases tail found with later | here
    · exact Or.inl (mem_cons_of_mem _ later)
    rw [lookup_save] at here
    split at here
    · exact Or.inl (Option.some.inj here ▸ mem_cons_self)
    · exact Or.inr here

theorem lookup_saves_isSome {rows : List UserSubscription} {table : Table UserSubscription.id} {id : Int}
    (present : (table.lookup id).isSome) : ((rows.foldl save table).lookup id).isSome := by
  induction rows generalizing table with
  | nil => exact present
  | cons first rest tail =>
    apply tail
    rw [lookup_save]
    split
    · rfl
    · exact present

theorem Stands.stage_record {acct : Account} {record : SubscriptionPreConsumeRecord}
    (stands : Stands s entry (shared.pending pid) acct) (nothing : acct.staged = none)
    (inserts : record.requestId = s.requestId ∧ entry = none ∧ (s.strict → Picked s record.userSubscriptionId)) :
    Stands s entry ((shared.stage pid (.record record)).pending pid) { acct with staged := some record } where
  records := by
    rw [stage_pending_self, filterMap_append, stands.records, nothing]
    rfl
  rows row mem := by
    rcases mem_staged mem with old | new
    · have held := stands.rows row old
      rw [nothing] at held
      exact held.any
    · cases new
  staged _ same := by
    cases same
    exact inserts
  committed := stands.committed
  seen := stands.seen
  cands := stands.cands

theorem Stands.stage_sub {acct : Account} {row : UserSubscription} (stands : Stands s entry (shared.pending pid) acct)
    (held : Held s acct.staged row) : Stands s entry ((shared.stage pid (.sub row)).pending pid) acct :=
  { stands with
    records := by
      rw [stage_pending_self, filterMap_append, stands.records]
      exact append_nil _
    rows := by
      intro other mem
      rcases mem_staged mem with old | new
      · exact stands.rows other old
      · cases new
        exact held }

variable (single : Single s shared accts)

include single

theorem Single.view_records (nothing : (accts pid).staged = none) : (shared.view pid).records = shared.db.records := by
  rw [Shared.view, applyAll_records, (single.stands pid).records, nothing]
  rfl

theorem Single.view_plans : (shared.view pid).plans = s.db.plans := by rw [Shared.view, applyAll_plans, single.plans]

theorem Single.view_row {id : Int} {row : UserSubscription} (found : (shared.view pid).subs.lookup id = some row) :
    Held s (accts pid).staged row ∨ shared.db.subs.lookup id = some row := by
  rw [Shared.view, applyAll_subs] at found
  exact (lookup_saves_cases found).imp_left fun mem => (single.stands pid).rows row (mem_subRows mem)

theorem Single.view_present {id : Int} (present : (s.db.subs.lookup id).isSome) :
    ((shared.view pid).subs.lookup id).isSome := by
  rw [Shared.view, applyAll_subs]
  exact lookup_saves_isSome (single.present id present)

/-- Before the own record is staged, a row of the view has the record that is committed. -/
theorem Single.view_held {id : Int} {row : UserSubscription} (nothing : (accts pid).staged = none)
    (found : (shared.view pid).subs.lookup id = some row) :
    Held s (made s (shared.db.records.lookup s.requestId)) row := by
  rcases single.view_row found with held | stored
  · rw [nothing] at held
    exact held.any
  · exact single.rows id row stored

theorem Single.staged_exclusive {other : Nat}
    {record record' : SubscriptionPreConsumeRecord} (mine : (accts pid).staged = some record)
    (theirs : (accts other).staged = some record') : other = pid := by
  have pending : ∀ {pid record}, (accts pid).staged = some record → .record record ∈ shared.pending pid := by
    intro pid record staged
    apply mem_recordRows
    rw [(single.stands pid).records, staged]
    exact mem_singleton_self record
  have sameKey : (Write.record record').key = (Write.record record).key := by
    rw [Write.key, Write.key, ((single.stands other).staged record' theirs).1, ((single.stands pid).staged record mine).1]
  exact single.locked.exclusive (pending theirs) (pending mine) sameKey

/-- A step that commits nothing. -/
theorem Single.quiet_step {after : Shared} {acct : Account} (locked : Locked after) (same : after.db = shared.db)
    (others : ∀ other, other ≠ pid → after.pending other = shared.pending other)
    (mine : Stands s (shared.db.records.lookup s.requestId) (after.pending pid) acct) :
    Single s after (update accts pid acct) := by
  obtain ⟨store, pending, locks⟩ := after
  cases same
  refine ⟨locked, single.plans, single.kept, single.picked, single.present, single.rows, ?_⟩
  rw [forall_update_iff accts
    (fun other => Stands s (shared.db.records.lookup s.requestId) (pending other))]
  refine ⟨mine, fun other ne => ?_⟩
  have theirs := single.stands other
  rw [← others other ne] at theirs
  exact theirs

/-- A transaction that has not inserted the record commits resets only. -/
theorem Single.commit_resets (nothing : (accts pid).staged = none) : Single s (shared.close pid (shared.view pid))
      (update accts pid { accts pid with staged := none, committed := (accts pid).staged }) := by
  have sameEntry : (shared.view pid).records.lookup s.requestId = shared.db.records.lookup s.requestId := by
    rw [single.view_records nothing]
  have stands := single.stands pid
  refine ⟨locked_close single.locked _, single.view_plans, ?_, ?_, fun id => single.view_present, fun id row found => ?_, ?_⟩
  · change ∀ record, _ → (shared.view pid).records.lookup s.requestId = _
    rw [sameEntry]
    exact single.kept
  · change s.strict → ∀ record, made s ((shared.view pid).records.lookup s.requestId) = _ → _
    rw [sameEntry]
    exact single.picked
  · change Held s (made s ((shared.view pid).records.lookup s.requestId)) row
    rw [sameEntry]
    exact single.view_held nothing found
  change ∀ other, Stands _ ((shared.view pid).records.lookup s.requestId) _ _
  rw [sameEntry, forall_update_iff accts (fun other => Stands s
    (shared.db.records.lookup s.requestId) ((shared.close pid (shared.view pid)).pending other))]
  refine ⟨?_, fun other ne => ?_⟩
  · rw [close_pending_self, nothing]
    exact { stands with records := rfl, rows := fun _ => nofun, staged := fun _ => nofun, committed := fun _ => nofun }
  · rw [close_pending_other shared _ ne]
    exact single.stands other

omit single

theorem Stands.publish {pending later : List Write} {acct account' : Account}
    (stands : Stands s none pending acct) (record : SubscriptionPreConsumeRecord)
    (records : later.filterMap Write.recordRow = []) (unstaged : account'.staged = none)
    (rows : ∀ row, .sub row ∈ later → Held s none row)
    (committed : ∀ written, account'.committed = some written → written = record)
    (sameSeen : account'.seen = acct.seen) (sameCands : account'.cands = acct.cands) :
    Stands s (some record) later account' where
  records := by rw [records, unstaged]; rfl
  rows := by rw [unstaged]; exact rows
  staged _ staged := by rw [unstaged] at staged; cases staged
  committed written same := by rw [committed written same]
  seen _ read := by cases stands.seen _ (sameSeen ▸ read)
  cands row mem := by
    have held := stands.cands row (sameCands ▸ mem)
    rw [made_none] at held
    exact held.any

include single in
theorem Single.publish {record : SubscriptionPreConsumeRecord} (mine : (accts pid).staged = some record) :
    Single s (shared.close pid (shared.view pid)) (update accts pid
      { accts pid with staged := none, committed := some record }) := by
  have stands := single.stands pid
  obtain ⟨named, missing, picked⟩ := stands.staged record mine
  have published : (shared.view pid).records.lookup s.requestId = some record := by
    rw [Shared.view, applyAll_records, stands.records, mine, ← named]
    exact lookup_save_self _ _
  have fresh : ∀ earlier, s.db.records.lookup s.requestId ≠ some earlier := by
    intro earlier found
    rw [single.kept earlier found] at missing
    cases missing
  have uncommitted : ∀ other written, (accts other).committed ≠ some written := by
    intro other written committed
    rw [(single.stands other).committed written committed] at missing
    cases missing
  have fromCalls : made s (some record) = some record := by
    rw [made, eq_none_iff_forall_ne_some.mpr fresh]
    rfl
  refine ⟨locked_close single.locked _, single.view_plans, fun earlier found => absurd found (fresh earlier), ?_,
    fun id => single.view_present, fun id row found => ?_, ?_⟩
  · change s.strict → ∀ record, made s ((shared.view pid).records.lookup s.requestId) = _ → _
    rw [published, fromCalls]
    rintro strictly _ ⟨⟩
    exact picked strictly
  · change Held s (made s ((shared.view pid).records.lookup s.requestId)) row
    rw [published, fromCalls]
    rcases single.view_row found with held | stored
    · exact mine ▸ held
    · have held := single.rows id row stored
      rw [missing, made_none] at held
      exact held.any
  · change ∀ other, Stands _ ((shared.view pid).records.lookup s.requestId) _ _
    rw [published, forall_update_iff accts (fun other =>
      Stands s (some record) ((shared.close pid (shared.view pid)).pending other))]
    constructor
    · rw [missing] at stands
      rw [close_pending_self]
      exact stands.publish record rfl rfl (fun _ => nofun) (fun _ same => (Option.some.inj same).symm) rfl rfl
    · intro other ne
      have theirs := single.stands other
      have unstaged : (accts other).staged = none :=
        eq_none_iff_forall_ne_some.mpr fun _ staged => ne (single.staged_exclusive mine staged)
      have records := theirs.records
      have rows := theirs.rows
      rw [unstaged] at records rows
      rw [missing] at theirs
      rw [close_pending_other shared _ ne]
      exact theirs.publish record records unstaged rows (fun written same => absurd same (uncommitted other written)) rfl rfl

include single in
theorem Single.listed {now userId : Int} (nothing : (accts pid).staged = none) (clock : now = s.env.now)
    (mine : userId = s.call.userId) (missing : shared.db.records.lookup s.requestId = none) :
    Listed s (activeSubscriptions now userId (shared.view pid)) := by
  refine ⟨?_, activeSubscriptions_ordered _ _ _, fun row mem => ?_, fun old mem active _ => ?_⟩
  · refine eq_none_iff_forall_ne_some.mpr fun earlier found => ?_
    rw [single.kept earlier found] at missing
    cases missing
  · have held := single.view_held nothing (lookup_of_mem (activeSubscriptions_mem mem).1)
    rw [missing, made_none] at held
    exact held
  · have found := lookup_of_mem mem
    have there : ((shared.view pid).subs.lookup old.id).isSome := single.view_present (by rw [found]; rfl)
    obtain ⟨row, stored⟩ := isSome_iff_exists.mp there
    obtain ⟨inside, same⟩ := lookup_some stored
    refine ⟨row, ?_, same⟩
    have held := single.view_held nothing stored
    rw [missing, made_none] at held
    obtain ⟨used, last, next, is, _⟩ := (held.renewed (same.symm ▸ found)).resetOf
    rw [activeSubscriptions, mem_insertionSort, List.mem_filter]
    refine ⟨inside, ?_⟩
    rw [is, clock, mine]
    exact active

theorem single_preserved (count : Nat) : Preserved exec (fun _ => discipline s)
    (Single s) (fun shared pid stmt => s.strict → unrecorded s.requestId shared pid stmt) count := by
  intro pid shared accts stmt answer after _ single kept guarded ran
  have locked := locked_effect single.locked (exec_effect ran)
  have stands := single.stands pid
  have still : Single s shared (update accts pid (accts pid)) := by
    rw [update_eq_self]
    exact single
  cases exec_effect ran with
  | findRecord id =>
    obtain ⟨rfl, nothing⟩ := kept
    have found : (shared.view pid).records.lookup s.requestId = shared.db.records.lookup s.requestId := by
      rw [single.view_records nothing]
    refine ⟨?_, single.quiet_step locked rfl (fun _ _ => rfl) { stands with seen := ?_ }⟩
    · intro strictly fresh record present
      refine single.picked strictly record ?_
      rw [made, fresh]
      exact found.symm.trans present
    · intro record present
      exact found.symm.trans present
  | findActive now userId =>
    obtain ⟨nothing, clock, mine⟩ := kept
    have held : ∀ row ∈ activeSubscriptions now userId (shared.view pid),
        Held s (made s (shared.db.records.lookup s.requestId)) row :=
      fun row mem => single.view_held nothing (lookup_of_mem (activeSubscriptions_mem mem).1)
    refine ⟨⟨fun row mem => ⟨(activeSubscriptions_mem mem).2, _, held row mem⟩, fun strictly => ?_⟩, ?_⟩
    · exact single.listed nothing clock (mine strictly) (guarded strictly)
    · exact single.quiet_step locked rfl (fun _ _ => rfl) { stands with cands := held }
  | findPlan id =>
    refine ⟨?_, still⟩
    change (shared.view pid).plans.lookup id = _
    rw [single.view_plans]
  | findSub id => exact ⟨fun sub found => (lookup_some found).2, still⟩
  | taken record existing found => exact ⟨nofun, single.quiet_step locked rfl (fun _ _ => rfl) stands⟩
  | created record free missing =>
    obtain ⟨named, nothing, picked⟩ := kept
    rw [single.view_records nothing, named] at missing
    refine ⟨fun _ row mem => ?_, single.quiet_step locked rfl (fun _ ne => stage_pending_other shared _ ne)
      (stands.stage_record nothing ⟨named, missing, picked⟩)⟩
    have held := stands.cands row mem
    rw [missing, made_none] at held
    exact held
  | saveSub read row free =>
    exact ⟨trivial, single.quiet_step locked rfl (fun _ ne => stage_pending_other shared _ ne) (stands.stage_sub kept)⟩
  | saveRecord record free => cases kept
  | commit =>
    refine ⟨trivial, ?_⟩
    change Single _ _ (update accts pid { accts pid with staged := none, committed := (accts pid).staged })
    cases staged : (accts pid).staged with
    | none => exact staged ▸ single.commit_resets staged
    | some record => exact single.publish staged
  | rollback =>
    refine ⟨trivial, single.quiet_step locked rfl (fun _ ne => close_pending_other shared _ ne) ?_⟩
    exact { stands with
      records := by rw [close_pending_self]; rfl
      rows := by rw [close_pending_self]; exact fun _ => nofun
      staged := fun _ => nofun }

/-! Every call keeps to the discipline. -/

def Reports (inserted seen : Option SubscriptionPreConsumeRecord) (res : PreConsumeResult) : Prop :=
  ∃ record, (inserted = some record ∨ seen = some record) ∧ res.userSubscriptionId = record.userSubscriptionId ∧
    res.preConsumed = record.preConsumed

def Staged (s : Setting) (acct : Account) (res : Except String PreConsumeResult) : Prop :=
  acct.committed = none ∧ (s.strict → ∀ val, res = .ok val → Reports acct.staged acct.seen val)

def Answers (s : Setting) (acct : Account) (res : Except String PreConsumeResult) : Prop :=
  s.strict → ∀ val, res = .ok val → Reports acct.committed acct.seen val

section Operations

variable {acct : Account} {cand sub : UserSubscription} {rest : List UserSubscription}

theorem meets_transaction {body : Body PreConsumeResult} (first : Script.Meets (discipline s) (Staged s) body acct) :
    (transaction body).Meets (discipline s) (Answers s) acct := by
  apply meets_bind first
  rintro acct res ⟨uncommitted, reports⟩
  cases res with
  | ok val => exact ⟨uncommitted, fun _ _ => reports⟩
  | error e => exact ⟨trivial, fun _ _ _ _ => nofun⟩

def Prepared (s : Setting) (acct : Account) (cand : UserSubscription) (reached : Account)
    (res : Except String UserSubscription) : Prop :=
  reached = acct ∧ ∀ sub, res = .ok sub → sub = refresh s.env s.db cand ∧ NotDue s sub

theorem meets_prepare (active : isActive s.env.now cand.userId cand = true) (held : ∃ record, Held s record cand) :
    Script.Meets (discipline s) (Prepared s acct cand) (prepare s.env cand) acct := by
  unfold prepare Model.Statements.getSubscriptionPlanByIdTx
  split
  · exact ⟨rfl, fun _ => nofun⟩
  refine meets_ask trivial fun answer relied => ?_
  cases answer with
  | none => exact ⟨rfl, fun _ => nofun⟩
  | some plan =>
    have planned : s.db.plans.lookup cand.planId = some plan := relied.symm
    change Script.Meets _ _ (Model.Statements.maybeResetUserSubscriptionWithPlanTx cand plan s.env) acct
    unfold Model.Statements.maybeResetUserSubscriptionWithPlanTx
    split
    · exact ⟨rfl, fun _ => nofun⟩
    next due =>
      refine ⟨rfl, fun sub same => ?_⟩
      cases same
      refine ⟨by simp only [refresh, planned, due], fun other found => ?_⟩
      cases planned.symm.trans found
      exact due
    next later due =>
      have is : later = refresh s.env s.db cand := by simp only [refresh, planned, due]
      have reset := dueReset_resetOf due
      refine meets_ask ?_ fun _ _ => meets_pure ⟨rfl, fun sub same => ?_⟩
      · obtain ⟨_, old, found, renewed | ⟨_, _, _, _, notDue⟩⟩ := held
        · exact ⟨old, by rw [reset.id_eq]; exact found, Or.inl (renewed.trans rfl (Or.inr ⟨active, is⟩))⟩
        · cases (notDue plan planned).symm.trans due
      · cases same
        refine ⟨is, fun other found => ?_⟩
        obtain ⟨_, _, _, rfl, _⟩ := reset
        cases planned.symm.trans found
        exact dueReset_again due

section

variable (unstaged : acct.staged = none) (uncommitted : acct.committed = none)
  (picked : s.strict → s.db.records.lookup s.requestId = none ∧ Picked s sub.id)
include unstaged uncommitted picked

theorem meets_recover : Script.Meets (discipline s) (Staged s) (recover s.requestId sub) acct := by
  refine meets_ask ⟨rfl, unstaged⟩ fun found relied => ?_
  cases found with
  | none => exact ⟨uncommitted, fun _ _ => nofun⟩
  | some dup =>
    dsimp only
    split
    · exact ⟨uncommitted, fun _ _ => nofun⟩
    refine meets_pure ⟨uncommitted, fun strictly val same => ?_⟩
    cases same
    obtain ⟨fresh, mine⟩ := picked strictly
    exact ⟨dup, Or.inr rfl, mine.unique (relied strictly fresh dup rfl), rfl⟩

theorem meets_consume (userId amount : Int) (mem : cand ∈ acct.cands) (is : sub = refresh s.env s.db cand)
    (notDue : NotDue s sub) : Script.Meets (discipline s) (Staged s) (consume s.requestId userId amount sub) acct := by
  refine meets_ask ⟨rfl, unstaged, fun strictly => (picked strictly).2⟩ fun created relied => ?_
  cases created with
  | true =>
    have held := relied rfl cand mem
    obtain ⟨old, found, _⟩ := id held
    have same : sub = refresh s.env s.db old := is.trans (held.renewed found).refresh_eq
    have id : sub.id = cand.id := is ▸ (refresh_resetOf s.env s.db cand).id_eq
    refine meets_ask ⟨old, ?_, Or.inr ⟨_, rfl, rfl, ?_, fun plan planned => ?_⟩⟩ fun _ _ =>
      meets_pure ⟨uncommitted, fun _ val same => ?_⟩
    · change s.db.subs.lookup sub.id = some old
      rw [id, found]
    · rw [← same]
    · exact dueReset_none_used (notDue plan planned) _
    · cases same
      exact ⟨_, Or.inl rfl, rfl, rfl⟩
  | false => exact meets_recover unstaged uncommitted picked

end

variable {own : Call}

theorem Listed.next (listed : Listed s (cand :: rest))
    (refused : payable s.env s.call.modelName s.call.amount s.db cand = false) : Listed s rest := by
  refine ⟨listed.fresh, (pairwise_cons.mp listed.ordered).2, fun row mem => listed.renewed row (mem_cons_of_mem _ mem),
    fun old mem active pays => ?_⟩
  obtain ⟨row, inside, same⟩ := listed.complete old mem active pays
  rcases mem_cons.mp inside with rfl | later
  · have renewed : Renewed s.env s.db old row := (listed.renewed row mem_cons_self).renewed (same ▸ lookup_of_mem mem)
    rw [payable, renewed.refresh_eq] at refused
    cases refused.symm.trans pays
  · exact ⟨row, later, same⟩

theorem Listed.picks (listed : Listed s (cand :: rest))
    (active : isActive s.env.now s.call.userId cand = true) (pays : payable s.env s.call.modelName s.call.amount s.db cand = true) :
    Picked s cand.id := by
  have held := listed.renewed cand mem_cons_self
  obtain ⟨old, found, _⟩ := id held
  have renewed : Renewed s.env s.db old cand := held.renewed found
  have reset := renewed.resetOf
  rw [payable, renewed.refresh_eq] at pays
  refine ⟨old, found, ?_, pays, fun other mem theirs able => ?_⟩
  · obtain ⟨_, _, _, rfl, _⟩ := reset
    exact active
  obtain ⟨row, inside, same⟩ := listed.complete other mem theirs able
  have before : expiresBefore cand row := by
    rcases mem_cons.mp inside with rfl | later
    · exact Or.inr ⟨rfl, Int.le_refl _⟩
    · exact (pairwise_cons.mp listed.ordered).1 row later
  obtain ⟨_, _, _, rfl, _⟩ := ((listed.renewed row inside).renewed (same ▸ lookup_of_mem mem)).resetOf
  obtain ⟨_, _, _, rfl, _⟩ := reset
  exact before

theorem meets_consumeFirst (unstaged : acct.staged = none) (uncommitted : acct.committed = none)
    (mine : s.strict → own = s.call) (cands : List UserSubscription)
    (inside : ∀ row ∈ cands, row ∈ acct.cands ∧ isActive s.env.now own.userId row = true ∧ ∃ record, Held s record row)
    (listed : s.strict → Listed s cands) : Script.Meets (discipline s) (Staged s)
      (consumeFirst s.env s.requestId own.userId own.modelName own.amount cands) acct := by
  induction cands with
  | nil => exact ⟨uncommitted, fun _ _ => nofun⟩
  | cons cand rest tail =>
    obtain ⟨mem, active, held⟩ := inside cand mem_cons_self
    refine meets_fallible_bind (meets_prepare (isActive_owner active) held) ?_ ?_
    · rintro _ sub ⟨rfl, prepared⟩
      obtain ⟨is, notDue⟩ := prepared sub rfl
      split
      next pays =>
        refine meets_consume unstaged uncommitted (fun strictly => ⟨(listed strictly).fresh, ?_⟩) _ _ mem is notDue
        cases mine strictly
        rw [is] at pays
        rw [is, (refresh_resetOf s.env s.db cand).id_eq]
        exact (listed strictly).picks active pays
      next refused =>
        refine tail (fun row later => inside row (mem_cons_of_mem _ later)) fun strictly => (listed strictly).next ?_
        cases mine strictly
        rw [is] at refused
        exact Bool.eq_false_iff.mpr refused
    · rintro _ e ⟨rfl, _⟩
      exact ⟨uncommitted, fun _ _ => nofun⟩

theorem meets_replay (uncommitted : acct.committed = none) {existing : SubscriptionPreConsumeRecord}
    (seen : acct.seen = some existing) : Script.Meets (discipline s) (Staged s) (replay existing) acct := by
  unfold replay
  split
  · exact ⟨uncommitted, fun _ _ => nofun⟩
  refine meets_ask trivial fun found relied => ?_
  cases found with
  | none => exact ⟨uncommitted, fun _ _ => nofun⟩
  | some sub =>
    refine meets_pure ⟨uncommitted, fun _ val same => ?_⟩
    cases same
    exact ⟨existing, Or.inr seen, relied sub rfl, rfl⟩

theorem meets_call (mine : s.strict → own = s.call) : (own.script s.env s.requestId).Meets
    (discipline s) (Answers s) ⟨none, none, none, []⟩ := by
  unfold Call.script Model.Statements.preConsumeUserSubscription
  split
  · exact fun _ _ => nofun
  split
  · exact fun _ _ => nofun
  split
  · exact fun _ _ => nofun
  apply meets_transaction
  refine meets_ask ⟨rfl, rfl⟩ fun existing _ => ?_
  cases existing with
  | some record => exact meets_replay rfl rfl
  | none =>
    refine meets_ask ⟨rfl, rfl, fun strictly => mine strictly ▸ rfl⟩ fun rows relied => ?_
    cases rows with
    | nil => exact ⟨rfl, fun _ _ => nofun⟩
    | cons first rest =>
      refine meets_consumeFirst ?_ ?_ mine (first :: rest) (fun row mem => ⟨mem, relied.1 row mem⟩) relied.2
      · rfl
      · rfl

end Operations

section Runs

variable (s) (calls : List Call)

theorem start_single : Single s (quiet s.db) (fun _ => ⟨none, none, none, []⟩) where
  locked _ _ member := by cases member
  plans := rfl
  kept _ found := found
  picked _ record found := by
    unfold made at found
    split at found
    · cases found
    next missing => exact absurd (found ▸ rfl) missing
  present _ there := there
  rows id row found := ⟨row, (lookup_some found).2.symm ▸ found, Or.inl (Or.inl rfl)⟩
  stands _ :=
    { records := rfl
      rows := fun _ => nofun
      staged := nofun
      committed := nofun
      seen := nofun
      cands := fun _ => nofun }

/-- The calls and the tables agree. -/
abbrev Agree (machine : Machine Answer Shared (Except String PreConsumeResult)) : Prop :=
  Coherent (fun _ => discipline s) (fun _ => Answers s)
    (Single s) calls.length machine

variable {s calls}

theorem start_agrees (mine : s.strict → ∀ own ∈ calls, own = s.call) :
    Agree s calls (start s.env s.db s.requestId calls) := by
  refine ⟨length_map _, _, start_single s, ?_⟩
  intro pid script found
  rw [start, getElem?_map] at found
  obtain ⟨own, listed, rfl⟩ := map_eq_some_iff.mp found
  exact meets_call fun strictly => mine strictly own (mem_of_getElem? listed)

variable {schedule rest : List Nat} {before after final : Machine Answer Shared (Except String PreConsumeResult)}
  {record : SubscriptionPreConsumeRecord} {old row : UserSubscription}

theorem Single.record_kept {stmt : Statement} {answer : Answer stmt} {later : Shared}
    (single : Single s shared accts) (ran : exec pid shared stmt = some (answer, later))
    (recorded : shared.db.records.lookup s.requestId = some record) : later.db.records.lookup s.requestId = some record := by
  cases exec_effect ran with
  | commit =>
    change (shared.view pid).records.lookup s.requestId = some record
    cases staged : (accts pid).staged with
    | none => rw [single.view_records staged, recorded]
    | some other => cases recorded.symm.trans ((single.stands pid).staged other staged).2.1
  | _ => exact recorded

theorem record_stays (free : ¬s.strict) (agree : Agree s calls before)
    (recorded : before.shared.db.records.lookup s.requestId = some record)
    (run : Runs.exec (step exec) before rest = some final) : final.shared.db.records.lookup s.requestId = some record := by
  have preserved : Preserved exec (fun _ => discipline s)
      (fun shared accts => Single s shared accts ∧ shared.db.records.lookup s.requestId = some record)
      (fun shared pid stmt => s.strict → unrecorded s.requestId shared pid stmt) calls.length := by
    intro pid shared accts stmt answer later inside holds allowed guarded ran
    obtain ⟨relied, single⟩ := single_preserved calls.length pid shared accts stmt answer later inside holds.1 allowed
      guarded ran
    exact ⟨relied, single, holds.1.record_kept ran holds.2⟩
  obtain ⟨length, accts, single, meets⟩ := agree
  obtain ⟨_, _, reached, _⟩ := coherent_run preserved ⟨length, accts, ⟨single, recorded⟩, meets⟩
    (guarded_always (fun _ _ _ _ _ strictly => absurd strictly free) rest _) run
  exact reached.2

/-- A step charges only by committing the record. -/
theorem Single.charge_step {stmt : Statement} {answer : Answer stmt} {later : Shared} {accts' : Nat → Account}
    (single : Single s shared accts) (ran : exec pid shared stmt = some (answer, later))
    (single' : Single s later accts') (initial : s.db.subs.lookup old.id = some old)
    (stored : later.db.subs.lookup old.id = some row) (new : shared.db.subs.lookup old.id ≠ some row)
    (charged : ¬Renewed s.env s.db old row) : shared.db.records.lookup s.requestId = none ∧
      ∃ record, later.db.records.lookup s.requestId = some record ∧ record.userSubscriptionId = old.id ∧
        row = amountMeter.int64.charged (refresh s.env s.db old) record.preConsumed := by
  have same := (lookup_some stored).2
  have plain : ¬Held s none row := fun held => charged (held.renewed (same.symm ▸ initial))
  constructor
  · refine eq_none_iff_forall_ne_some.mpr fun record recorded => ?_
    cases exec_effect ran with
    | commit =>
      rcases single.view_row stored with held | kept
      · cases staged : (accts pid).staged with
        | none => exact plain (staged ▸ held)
        | some other => cases recorded.symm.trans ((single.stands pid).staged other staged).2.1
      · exact new kept
    | _ => exact new stored
  · obtain ⟨_, found, renewed | ⟨record, is, sub, charge, _⟩⟩ := single'.rows old.id row stored
    · rw [same, initial] at found
      cases found
      exact absurd renewed charged
    · rw [same, initial] at found
      cases found
      unfold made at is
      split at is
      · cases is
      · exact ⟨record, is, sub.trans same, charge⟩

variable {done : List Nat} {env : Env} {db : Db} {requestId : String}

theorem charge_recorded (charges : ChargesAt env db requestId calls done pid old row)
    (initial : done ++ [pid] <+: schedule)
    (run : Runs.exec (step exec) (start env db requestId calls) schedule = some final) :
    (∀ reached, Runs.exec (step exec) (start env db requestId calls) done = some reached →
      reached.shared.db.records.lookup requestId = none) ∧
    ∃ record, final.shared.db.records.lookup requestId = some record ∧ record.userSubscriptionId = old.id ∧
      row = amountMeter.int64.charged (refresh env db old) record.preConsumed := by
  obtain ⟨before, after, reached, taken, stored, new⟩ := charges.reached
  -- the call stands for nothing when the schedule is free
  have agree : Agree ⟨False, env, db, requestId, 0, "", 0⟩ calls before := coherent_run (single_preserved calls.length)
    (start_agrees False.elim) (guarded_always (fun _ _ _ _ _ => False.elim) done _) reached
  have agree' := coherent_step (single_preserved calls.length) agree (fun _ _ _ => False.elim) taken
  obtain ⟨_, accts, single, _⟩ := agree
  obtain ⟨_, accts', single', _⟩ := id agree'
  obtain ⟨stmt, next, answer, shared, _, ran, rfl⟩ := step_some taken
  obtain ⟨missing, record, recorded, sub, charge⟩ :=
    single.charge_step ran single' charges.initial stored new charges.charged
  refine ⟨fun other same => ?_, record, ?_, sub, charge⟩
  · cases reached.symm.trans same
    exact missing
  · obtain ⟨rest, rfl⟩ := initial
    rw [exec_append, exec_append, reached] at run
    change ((step exec before pid).bind some).bind _ = _ at run
    rw [taken] at run
    exact record_stays id agree' recorded run

end Runs

/-- At most one step of a run charges a subscription, and it charges what the record says. If the calls are of one user, model
and amount and none looks for candidates after the request has been recorded, every call that succeeds reports the record. -/
theorem request_charged_once (env : Env) (db : Db) (requestId : String) (calls : List Call) (schedule : List Nat)
    (final : Machine Answer Shared (Except String PreConsumeResult)) (results : Nat → Except String PreConsumeResult)
    (run : Runs.exec (step exec) (start env db requestId calls) schedule = some final)
    (finished : ∀ pid, pid < calls.length → final.processes[pid]? = some (.done (results pid))) :
    (∀ done pid old row done' pid' old' row', done ++ [pid] <+: schedule → done' ++ [pid'] <+: schedule →
      ChargesAt env db requestId calls done pid old row → ChargesAt env db requestId calls done' pid' old' row' →
      done = done' ∧ pid = pid' ∧ old = old') ∧
    (∀ done pid old row, done ++ [pid] <+: schedule → ChargesAt env db requestId calls done pid old row →
      ∃ record, final.shared.db.records.lookup requestId = some record ∧ record.userSubscriptionId = old.id ∧
        row.amountUsed = wrap64 ((refresh env db old).amountUsed + record.preConsumed)) ∧
    ∀ call, (∀ own ∈ calls, own = call) →
      Runs.Guarded (step exec) (whenPerforming (unrecorded requestId)) (start env db requestId calls) schedule →
      ∀ pid res, pid < calls.length → results pid = .ok res →
        ∃ record, final.shared.db.records.lookup requestId = some record ∧
          res.userSubscriptionId = record.userSubscriptionId ∧ res.preConsumed = record.preConsumed := by
  refine ⟨?_, fun done pid old row initial charges => ?_, fun call mine guarded pid res inside ok => ?_⟩
  · intro done pid old row done' pid' old' row' initial initial' charges charges'
    have first : ∀ {done pid old row done' pid' old' row'}, done' ++ [pid'] <+: schedule →
        ChargesAt env db requestId calls done pid old row → ChargesAt env db requestId calls done' pid' old' row' →
        ¬done ++ [pid] <+: done' := by
      intro done pid old row done' pid' old' row' initial' charges charges' earlier
      obtain ⟨before, _, reached, _⟩ := charges'.reached
      obtain ⟨_, record, recorded, _⟩ := charge_recorded charges earlier reached
      cases recorded.symm.trans ((charge_recorded charges' initial' run).1 before reached)
    have same : done ++ [pid] = done' ++ [pid'] := by
      rcases prefix_or_prefix_of_prefix initial initial' with earlier | later
      · exact (prefix_concat_iff.mp earlier).resolve_right (first initial' charges charges')
      · exact ((prefix_concat_iff.mp later).resolve_right (first initial charges' charges)).symm
    obtain ⟨rfl, last⟩ := append_inj' same rfl
    obtain ⟨_, record, recorded, sub, _⟩ := charge_recorded charges initial run
    obtain ⟨_, record', recorded', sub', _⟩ := charge_recorded charges' initial' run
    cases recorded.symm.trans recorded'
    have id : old.id = old'.id := sub.symm.trans sub'
    exact ⟨rfl, (cons.inj last).1, Option.some.inj (charges.initial.symm.trans (id ▸ charges'.initial))⟩
  · obtain ⟨_, record, recorded, sub, charge⟩ := charge_recorded charges initial run
    exact ⟨record, recorded, sub, by rw [charge]; rfl⟩
  · have strictly : Runs.Guarded (step exec) (whenPerforming fun shared pid stmt =>
        True → unrecorded requestId shared pid stmt) (start env db requestId calls) schedule :=
      guarded_mono (fun _ _ allowed stmt next found _ => allowed stmt next found) guarded
    have agree : Agree ⟨True, env, db, requestId, call⟩ calls final := coherent_run (single_preserved calls.length)
      (start_agrees fun _ => mine) strictly run
    obtain ⟨_, accts, single, meets⟩ := agree
    have answers : Answers _ (accts pid) (results pid) := meets pid _ (finished pid inside)
    have stands := single.stands pid
    obtain ⟨record, inserted | seen, sub, amount⟩ := answers trivial res ok
    · exact ⟨record, stands.committed record inserted, sub, amount⟩
    · exact ⟨record, stands.seen record seen, sub, amount⟩

def twoSubsDb : Db := { emptyDb with
  plans := Table.empty.save ⟨5, "plan", "never", 0, .quota⟩
  subs := (Table.empty.save ⟨2, 1, 5, 100, 0, 0, 1500, .active, 0, 0, 0, 0, ""⟩).save
    ⟨3, 1, 5, 100, 0, 0, 2000, .active, 0, 0, 0, 0, ""⟩ }

def twice : List Call := [⟨1, "model", 80⟩, ⟨1, "model", 80⟩]

theorem twoSubsDb_charges : ChargesAt plainEnv twoSubsDb "request" twice [0, 1, 1, 0, 0, 0, 0] 0
    ⟨2, 1, 5, 100, 0, 0, 1500, .active, 0, 0, 0, 0, ""⟩ ⟨2, 1, 5, 100, 80, 0, 1500, .active, 0, 0, 0, 0, ""⟩ where
  reached := ⟨_, _, rfl, rfl, rfl, by decide⟩
  initial := rfl
  charged := by
    unfold Renewed
    decide

/-- Both calls list the candidates before either inserts the record. -/
theorem twoSubsDb_replays :
    ∃ final, Runs.exec (step exec) (start plainEnv twoSubsDb "request" twice) [0, 1, 1, 0, 0, 0, 0, 0, 1, 1, 1, 1] =
        some final ∧ final.processes = [.done (.ok ⟨2, 80, 100, 0, 80, ""⟩), .done (.ok ⟨2, 80, 100, 0, 0, ""⟩)] ∧
      (∃ record, final.shared.db.records.lookup "request" = some record ∧ record.userSubscriptionId = 2 ∧
        80 = wrap64 (0 + record.preConsumed)) ∧
      ∃ record, final.shared.db.records.lookup "request" = some record ∧ 2 = record.userSubscriptionId ∧
        80 = record.preConsumed := by
  have guarded : Runs.Guarded (step exec) (whenPerforming (unrecorded "request"))
      (start plainEnv twoSubsDb "request" twice) [0, 1, 1, 0, 0, 0, 0, 0, 1, 1, 1, 1] := by
    iterate 2 refine guarded_cons (whenPerforming_call rfl trivial) rfl ?_
    iterate 2 refine guarded_cons (whenPerforming_call rfl rfl) rfl ?_
    iterate 8 refine guarded_cons (whenPerforming_call rfl trivial) rfl ?_
    trivial
  obtain ⟨_, charged, reported⟩ := request_charged_once plainEnv twoSubsDb "request" twice
    [0, 1, 1, 0, 0, 0, 0, 0, 1, 1, 1, 1] _
    (fun pid => if pid = 0 then .ok ⟨2, 80, 100, 0, 80, ""⟩ else .ok ⟨2, 80, 100, 0, 0, ""⟩) rfl (by
      intro pid inside
      match pid, inside with
      | 0, _ | 1, _ => rfl)
  exact ⟨_, rfl, rfl, charged _ 0 _ _ ⟨[1, 1, 1, 1], rfl⟩ twoSubsDb_charges,
    reported ⟨1, "model", 80⟩ (by decide) guarded 1 ⟨2, 80, 100, 0, 0, ""⟩ (by decide) rfl⟩

/-- The second call reads the candidates after the first one has charged, and reports a subscription that was never
charged. -/
theorem twoSubsDb_reports_uncharged :
    ∃ final, Runs.exec (step exec) (start plainEnv twoSubsDb "request" twice) [1, 0, 0, 0, 0, 0, 0, 1, 1, 1, 1, 1, 1] =
        some final ∧ final.processes = [.done (.ok ⟨2, 80, 100, 0, 80, ""⟩), .done (.ok ⟨3, 80, 100, 0, 0, ""⟩)] ∧
      final.shared.db.records.lookup "request" = some ⟨"request", 1, 2, 80, .consumed⟩ ∧
      final.shared.db.subs.column UserSubscription.amountUsed 3 = 0 :=
  ⟨_, rfl, rfl, by decide, by decide⟩

end Tokengine.Billing.Idempotence
