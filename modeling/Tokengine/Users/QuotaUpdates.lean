import Tokengine.Lib.Totals
import Tokengine.Users.Store

/-! Quota changes side by side with functions that write a whole user back. An addition in SQL is
never lost; a row or a struct that was filled before another change of the quota undoes that
change. Quotas add up in every interleaving in which what is written back still carries the quota
of the table. -/

namespace Tokengine.Users
open Interleaving Transactions List Function Option Table

def Write.delta (userId : Int) : Write → Int
  | .increaseUserQuota id quota => if userId = id then quota else 0
  | .decreaseUserQuota id quota => if userId = id then -quota else 0
  | .save loaded row => if userId = row.id then row.quota - loaded.quota else 0
  | .updates _ => 0

def Current (db : Store) : Write → Prop
  | .increaseUserQuota id _ | .decreaseUserQuota id _ => (db.lookup id).isSome
  | .save loaded _ => (db.lookup loaded.id).map User.quota = some loaded.quota
  | .updates newUser => newUser.quota = 0 ∨ (db.lookup newUser.id).map User.quota = some newUser.quota

instance (db : Store) (write : Write) : Decidable (Current db write) :=
  match write with
  | .increaseUserQuota .. | .decreaseUserQuota .. => inferInstanceAs (Decidable (_ = true))
  | .save .. => inferInstanceAs (Decidable (_ = _))
  | .updates _ => inferInstanceAs (Decidable (_ ∨ _))

def UpToDate (shared : Shared schema) (pid : Nat) : Statement schema → Prop
  | .write .global write => Current shared.db write
  | .commit => ∀ write ∈ shared.pending pid, Current shared.db write
  | _ => True

instance (shared : Shared schema) (pid : Nat) (stmt : Statement schema) : Decidable (UpToDate shared pid stmt) :=
  match stmt with
  | .write .global _ => inferInstanceAs (Decidable (Current _ _))
  | .commit => inferInstanceAs (Decidable (∀ write ∈ _, _))
  | .write .own _ | .read .. | .rollback | .lock _ | .unlock _ => isTrue trivial

def reported (userId : Int) (op : Op) : Except String Unit → Int
  | .ok _ => op.delta userId
  | .error _ => 0

/-! ### One write -/

def Write.Own : Write → Prop
  | .save loaded row => row.id = loaded.id
  | _ => True

variable {write : Write}

theorem quota_apply {db : Store} (own : write.Own) (cur : Current db write) (userId : Int) :
    (apply write db).column User.quota userId = db.column User.quota userId + write.delta userId := by
  cases write with
  | increaseUserQuota id quota =>
    exact column_update (fun user : User => { user with quota := user.quota + quota }) (fun _ => rfl) (fun _ => rfl)
      cur userId
  | decreaseUserQuota id quota =>
    exact column_update (fun user : User => { user with quota := user.quota - quota }) (fun _ => rfl)
      (fun _ => Int.sub_eq_add_neg) cur userId
  | save loaded row =>
    have same : row.id = loaded.id := own
    obtain ⟨stored, found, quota⟩ := map_eq_some_iff.mp cur
    simp only [apply, column, lookup_save, Write.delta]
    by_cases mine : userId = row.id
    · simp only [mine, if_true, map_some, getD_some]
      rw [same, found, map_some, getD_some, quota]
      omega
    · simp [mine]
  | updates newUser =>
    rw [apply, column, lookup_update newUser.updates (fun _ => rfl), column, Write.delta, Int.add_zero]
    by_cases mine : userId = newUser.id
    · rw [if_pos mine, mine]
      cases found : db.lookup newUser.id with
      | none => rfl
      | some row =>
        obtain none | carried := cur
        · simp [User.updates, given, none]
        · rw [found, map_some, Option.some.injEq] at carried
          simp only [map_some, getD_some, User.updates, given, ← carried]
          split <;> rfl
    · rw [if_neg mine]

/-! ### The account of a call -/

/-- The writes a call's transaction holds, and what its writes have added to the quotas. -/
structure Call where
  pending : List Write
  moved : Int → Int

def idle : Call := ⟨[], 0⟩

def allowed (acct : Call) : Statement schema → Prop
  | .write .global write => write.Own
  | .write .own write => write.Own ∧ acct.pending = []
  | _ => True

def track (acct : Call) : (stmt : Statement schema) → Answer stmt → Call
  | .write .global write, .ok _ => { acct with moved := fun userId => acct.moved userId + write.delta userId }
  | .write .own write, .ok _ => { acct with pending := [write] }
  | .commit, .ok _ =>
    ⟨[], fun userId => acct.moved userId + (acct.pending.map (Write.delta userId)).sum⟩
  | .commit, .error _ => { acct with pending := [] }
  | .rollback, _ => { acct with pending := [] }
  | _, _ => acct

def answered : (stmt : Statement schema) → Answer stmt → Prop
  | .read _ (.user id), answer => ∀ user, answer = .ok (some user) → user.id = id
  | _, _ => True

def discipline : Discipline (@Answer schema) Call := ⟨allowed, fun _ => answered, track⟩

/-- The quotas are the first ones plus what the calls have added, and a transaction holds at most one write. -/
structure Held (start : Store) (count : Nat) (shared : Shared schema) (accts : Nat → Call) : Prop where
  pending : ∀ pid, shared.pending pid = (accts pid).pending
  single : ∀ pid, (accts pid).pending = [] ∨ ∃ write : Write, (accts pid).pending = [write] ∧ write.Own
  quota : ∀ userId, shared.db.column User.quota userId =
    start.column User.quota userId + ∑ pid ∈ Finset.range count, (accts pid).moved userId

section Steps

variable {start : Store} {count pid : Nat} {shared after : Shared schema} {accts : Nat → Call}

section

variable (held : Held start count shared accts) (inside : pid < count)
include held inside

/-- A call takes a step: its transaction holds `rest` from then on, and the quotas move as it accounts for. -/
theorem Held.step {next : Call} (pending : after.pending = update shared.pending pid next.pending)
    (single : next.pending = [] ∨ ∃ write : Write, next.pending = [write] ∧ write.Own)
    (moved : ∀ userId, after.db.column User.quota userId =
      shared.db.column User.quota userId + (next.moved userId - (accts pid).moved userId)) :
    Held start count after (update accts pid next) := by
  refine ⟨?_, ?_, fun userId => ?_⟩
  · rw [pending, forall_update_iff accts fun other acct =>
      update shared.pending pid next.pending other = acct.pending]
    refine ⟨update_self .., fun other ne => ?_⟩
    rw [update_of_ne ne]
    exact held.pending other
  · rw [forall_update_iff accts fun _ acct =>
      acct.pending = [] ∨ ∃ write : Write, acct.pending = [write] ∧ write.Own]
    exact ⟨single, fun other _ => held.single other⟩
  · rw [moved, held.quota, sum_range_update inside accts next fun acct => acct.moved userId, Int.add_assoc]

theorem Held.same {next : Call}
    (table : after.db = shared.db) (pending : after.pending = shared.pending) (unchanged : next = accts pid) :
    Held start count after (update accts pid next) := by
  subst unchanged
  refine held.step inside ?_ (held.single pid) fun userId => ?_
  · rw [pending, ← held.pending pid, update_eq_self]
  · rw [table]
    omega

theorem Held.abandon (table : after.db = shared.db) (pending : after.pending = update shared.pending pid []) :
    Held start count after (update accts pid { accts pid with pending := [] }) := by
  refine held.step inside pending (Or.inl rfl) fun userId => ?_
  rw [table]
  simp

theorem Held.taken (own : write.Own) (cur : Current shared.db write) :
    Held start count (shared.answered.take pid [write])
      (update accts pid (track (accts pid) (.write .global write) (.ok ()))) := by
  refine held.step inside ?_ (held.single pid) fun userId => ?_
  · change shared.pending = update shared.pending pid (accts pid).pending
    rw [← held.pending pid, update_eq_self]
  have moved := quota_apply own cur userId
  change (apply write shared.db).column User.quota userId = _
  simp only [track]
  omega

theorem Held.staged (own : write.Own) (first : (accts pid).pending = []) :
    Held start count (shared.answered.stage pid write)
      (update accts pid (track (accts pid) (.write .own write) (.ok ()))) := by
  refine held.step inside ?_ (Or.inr ⟨write, rfl, own⟩) fun userId => ?_
  · change update shared.pending pid (shared.pending pid ++ [write]) = update shared.pending pid [write]
    rw [held.pending pid, first, nil_append]
  · change shared.db.column User.quota userId = _
    simp only [track]
    omega

theorem Held.committed (cur : ∀ write ∈ shared.pending pid, Current shared.db write) :
    Held start count ((shared.answered.take pid (shared.pending pid)).close pid)
      (update accts pid (track (accts pid) .commit (.ok ()))) := by
  refine held.step inside rfl (Or.inl rfl) fun userId => ?_
  change (@applyAll schema (shared.pending pid) shared.db).column User.quota userId = _
  simp only [track]
  rw [held.pending pid] at cur ⊢
  obtain none | ⟨write, same, own⟩ := held.single pid
  · rw [none]
    simp [applyAll]
  rw [same] at cur ⊢
  have moved := quota_apply own (cur write mem_cons_self) userId
  change (apply write shared.db).column User.quota userId = _
  simp only [map_cons, map_nil, sum_cons, sum_nil]
  omega

end

theorem held_preserved (start : Store) (count : Nat) :
    Preserved exec (fun _ => discipline) (Held start count) UpToDate count := by
  intro pid shared accts stmt answer after inside held kept cur ran
  cases exec_effect ran with
  | unread handle query e =>
    cases query
    exact ⟨nofun, held.same inside rfl rfl rfl⟩
  | read handle query =>
    cases query
    exact ⟨fun _ same => (lookup_some (Except.ok.inj same)).2, held.same inside rfl rfl rfl⟩
  | unwritten handle write e faulty =>
    have tracked : track (accts pid) (.write handle write) (.error e) = accts pid := by cases handle <;> rfl
    exact ⟨trivial, held.same inside rfl rfl tracked⟩
  | staged write => exact ⟨trivial, held.staged inside kept.1 kept.2⟩
  | taken write => exact ⟨trivial, held.taken inside kept cur⟩
  | refused e => exact ⟨trivial, held.abandon inside rfl rfl⟩
  | committed => exact ⟨trivial, held.committed inside cur⟩
  | rolledBack => exact ⟨trivial, held.abandon inside rfl rfl⟩
  | locked | unlocked => exact ⟨trivial, held.same inside rfl rfl rfl⟩

end Steps

/-! ### Every call keeps to the discipline -/

section Calls

variable {cfg : Settings} {acct : Call} {op : Op}

theorem obeys_firstUser (handle : Handle) (id : Int) : Obeys discipline acct (firstUser handle id) fun after res =>
      after = acct ∧ ∀ user, res = .ok user → user.id = id := by
  have reads : Obeys discipline acct (@Transactions.query schema handle (.user id)) fun after res =>
      after = acct ∧ ∀ user, res = .ok (some user) → user.id = id :=
    @obeys_query schema handle (.user id) _ discipline acct _ trivial fun answer found => ⟨rfl, found⟩
  refine obeys_bind reads (fun after found reached => ?_) fun after e reached => ⟨reached.1, nofun⟩
  cases found with
  | none => exact obeys_throw ⟨reached.1, nofun⟩
  | some user =>
    refine obeys_pure ⟨reached.1, fun other same => ?_⟩
    cases same
    exact reached.2 user rfl

theorem obeys_getUserById (id : Int) : Obeys discipline acct (getUserById id) fun after res =>
      after = acct ∧ ∀ user, res = .ok user → user.id = id :=
  obeys_guard ⟨rfl, nofun⟩ fun _ => obeys_firstUser .global id

def Ends (op : Op) (acct : Call) (res : Except String Unit) : Prop :=
  acct.pending = [] ∧ ∀ userId, acct.moved userId = reported userId op res

theorem ends_idle (nothing : ∀ userId, op.delta userId = 0) (res : Except String Unit) : Ends op idle res := by
  refine ⟨rfl, fun userId => ?_⟩
  cases res with
  | ok => exact (nothing userId).symm
  | error => rfl

theorem ends_error (op : Op) (e : String) : Ends op idle (.error e) := ⟨rfl, fun _ => rfl⟩

theorem obeys_execute_ends (own : write.Own) (adds : ∀ userId, write.delta userId = op.delta userId) :
    Obeys discipline idle (execute .global write) (Ends op) := by
  refine obeys_execute own fun answer _ => ?_
  cases answer with
  | error e => exact ends_error op e
  | ok =>
    refine ⟨rfl, fun userId => ?_⟩
    change 0 + write.delta userId = op.delta userId
    rw [Int.zero_add, adds]

theorem obeys_inviteUser (inviterId : Int) :
    Obeys discipline idle (inviteUser cfg inviterId) (Ends (.inviteUser inviterId)) := by
  refine obeys_bind (obeys_getUserById inviterId) (fun after user reached => ?_) fun after e reached => ?_
  · rw [reached.1]
    refine obeys_execute_ends rfl fun userId => ?_
    simp [Write.delta, Op.delta]
  · rw [reached.1]
    exact ends_error _ e

def Transfers (id quota : Int) (acct : Call) : Except String Unit → Prop
  | .ok _ => acct.moved = 0 ∧ ∃ loaded row, acct.pending = [.save loaded row] ∧ row.id = id ∧
      row.quota = loaded.quota + quota
  | .error _ => acct.moved = 0

theorem obeys_transferTx (id quota : Int) : Obeys discipline idle (transferTx id quota) (Transfers id quota) := by
  refine obeys_bind (obeys_firstUser .own id) (fun after user reached => ?_) fun after e reached => ?_
  · obtain ⟨rfl, found⟩ := reached
    refine obeys_guard rfl fun _ => ?_
    refine obeys_execute ⟨rfl, rfl⟩ fun answer _ => ?_
    cases answer with
    | error e => rfl
    | ok => exact ⟨rfl, user, _, rfl, found user rfl, rfl⟩
  · rw [reached.1]
    rfl

theorem obeys_transferAffQuotaToQuota (id quota : Int) :
    Obeys discipline idle (transferAffQuotaToQuota cfg id quota) (Ends (.transferAffQuotaToQuota id quota)) := by
  refine obeys_guard (ends_error _ _) fun _ => ?_
  refine obeys_transaction (obeys_mono (obeys_transferTx id quota) fun acct res reached => ?_)
  cases res with
  | error e =>
    have nothing : acct.moved = 0 := reached
    exact ⟨trivial, fun _ => ⟨rfl, fun userId => congrFun nothing userId⟩⟩
  | ok val =>
    obtain ⟨nothing, loaded, row, held, mine, added⟩ := reached
    refine ⟨trivial, fun answer _ => ?_⟩
    cases answer with
    | error e => exact ⟨rfl, fun userId => congrFun nothing userId⟩
    | ok =>
      refine ⟨rfl, fun userId => ?_⟩
      change acct.moved userId + (acct.pending.map (Write.delta userId)).sum =
        Op.delta userId (.transferAffQuotaToQuota id quota)
      rw [nothing, held]
      simp only [map_cons, map_nil, sum_cons, sum_nil, Write.delta, Op.delta, mine, added, Pi.zero_apply]
      split <;> omega

theorem obeys_result {α : Type} {res : Except String α} {post : Call → Except String α → Prop}
    (holds : ∀ res, post acct res) : Obeys discipline acct (computed res) post := ⟨holds res⟩

theorem obeys_updates (newUser : User) :
    Obeys discipline idle (execute .global (.updates newUser)) fun acct _ => acct = idle := by
  refine obeys_execute trivial fun answer _ => ?_
  cases answer with
  | error => rfl
  | ok =>
    congr 1

/-- Nothing that `User.Update` writes counts as a change of the quota. -/
theorem obeys_updateUser (nothing : ∀ userId, op.delta userId = 0) (user : User) (updatePassword : Bool) :
    Obeys discipline idle (updateUser cfg user updatePassword) (Ends op) := by
  have hashed : Obeys discipline idle (storedPassword cfg user updatePassword) fun acct _ => acct = idle :=
    obeys_ite (fun _ => obeys_result fun _ => rfl) fun _ => obeys_pure rfl
  refine obeys_bind hashed (fun acct password reached => ?_) fun acct e reached => ?_
  · subst reached
    refine obeys_attempt (obeys_firstUser .global user.id) fun acct found reached => ?_
    rw [reached.1]
    refine obeys_bind (obeys_updates _) (fun acct _ reached => ?_) fun acct e reached => ?_
    · subst reached
      exact obeys_result fun res => ends_idle nothing res
    · rw [(reached : acct = idle)]
      exact ends_error op e
  · rw [(reached : acct = idle)]
    exact ends_error op e

theorem obeys_editProfile (id : Int) (edit : Edit) :
    Obeys discipline idle (editProfile cfg id edit) (Ends (.editProfile id edit)) := by
  refine obeys_bind (obeys_getUserById id) (fun acct user reached => ?_) fun acct e reached => ?_
  · rw [reached.1]
    exact obeys_updateUser (fun _ => rfl) _ _
  · rw [reached.1]
    exact ends_error _ e

theorem obeys_op (op : Op) : Obeys discipline idle (op.script cfg) (Ends op) := by
  cases op with
  | increaseUserQuota | decreaseUserQuota => exact obeys_execute_ends trivial fun _ => rfl
  | inviteUser inviterId => exact obeys_inviteUser inviterId
  | transferAffQuotaToQuota id quota => exact obeys_transferAffQuotaToQuota id quota
  | updateUser user updatePassword => exact obeys_updateUser (fun _ => rfl) user updatePassword
  | editProfile id edit => exact obeys_editProfile id edit

end Calls

/-! ### Interleavings -/

def start (cfg : Settings) (db : Store) (faults : List (Option String)) (ops : List Op) :
    Machine (@Answer schema) (Shared schema) (Except String Unit) :=
  launch db faults (ops.map (Op.script cfg))

theorem held_launch (db : Store) (faults : List (Option String)) (count : Nat) :
    Held db count { quiet db with faults := faults } fun _ => idle :=
  ⟨fun _ => rfl, fun _ => Or.inl rfl, fun _ => by simp [idle, quiet]⟩

/-- Every user's quota is what it was plus the changes that were reported successful, in every interleaving in which no
call writes back a quota that has changed since it was read. -/
theorem quota_updates_add_up (cfg : Settings) (db : Store) (faults : List (Option String)) (ops : List Op)
    (schedule : List Nat) (final : Machine (@Answer schema) (Shared schema) (Except String Unit))
    (results : Nat → Except String Unit)
    (upToDate : Runs.Guarded (step exec) (whenPerforming UpToDate) (start cfg db faults ops) schedule)
    (run : Runs.exec (step exec) (start cfg db faults ops) schedule = some final)
    (finished : ∀ pid, pid < ops.length → final.processes[pid]? = some (.done (results pid))) (userId : Int) :
    final.shared.db.column User.quota userId = db.column User.quota userId +
      ∑ pid ∈ Finset.range ops.length, (ops[pid]?).elim 0 fun op => reported userId op (results pid) := by
  have obeys : ∀ (pid : Nat) program, (ops.map (Op.script cfg))[pid]? = some program →
      Obeys discipline idle program fun acct res => ∀ op, ops[pid]? = some op → Ends op acct res := by
    intro pid program listed
    rw [getElem?_map] at listed
    obtain ⟨op, present, rfl⟩ := map_eq_some_iff.mp listed
    refine obeys_mono (obeys_op op) fun acct res ends other same => ?_
    cases present.symm.trans same
    exact ends
  obtain ⟨_, accts, held, meets⟩ :=
    coherent_run (held_preserved db _) (launch_coherent_each (held_launch db faults _) obeys) upToDate run
  rw [held.quota, length_map]
  congr 1
  apply Finset.sum_congr rfl
  intro pid mem
  have inside := Finset.mem_range.mp mem
  have present : ops[pid]? = some (ops.get ⟨pid, inside⟩) := getElem?_eq_getElem inside
  have ends := meets pid _ (finished pid inside) _ present
  rw [ends.2 userId, present]
  rfl

def plainSettings : Settings := ⟨50, 10, fun _ => "", fun text => .ok text, fun _ => .ok ()⟩

def richUser : Store := Table.empty.save { id := 7, username := "u", quota := 1000, affQuota := 40 }

def inviteAndCharge : List Op := [.inviteUser 7, .decreaseUserQuota 7 300]

theorem quota_updates_add_up_in_turn :
    ∃ final, Runs.exec (step exec) (start plainSettings richUser [] inviteAndCharge) [0, 0, 1] = some final ∧
      final.shared.db.column User.quota 7 = richUser.column User.quota 7 +
        ∑ pid ∈ Finset.range 2, (inviteAndCharge[pid]?).elim 0 fun op => reported 7 op (.ok ()) := by
  refine ⟨_, rfl, quota_updates_add_up plainSettings richUser [] inviteAndCharge [0, 0, 1] _ (fun _ => .ok ()) ?_ rfl ?_ 7⟩
  · decide +kernel
  · intro pid inside
    match pid, inside with
    | 0, _ | 1, _ => rfl

/-- The invitation has read the row before the charge, and saves it after it: the charge is lost. -/
theorem charge_lost :
    ∃ final, Runs.exec (step exec) (start plainSettings richUser [] inviteAndCharge) [0, 1, 0] = some final ∧
      final.processes = [.done (.ok ()), .done (.ok ())] ∧ richUser.column User.quota 7 = 1000 ∧
      final.shared.db.column User.quota 7 = 1000 :=
  ⟨_, rfl, rfl, by decide, by decide⟩

end Tokengine.Users
