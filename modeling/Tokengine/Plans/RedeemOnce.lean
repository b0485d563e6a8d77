import Tokengine.Plans.Store

/-! Concurrent calls of `Redeem` on one code. The lock that the read asks for is not taken, and a subscription
is inserted outside the transaction that marks the code. As long as the calls keep out of each other's way and the
mark is not refused after the insert, the code is worth exactly one grant. -/

namespace Tokengine.Plans.RedeemOnce
open Transactions Interleaving Model Database List Function Table Runs

def isGrant : Write → Bool
  | .addQuota _ _ => true
  | .createSub _ => true
  | _ => false

def grants : List (Event schema) → List (Nat × Write)
  | [] => []
  | .wrote pid write :: earlier => if isGrant write then (pid, write) :: grants earlier else grants earlier
  | _ :: earlier => grants earlier

def credited (userId : Int) (grants : List (Nat × Write)) : Int :=
  (grants.map fun grant => match grant.2 with
    | .addQuota user amount => if userId = user then amount else 0
    | _ => 0).sum

def marksPlan : Write → Bool
  | .saveRedemption row => decide (0 < row.planId)
  | _ => false

section Code

variable (key : String)

def readers : List (Event schema) → List Nat
  | [] => []
  | .asked pid query :: earlier => if query = .redemption key then pid :: readers earlier else readers earlier
  | .closed pid :: earlier => (readers earlier).filter fun reader => decide (reader ≠ pid)
  | .wrote _ _ :: earlier => readers earlier

def Used (db : Store) : Prop := ∃ row, db.redemptions.lookup key = some row ∧ row.status = .used

/-- A call reads the code while no other call that has read it is still in its transaction; the user of a code for quota
exists; and the driver accepts the mark and the commit of a code for a plan. -/
def Exclusive (shared : Shared schema) (pid : Nat) : Statement schema → Prop
  | .read _ (.redemption _) => readers key shared.history = []
  | .write _ (.addQuota userId _) => (shared.db.users.lookup userId).isSome = true
  | .write _ (.saveRedemption row) => 0 < row.planId → accepts shared = true
  | .commit => (shared.pending pid).any marksPlan = true → accepts shared = true
  | _ => True

instance (shared : Shared schema) (pid : Nat) (stmt : Statement schema) : Decidable (Exclusive key shared pid stmt) :=
  match stmt with
  | .read _ (.redemption _) => @instDecidableEqList _ instDecidableEqNat _ _
  | .write _ (.addQuota _ _) => instDecidableEqBool _ _
  | .write _ (.saveRedemption _) => @instDecidableForall _ _ (Int.decLt _ _) (instDecidableEqBool _ _)
  | .commit => @instDecidableForall _ _ (instDecidableEqBool _ _) (instDecidableEqBool _ _)
  | .read _ (.group _) | .read _ (.subCount ..) | .read _ (.plan _) | .read _ (.sub _)
  | .read _ (.activeUpgraded ..) | .read _ (.lastExpired _) | .read _ (.due ..) | .read _ (.userQuota _) => isTrue trivial
  | .write _ (.group ..) | .write _ (.createSub _) | .write _ (.expireDue ..) | .write _ (.cancelSub ..)
  | .write _ (.deleteSub _) | .write _ (.saveOrder _) => isTrue trivial
  | .rollback | .lock _ | .unlock _ => isTrue trivial

/-! What a call knows. -/

/-- How far a call is: it holds what it has read of the code, it has inserted the subscription, it has ended. -/
inductive Stage where
  | fresh
  | holds (code : Option Redemption)
  | inserted
  | ended (granted : Bool)

def Stage.isOpen : Stage → Bool
  | .holds _ => true
  | .inserted => true
  | _ => false

def Stage.granting : Stage → Bool
  | .inserted => true
  | .ended granted => granted
  | _ => false

structure Call where
  pending : List Write
  stage : Stage

def Marks (row : Redemption) : Prop := row.key = key ∧ row.status = .used

def Entitled (acct : Call) : Prop := ∃ code : Redemption, code.status = .enabled ∧ acct = ⟨[], .holds (some code)⟩

inductive Ready : Call → Prop
  | plan (row : Redemption) (marks : Marks key row) (good : 0 < row.planId) : Ready ⟨[.saveRedemption row], .inserted⟩
  | quota (code row : Redemption) (userId amount : Int) (enabled : code.status = .enabled) (marks : Marks key row) :
      Ready ⟨[.addQuota userId amount, .saveRedemption row], .holds (some code)⟩

def Idle (acct : Call) : Prop := acct.stage = .fresh ∨ ∃ code, acct.stage = .holds code

def allowed (acct : Call) : Statement schema → Prop
  | .read _ (.redemption read) => read = key ∧ acct = ⟨[], .fresh⟩
  | .read _ _ => True
  | .write .global (.createSub _) => Entitled acct
  | .write .own (.addQuota _ _) => Entitled acct
  | .write .own (.saveRedemption row) => Marks key row ∧ (acct = ⟨[], .inserted⟩ ∧ 0 < row.planId ∨
      ∃ code userId amount, acct = ⟨[.addQuota userId amount], .holds code⟩)
  | .commit => Ready key acct
  | .rollback => Idle acct
  | _ => False

def answered (acct : Call) : (stmt : Statement schema) → Answer stmt → Prop
  | .read _ (.redemption _), answer => ∀ row, answer = .ok (some row) → row.key = key
  | .write .own (.saveRedemption _), answer => acct.stage = .inserted → answer = .ok ()
  | .commit, answer => acct.stage = .inserted → answer = .ok ()
  | _, _ => True

def track (acct : Call) : (stmt : Statement schema) → Answer stmt → Call
  | .read _ (.redemption _), .ok code => { acct with stage := .holds code }
  | .write .global _, .ok _ => { acct with stage := .inserted }
  | .write .own write, .ok _ => { acct with pending := acct.pending ++ [write] }
  | .commit, .ok _ => ⟨[], .ended true⟩
  | .commit, .error _ => ⟨[], .ended false⟩
  | .rollback, _ => ⟨[], .ended false⟩
  | _, _ => acct

def discipline : Discipline (@Answer schema) Call := ⟨allowed key, answered key, track⟩

/-- Nothing was granted; the subscription is inserted and the code is not marked yet; the code is used. -/
inductive Phase (shared : Shared schema) (accts : Nat → Call) : Prop
  | unused (idle : ∀ pid, (accts pid).stage.granting = false) (nothing : grants shared.history = [])
      (unmarked : ¬Used key shared.db)
  | inserted (pid : Nat) (write : Write) (mine : (accts pid).stage = .inserted)
      (idle : ∀ other, other ≠ pid → (accts other).stage.granting = false) (once : grants shared.history = [(pid, write)])
      (unmarked : ¬Used key shared.db)
  | used (pid : Nat) (write : Write) (mine : (accts pid).stage = .ended true)
      (idle : ∀ other, other ≠ pid → (accts other).stage.granting = false) (once : grants shared.history = [(pid, write)])
      (marked : Used key shared.db)

structure Held (start : Store) (count : Nat) (shared : Shared schema) (accts : Nat → Call) : Prop where
  pending : ∀ pid, shared.pending pid = (accts pid).pending
  credits : ∀ pid userId amount, .addQuota userId amount ∈ (accts pid).pending →
    (shared.db.users.lookup userId).isSome = true
  listed : ∀ pid, (accts pid).stage.isOpen = true → pid ∈ readers key shared.history
  exclusive : ∀ pid other, (accts pid).stage.isOpen = true → (accts other).stage.isOpen = true → pid = other
  current : ∀ pid code, (accts pid).stage = .holds code → shared.db.redemptions.lookup key = code
  absent : ∀ pid, count ≤ pid → (accts pid).stage = .fresh
  phase : Phase key shared accts
  balance : ∀ userId, shared.db.users.column Member.quota userId =
    start.users.column Member.quota userId + credited userId (grants shared.history)

end Code

variable {key : String} {start : Store} {count : Nat} {shared after : Shared schema} {accts : Nat → Call} {pid : Nat}
  {code : Redemption}

theorem Phase.carry (phase : Phase key shared accts) {accounts' : Nat → Call}
    (code : after.db.redemptions = shared.db.redemptions) (same : grants after.history = grants shared.history)
    (stages : ∀ pid, (accounts' pid).stage = (accts pid).stage ∨
      (accts pid).stage.granting = false ∧ (accounts' pid).stage.granting = false) : Phase key after accounts' := by
  have idle : ∀ pid, (accts pid).stage.granting = false → (accounts' pid).stage.granting = false := by
    intro pid nothing
    rcases stages pid with equal | idle
    · rw [equal]
      exact nothing
    · exact idle.2
  have keeps : ∀ pid, (accts pid).stage.granting = true → (accounts' pid).stage = (accts pid).stage := by
    intro pid grants
    refine (stages pid).resolve_right fun idle => ?_
    rw [idle.1] at grants
    cases grants
  have used : Used key after.db ↔ Used key shared.db := by rw [Used, Used, code]
  cases phase with
  | unused none nothing unmarked =>
    exact .unused (fun pid => idle pid (none pid)) (same.trans nothing) fun marked => unmarked (used.mp marked)
  | inserted pid write mine others once unmarked =>
    refine .inserted pid write ((keeps pid (by rw [mine]; rfl)).trans mine) (fun other ne => ?_) (same.trans once)
      fun marked => unmarked (used.mp marked)
    exact idle other (others other ne)
  | used pid write mine others once marked =>
    refine .used pid write ((keeps pid (by rw [mine]; rfl)).trans mine) (fun other ne => ?_) (same.trans once)
      (used.mpr marked)
    exact idle other (others other ne)

/-- What a step of the call `pid` leaves to the others. -/
structure Carried (key : String) (start : Store) (pid : Nat) (shared after : Shared schema) : Prop where
  users : ∀ userId, (shared.db.users.lookup userId).isSome = true → (after.db.users.lookup userId).isSome = true
  listed : ∀ other, other ≠ pid → other ∈ readers key shared.history → other ∈ readers key after.history
  balance : ∀ userId, after.db.users.column Member.quota userId =
    start.users.column Member.quota userId + credited userId (grants after.history)

variable (held : Held key start count shared accts)

include held

theorem Held.same (db : after.db = shared.db)
    (pending : after.pending = shared.pending) (listed : readers key after.history = readers key shared.history)
    (granted : grants after.history = grants shared.history) : Held key start count after accts where
  pending := by rw [pending]; exact held.pending
  credits := by rw [db]; exact held.credits
  listed := by rw [listed]; exact held.listed
  exclusive := held.exclusive
  current := by rw [db]; exact held.current
  absent := held.absent
  phase := held.phase.carry (by rw [db]) granted fun _ => Or.inl rfl
  balance := by rw [db, granted]; exact held.balance

theorem Held.nothing (mine : (accts pid).stage = .holds (some code)) (enabled : code.status = .enabled) :
    (∀ other, (accts other).stage.granting = false) ∧ grants shared.history = [] ∧ ¬Used key shared.db := by
  have unmarked : ¬Used key shared.db := by
    rintro ⟨row, found, used⟩
    rw [held.current pid (some code) mine] at found
    cases found
    rw [enabled] at used
    cases used
  cases held.phase with
  | unused none nothing _ => exact ⟨none, nothing, unmarked⟩
  | inserted other write theirs =>
    have same := held.exclusive pid other (by rw [mine]; rfl) (by rw [theirs]; rfl)
    rw [← same, mine] at theirs
    cases theirs
  | used _ _ _ _ _ marked => exact absurd marked unmarked

theorem Held.step {next : Call} (inside : pid < count) (pending : after.pending = update shared.pending pid next.pending)
    (carried : Carried key start pid shared after)
    (credits : ∀ userId amount, .addQuota userId amount ∈ next.pending → (after.db.users.lookup userId).isSome = true)
    (mine : next.stage.isOpen = true → pid ∈ readers key after.history)
    (alone : next.stage.isOpen = true → ∀ other, other ≠ pid → (accts other).stage.isOpen ≠ true)
    (cur : ∀ code, next.stage = .holds code → after.db.redemptions.lookup key = code)
    (unmarked : ∀ other, other ≠ pid → (accts other).stage.isOpen = true →
      after.db.redemptions.lookup key = shared.db.redemptions.lookup key)
    (phase : Phase key after (update accts pid next)) : Held key start count after (update accts pid next) where
  pending := by
    rw [pending, forall_update_iff accts fun other acct =>
      update shared.pending pid next.pending other = acct.pending]
    refine ⟨update_self .., fun other ne => ?_⟩
    rw [update_of_ne ne]
    exact held.pending other
  credits := by
    rw [forall_update_iff accts fun _ acct => ∀ userId amount, .addQuota userId amount ∈ acct.pending →
      (after.db.users.lookup userId).isSome = true]
    exact ⟨credits, fun other _ userId amount member => carried.users userId (held.credits other userId amount member)⟩
  listed := by
    rw [forall_update_iff accts fun other acct => acct.stage.isOpen = true → other ∈ readers key after.history]
    exact ⟨mine, fun other ne isOpen => carried.listed other ne (held.listed other isOpen)⟩
  exclusive := by
    have only : next.stage.isOpen = true → ∀ other, (update accts pid next other).stage.isOpen = true → other = pid := by
      intro isOpen other opens
      by_contra ne
      rw [update_of_ne ne] at opens
      exact alone isOpen other ne opens
    intro first second opens opens'
    by_cases isOpen : next.stage.isOpen = true
    · rw [only isOpen first opens, only isOpen second opens']
    have others : ∀ other, (update accts pid next other).stage.isOpen = true →
        (accts other).stage.isOpen = true := by
      rw [forall_update_iff accts fun other acct => acct.stage.isOpen = true → (accts other).stage.isOpen = true]
      exact ⟨fun opens => absurd opens isOpen, fun _ _ opens => opens⟩
    exact held.exclusive first second (others first opens) (others second opens')
  current := by
    rw [forall_update_iff accts fun _ acct => ∀ code, acct.stage = .holds code →
      after.db.redemptions.lookup key = code]
    refine ⟨cur, fun other ne code holds => ?_⟩
    rw [unmarked other ne (by rw [holds]; rfl)]
    exact held.current other code holds
  absent := by
    rw [forall_update_iff accts fun other acct => count ≤ other → acct.stage = .fresh]
    exact ⟨fun outside => absurd inside (Nat.not_lt.mpr outside), fun other _ => held.absent other⟩
  phase := phase
  balance := carried.balance

omit held

theorem Phase.move (phase : Phase key shared accts) {next : Call} (code : after.db.redemptions = shared.db.redemptions)
    (same : grants after.history = grants shared.history)
    (stage : next.stage = (accts pid).stage ∨ (accts pid).stage.granting = false ∧ next.stage.granting = false) :
    Phase key after (update accts pid next) := by
  refine phase.carry code same ?_
  rw [forall_update_iff accts fun other acct => acct.stage = (accts other).stage ∨
    (accts other).stage.granting = false ∧ acct.stage.granting = false]
  exact ⟨stage, fun _ _ => Or.inl rfl⟩

section

variable (held : Held key start count shared accts) (inside : pid < count)
include held inside

theorem Held.read (kept : accts pid = ⟨[], .fresh⟩) (alone : readers key shared.history = []) :
    Held key start count (shared.answered.note (.asked pid (.redemption key)))
      (update accts pid ⟨[], .holds (shared.db.redemptions.lookup key)⟩) := by
  have closed : ∀ other, (accts other).stage.isOpen ≠ true := fun other isOpen => by
    have reads := held.listed other isOpen
    rw [alone] at reads
    cases reads
  have listed : readers key (.asked pid (.redemption key) :: shared.history) = [pid] := by simp [readers, alone]
  have pending : shared.pending = update shared.pending pid [] := by
    rw [eq_comm, update_eq_self_iff, held.pending pid, kept]
  refine held.step inside pending ⟨fun _ present => present, fun other _ reads => ?_, held.balance⟩ nofun
    (fun _ => ?_) (fun _ other _ => closed other) (fun code same => ?_) (fun _ _ _ => rfl) (held.phase.move rfl rfl ?_)
  · rw [alone] at reads
    cases reads
  · change pid ∈ readers key (.asked pid (.redemption key) :: shared.history)
    rw [listed]
    exact mem_singleton_self pid
  · cases same
    rfl
  · exact Or.inr ⟨by rw [kept]; rfl, rfl⟩

theorem Held.stage (write : Write)
    (credits : ∀ userId amount, write = .addQuota userId amount → (shared.db.users.lookup userId).isSome = true) :
    Held key start count (shared.answered.stage pid write)
      (update accts pid { accts pid with pending := (accts pid).pending ++ [write] }) := by
  have pending : update shared.pending pid (shared.pending pid ++ [write]) =
      update shared.pending pid ((accts pid).pending ++ [write]) := by rw [held.pending pid]
  refine held.step inside pending ⟨fun _ present => present, fun _ _ reads => reads, held.balance⟩
    (fun userId amount member => ?_) (held.listed pid)
    (fun isOpen other ne isOpen' => ne (held.exclusive other pid isOpen' isOpen))
    (held.current pid) (fun _ _ _ => rfl) (held.phase.move rfl rfl (Or.inl rfl))
  rcases mem_append.mp member with before | last
  · exact held.credits pid userId amount before
  · exact credits userId amount (mem_singleton.mp last).symm

theorem Held.abandon (idle : Idle (accts pid))
    (db : after.db = shared.db) (pending : after.pending = update shared.pending pid [])
    (history : after.history = .closed pid :: shared.history) :
    Held key start count after (update accts pid ⟨[], .ended false⟩) := by
  have granted : grants after.history = grants shared.history := by rw [history]; rfl
  refine held.step inside pending ⟨by rw [db]; exact fun _ present => present, fun other ne reads => ?_, ?_⟩ nofun
    nofun nofun nofun (fun _ _ _ => by rw [db]) (held.phase.move (by rw [db]) granted (Or.inr ⟨?_, rfl⟩))
  · rw [history]
    exact mem_filter.mpr ⟨reads, decide_eq_true ne⟩
  · rw [db, granted]
    exact held.balance
  · rcases idle with fresh | ⟨code, holds⟩
    · rw [fresh]
      rfl
    · rw [holds]
      rfl

theorem Held.insert (row : Subscription) (entitled : Entitled (accts pid)) :
    Held key start count (shared.answered.take pid [.createSub row])
      (update accts pid { accts pid with stage := .inserted }) := by
  obtain ⟨code, enabled, mine⟩ := entitled
  have holds : (accts pid).stage = .holds (some code) := by rw [mine]
  have isOpen : (accts pid).stage.isOpen = true := by rw [holds]; rfl
  obtain ⟨idle, nothing, unmarked⟩ := held.nothing holds enabled
  have pending : shared.pending = update shared.pending pid (accts pid).pending := by
    rw [eq_comm, update_eq_self_iff, held.pending pid]
  have once : grants (.wrote pid (.createSub row) :: shared.history) = [(pid, .createSub row)] := by
    simp [grants, isGrant, nothing]
  refine held.step inside pending ⟨fun _ present => present, fun _ _ reads => reads, fun userId => ?_⟩
    (held.credits pid) (fun _ => held.listed pid isOpen)
    (fun _ other ne isOpen' => ne (held.exclusive other pid isOpen' isOpen)) nofun (fun _ _ _ => rfl)
    (.inserted pid (.createSub row) (by rw [update_self]) (fun other ne => ?_) once unmarked)
  · have before := held.balance userId
    rw [nothing] at before
    change shared.db.users.column Member.quota userId = _ + credited userId (grants (.wrote pid (.createSub row) :: shared.history))
    rw [once, before]
    rfl
  · rw [update_of_ne ne]
    exact idle other

end

include held in
theorem Held.granted (mine : (accts pid).stage = .inserted) :
    (∀ other, other ≠ pid → (accts other).stage.granting = false) ∧ ∃ write, grants shared.history = [(pid, write)] := by
  have grants : (accts pid).stage.granting = true := by rw [mine]; rfl
  cases held.phase with
  | unused idle =>
    rw [idle pid] at grants
    cases grants
  | inserted owner write _ idle once =>
    by_cases same : pid = owner
    · exact ⟨same ▸ idle, write, same ▸ once⟩
    · rw [idle pid same] at grants
      cases grants
  | used owner write theirs idle once =>
    by_cases same : pid = owner
    · rw [← same, mine] at theirs
      cases theirs
    · rw [idle pid same] at grants
      cases grants

theorem used_save {row : Redemption} (marks : Marks key row) (table : Table Redemption.key) :
    (table.save row).lookup key = some row := by
  rw [← marks.1]
  exact lookup_save_self table row

section

variable (held : Held key start count shared accts) (inside : pid < count)
include held inside

theorem Held.finish {row : Redemption} {write : Write} (isOpen : (accts pid).stage.isOpen = true) (marks : Marks key row)
    (idle : ∀ other, other ≠ pid → (accts other).stage.granting = false)
    (pending : after.pending = update shared.pending pid []) (carried : Carried key start pid shared after)
    (code : after.db.redemptions.lookup key = some row) (once : grants after.history = [(pid, write)]) :
    Held key start count after (update accts pid ⟨[], .ended true⟩) := by
  refine held.step inside pending carried nofun nofun nofun nofun (fun other ne opens => ?_)
    (.used pid write (by rw [update_self]) (fun other ne => ?_) once ⟨row, code, marks.2⟩)
  · exact absurd (held.exclusive other pid opens isOpen) ne
  · rw [update_of_ne ne]
    exact idle other ne

theorem Held.commit (ready : Ready key (accts pid)) :
    Held key start count ((shared.answered.take pid (shared.pending pid)).close pid)
      (update accts pid ⟨[], .ended true⟩) := by
  have pending := held.pending pid
  have credits := held.credits pid
  generalize mine : accts pid = acct at ready pending credits
  cases ready with
  | plan row marks good =>
    have isOpen : (accts pid).stage.isOpen = true := by rw [mine]; rfl
    have inserted : (accts pid).stage = .inserted := by rw [mine]
    obtain ⟨idle, write, once⟩ := held.granted inserted
    rw [pending]
    refine held.finish inside isOpen marks idle rfl ⟨fun _ present => present, fun other ne reads => ?_, held.balance⟩
      (used_save marks _) once
    exact mem_filter.mpr ⟨reads, decide_eq_true ne⟩
  | quota code row userId amount enabled marks =>
    have holds : (accts pid).stage = .holds (some code) := by rw [mine]
    obtain ⟨idle, nothing, _⟩ := held.nothing holds enabled
    have present := credits userId amount mem_cons_self
    rw [pending]
    have once : grants (.wrote pid (.addQuota userId amount) :: shared.history) = [(pid, .addQuota userId amount)] := by
      simp [grants, isGrant, nothing]
    refine held.finish inside (by rw [holds]; rfl) marks (fun other _ => idle other) rfl
      ⟨fun user before => ?_, fun other ne reads => ?_, fun user => ?_⟩ (used_save marks _) once
    · refine Eq.trans ?_ before
      exact isSome_lookup_update (fun user : Member => { user with quota := user.quota + amount }) (fun _ => rfl) ..
    · exact mem_filter.mpr ⟨reads, decide_eq_true ne⟩
    · have before := held.balance user
      rw [nothing] at before
      change (shared.db.users.update userId fun user => { user with quota := user.quota + amount }).column Member.quota user =
        _ + credited user (grants (.wrote pid (.addQuota userId amount) :: shared.history))
      rw [column_update (fun user : Member => { user with quota := user.quota + amount }) (fun _ => rfl) (fun _ => rfl)
        present, once, before]
      simp [credited]

theorem Held.asked (handle : Handle) (query : Query)
    (kept : allowed key (accts pid) (.read handle query)) (exclusive : Exclusive key shared pid (.read handle query)) :
    answered key (accts pid) (.read handle query) (.ok (answer query (shared.view pid handle))) ∧
      Held key start count (shared.answered.note (.asked pid query)) (update accts pid
        (track (accts pid) (.read handle query) (.ok (answer query (shared.view pid handle))))) := by
  cases query with
  | redemption read =>
    obtain ⟨rfl, fresh⟩ := kept
    have nothing : shared.pending pid = [] := by rw [held.pending pid, fresh]
    have seen : shared.view pid handle = shared.db := by
      cases handle with
      | own => rw [Shared.view, nothing]; rfl
      | global => rfl
    rw [seen]
    refine ⟨fun row same => (lookup_some (Except.ok.inj same)).2, ?_⟩
    have reads := held.read inside fresh exclusive
    rw [fresh]
    exact reads
  | _ =>
    refine ⟨trivial, ?_⟩
    rw [show track (accts pid) _ _ = accts pid from rfl, update_eq_self]
    exact held.same rfl rfl rfl rfl

end

theorem idle_of_refused {acct : Call} (ready : Ready key acct) (other : ¬acct.pending.any marksPlan = true) :
    Idle acct := by
  cases ready with
  | plan row marks good =>
    refine absurd ?_ other
    simp [marksPlan, good]
  | quota code row userId amount enabled marks => exact Or.inr ⟨some code, rfl⟩

theorem held_preserved (key : String) (start : Store) (count : Nat) :
    Preserved exec (fun _ => discipline key) (Held key start count) (Exclusive key) count := by
  intro pid shared accts stmt answer after inside held kept exclusive ran
  have still : ∀ next, next = accts pid → Held key start count shared.answered (update accts pid next) := by
    intro next same
    rw [same, update_eq_self]
    exact held.same rfl rfl rfl rfl
  cases exec_effect ran with
  | unread handle query e =>
    have tracked : track (accts pid) (.read handle query) (.error e) = accts pid := by cases query <;> rfl
    refine ⟨?_, still _ tracked⟩
    cases query with
    | redemption => exact nofun
    | _ => trivial
  | read handle query => exact held.asked inside handle query kept exclusive
  | unwritten handle write e faulty =>
    have tracked : track (accts pid) (.write handle write) (.error e) = accts pid := by cases handle <;> rfl
    refine ⟨?_, still _ tracked⟩
    cases handle with
    | own =>
      cases write with
      | saveRedemption row =>
        intro inserted
        rcases kept.2 with plan | ⟨code, userId, amount, holds⟩
        · exact absurd (exclusive plan.2) (not_accepts faulty)
        · rw [holds] at inserted
          cases inserted
      | _ => trivial
    | global => trivial
  | staged write =>
    cases write with
    | addQuota userId amount =>
      refine ⟨trivial, held.stage inside _ fun user _ same => ?_⟩
      cases same
      exact exclusive
    | saveRedemption row => exact ⟨fun _ => rfl, held.stage inside _ nofun⟩
    | _ => cases kept
  | taken write =>
    cases write with
    | createSub row => exact ⟨trivial, held.insert inside row kept⟩
    | _ => cases kept
  | refused e faulty =>
    have idle := idle_of_refused kept (by rw [← held.pending pid]; exact fun marks => absurd (exclusive marks) (not_accepts faulty))
    refine ⟨fun inserted => ?_, held.abandon inside idle rfl rfl rfl⟩
    rcases idle with fresh | ⟨code, holds⟩
    · rw [fresh] at inserted
      cases inserted
    · rw [holds] at inserted
      cases inserted
  | committed => exact ⟨fun _ => rfl, held.commit inside kept⟩
  | rolledBack => exact ⟨trivial, held.abandon inside kept rfl rfl rfl⟩
  | locked | unlocked => cases kept

/-! Every call keeps to the discipline. -/

section Calls

variable {clock : Clock} {userId : Int}

theorem obeys_plan {acct : Call} {handle : Handle} {id : Int} :
    Obeys (discipline key) acct (getSubscriptionPlanByIdTx handle id) fun after _ => after = acct := by
  have asked : Obeys (discipline key) acct (find handle (.plan id)) fun after _ => after = acct :=
    obeys_query trivial fun answer _ => by cases answer <;> rfl
  refine obeys_guard rfl fun _ => obeys_bind asked (fun after found same => ?_) fun _ _ same => same
  cases found with
  | none => exact obeys_throw same
  | some plan => exact obeys_pure same

def Finishes (key : String) {α : Type} (acct : Call) : Except String α → Prop
  | .ok _ => Ready key acct
  | .error _ => Idle acct

theorem obeys_redeemAsSubscription (mine : code.key = key) (enabled : code.status = .enabled) (good : 0 < code.planId) :
    Obeys (discipline key) ⟨[], .holds (some code)⟩ (redeemAsSubscription clock code userId) (Finishes key) := by
  have idle : Idle ⟨[], .holds (some code)⟩ := Or.inr ⟨_, rfl⟩
  refine obeys_attempt obeys_plan fun acct res same => ?_
  rw [same]
  cases res with
  | error => exact obeys_throw idle
  | ok plan =>
    refine obeys_guard idle fun _ => obeys_computed (fun _ => idle) fun endTime _ => ?_
    have marks : Marks key (markUsed clock userId code) := ⟨mine, rfl⟩
    refine obeys_execute_then ⟨code, enabled, rfl⟩ (fun _ => ?_) fun _ _ => idle
    refine obeys_execute_then ⟨marks, Or.inl ⟨rfl, good⟩⟩ (fun _ => obeys_pure (.plan _ marks good)) fun _ accepted => ?_
    cases accepted rfl

theorem obeys_redeemTx : Obeys (discipline key) ⟨[], .fresh⟩ (redeemTx clock key userId) (Finishes key) := by
  have reads : Obeys (discipline key) ⟨[], .fresh⟩ (find .own (.redemption key))
      (orFails (fun acct found => acct = ⟨[], .holds found⟩ ∧ ∀ code, found = some code → code.key = key)
        fun acct => acct = ⟨[], .fresh⟩) := by
    refine obeys_query ⟨rfl, rfl⟩ fun answer relied => ?_
    cases answer with
    | error => rfl
    | ok found => exact ⟨rfl, fun code same => relied code (congrArg _ same)⟩
  refine obeys_attempt_option reads (fun acct code reached => ?_)
    (fun _ reached => obeys_throw (Or.inr ⟨none, congrArg Call.stage reached.1⟩))
    fun _ _ reached => obeys_throw (Or.inl (congrArg Call.stage reached))
  obtain ⟨rfl, keyed⟩ := reached
  have mine := keyed code rfl
  have idle : Idle ⟨[], .holds (some code)⟩ := Or.inr ⟨_, rfl⟩
  refine obeys_guard idle fun enabled => obeys_guard idle fun _ => ?_
  rw [not_not] at enabled
  refine obeys_ite (fun good => obeys_redeemAsSubscription mine enabled good) fun _ => ?_
  have marks : Marks key (markUsed clock userId code) := ⟨mine, rfl⟩
  refine obeys_execute_then ⟨code, enabled, rfl⟩ (fun _ => ?_) fun _ _ => idle
  refine obeys_execute_then ⟨marks, Or.inr ⟨some code, userId, code.quota, rfl⟩⟩ (fun _ => obeys_pure ?_) fun _ _ => idle
  exact .quota code _ userId code.quota enabled marks

def Ends {α : Type} (acct : Call) : Except String α → Prop
  | .ok _ => acct.stage = .ended true
  | .error _ => acct.stage.granting = false

theorem obeys_redeem : Obeys (discipline key) ⟨[], .fresh⟩ (redeem clock key userId) Ends := by
  refine obeys_guard rfl fun _ => obeys_guard rfl fun _ => ?_
  have redeems : Obeys (discipline key) ⟨[], .fresh⟩ (transaction (redeemTx clock key userId)) Ends := by
    refine obeys_transaction (obeys_mono obeys_redeemTx fun acct res reached => ?_)
    cases res with
    | error => exact ⟨reached, fun _ => rfl⟩
    | ok =>
      refine ⟨reached, fun answer _ => ?_⟩
      cases answer <;> exact rfl
  refine obeys_attempt redeems fun acct res reached => ?_
  cases res with
  | error => exact obeys_throw reached
  | ok redemption =>
    refine obeys_ite (fun _ => obeys_attempt obeys_plan fun after res same => ?_) fun _ => obeys_pure reached
    rw [same]
    cases res <;> exact obeys_pure reached

end Calls

/-- The code is worth one grant: at most one call grants; when all calls have returned, one has iff the code is marked; a
call that has returned an error has granted nothing; and the users have got what was granted. -/
structure WorthOneGrant (key : String) (start : Store) (machine : Machine (@Answer schema) (Shared schema) (Except String Redeemed)) :
    Prop where
  once : (grants machine.shared.history).length ≤ 1
  marked : (∀ script ∈ machine.processes, ∃ res, script = .done res) →
    (grants machine.shared.history ≠ [] ↔ Used key machine.shared.db)
  errors : ∀ pid e, machine.processes[pid]? = some (.done (.error e)) → ∀ grant ∈ grants machine.shared.history, grant.1 ≠ pid
  balance : ∀ userId, machine.shared.db.users.column Member.quota userId =
    start.users.column Member.quota userId + credited userId (grants machine.shared.history)

section Runs

variable {machine : Machine (@Answer schema) (Shared schema) (Except String Redeemed)}

theorem Held.worth (held : Held key start machine.processes.length machine.shared accts)
    (ends : ∀ pid res, machine.processes[pid]? = some (.done res) → Ends (accts pid) res) :
    WorthOneGrant key start machine where
  once := by
    cases held.phase with
    | unused _ nothing => rw [nothing]; exact Nat.zero_le 1
    | inserted _ _ _ _ once | used _ _ _ _ once => rw [once]; exact Nat.le_refl 1
  marked returned := by
    cases held.phase with
    | unused _ nothing unmarked => exact ⟨fun some => absurd nothing some, fun marked => absurd marked unmarked⟩
    | used _ _ _ _ once marked =>
      rw [once]
      exact ⟨fun _ => marked, fun _ => cons_ne_nil _ _⟩
    | inserted pid write mine =>
      -- a call that has inserted the subscription has not returned
      have inside : pid < machine.processes.length := by
        by_contra outside
        rw [held.absent pid (Nat.not_lt.mp outside)] at mine
        cases mine
      obtain ⟨res, done⟩ := returned _ (getElem_mem inside)
      have ended := ends pid res (by rw [getElem?_eq_getElem inside, done])
      cases res with
      | ok | error =>
        rw [Ends, mine] at ended
        cases ended
  errors pid e failed grant member same := by
    have idle : (accts pid).stage.granting = false := ends pid _ failed
    cases held.phase with
    | unused _ nothing =>
      rw [nothing] at member
      cases member
    | inserted _ _ mine _ once | used _ _ mine _ once =>
      rw [once, mem_singleton] at member
      rw [member] at same
      rw [← same, mine] at idle
      cases idle
  balance := held.balance

end Runs

theorem code_worth_one_grant {key : String} {store : Store} (unused : ¬Used key store) {faults : List (Option String)}
    {calls : List (Clock × Int)} {schedule : List Nat}
    {machine : Machine (@Answer schema) (Shared schema) (Except String Redeemed)}
    (exclusive : Runs.Guarded (step exec) (whenPerforming (Exclusive key))
      (launch store faults (calls.map fun call => redeem call.1 key call.2)) schedule)
    (run : Runs.exec (step exec) (launch store faults (calls.map fun call => redeem call.1 key call.2)) schedule = some machine) :
    WorthOneGrant key store machine := by
  have begins : ∀ count, Held key store count { quiet store with faults := faults } fun _ => ⟨[], .fresh⟩ := fun count => {
    pending := fun _ => rfl
    credits := nofun
    listed := nofun
    exclusive := nofun
    current := nofun
    absent := fun _ _ => rfl
    phase := .unused (fun _ => rfl) rfl unused
    balance := fun _ => (Int.add_zero _).symm }
  have obeys : ∀ program ∈ calls.map fun call => redeem call.1 key call.2,
      Obeys (discipline key) ⟨[], .fresh⟩ program Ends := by
    intro program member
    obtain ⟨call, _, rfl⟩ := mem_map.mp member
    exact obeys_redeem
  obtain ⟨length, accts, held, meets⟩ := coherent_run (held_preserved key store _) (launch_coherent (begins _) obeys) exclusive run
  rw [← length] at held
  exact held.worth fun pid res found => meets pid _ found

def codeStore : Store := { emptyStore with
  users := (emptyStore.users.save ⟨7, "default", 0⟩).save ⟨8, "default", 0⟩
  redemptions := emptyStore.redemptions.save ⟨1, "code", .enabled, 100, 0, 0, 0, 0⟩ }

def redemptions : List (Clock × Int) := [(⟨1000, 0⟩, 7), (⟨1000, 0⟩, 8)]

theorem code_redeemed_in_turn : ∃ machine,
    Runs.exec (step exec) (launch codeStore [] (redemptions.map fun call => redeem call.1 "code" call.2))
      [0, 0, 0, 0, 1, 1] = some machine ∧ WorthOneGrant "code" codeStore machine := by
  have unused : ¬Used "code" codeStore := by
    rintro ⟨row, found, used⟩
    have stored : codeStore.redemptions.lookup "code" = some ⟨1, "code", .enabled, 100, 0, 0, 0, 0⟩ := by decide
    cases stored.symm.trans found
    cases used
  refine exists_end_of (by decide +kernel) fun machine run => code_worth_one_grant unused ?_ run
  decide +kernel

/-- Both calls read the code before either marks it: both users get the quota. -/
theorem code_redeemed_twice : ∃ machine,
    Runs.exec (step exec) (launch codeStore [] (redemptions.map fun call => redeem call.1 "code" call.2))
      [0, 1, 0, 0, 0, 1, 1, 1] = some machine ∧
    grants machine.shared.history = [(1, .addQuota 8 100), (0, .addQuota 7 100)] ∧
    machine.shared.db.users.column Member.quota 7 = 100 ∧ machine.shared.db.users.column Member.quota 8 = 100 :=
  exists_end (by decide +kernel)

end Tokengine.Plans.RedeemOnce
