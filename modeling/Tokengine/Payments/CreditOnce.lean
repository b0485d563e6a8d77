import Tokengine.Payments.Handling

/-! Requests that are interleaved on one order. Some of them mark the order and credit the user in two statements, some
read the order in a transaction that locks nothing and save the whole row. As long as no row is saved over a paid
order and the increase that follows a saved mark is not refused, the order is credited once and its status says so. -/

namespace Tokengine.Payments.CreditOnce
open Transactions Interleaving Model.Database List Function Option Table Runs

/-! What has been credited. -/

def creditsOf (writes : List Write) : List Credit := writes.filterMap fun write => match write with
  | .credit credit => some credit
  | _ => none

def allCredits (history : List (Event schema)) : List Credit := creditsOf (history.filterMap fun event => match event with
  | .wrote _ write => some write
  | _ => none)

def credits (tradeNo : String) (history : List (Event schema)) : List Credit :=
  (allCredits history).filter fun credit => decide (credit.order = tradeNo)

def received (userId : Int) (credits : List Credit) : Int :=
  (credits.map fun credit => if userId = credit.userId then credit.amount else 0).sum

def concerns (tradeNo : String) : Write → Bool
  | .saveTopUp row => decide (row.tradeNo = tradeNo)
  | .credit credit => decide (credit.order = tradeNo)
  | _ => false

def Funded (db : Store) : Write → Prop
  | .credit credit => (db.users.lookup credit.userId).isSome = true
  | _ => True

instance (db : Store) (write : Write) : Decidable (Funded db write) := by
  unfold Funded
  split <;> infer_instance

/-- A row of the order is not saved while the order is paid; the driver accepts the increase that follows a saved mark; and
the users that are credited exist. -/
def Careful (tradeNo : String) (shared : Shared schema) (pid : Nat) : Statement schema → Prop
  | .write .global (.saveTopUp row) => row.tradeNo = tradeNo → ¬Paid tradeNo shared.db
  | .write .global (.credit credit) =>
    (credit.order = tradeNo → accepts shared = true) ∧ Funded shared.db (.credit credit)
  | .commit => ((shared.pending pid).any (concerns tradeNo) = true → ¬Paid tradeNo shared.db) ∧
      ∀ write ∈ shared.pending pid, Funded shared.db write
  | _ => True

instance (tradeNo : String) (shared : Shared schema) (pid : Nat) (stmt : Statement schema) :
    Decidable (Careful tradeNo shared pid stmt) := by
  unfold Careful
  split <;> infer_instance

section Order

variable (order : TopUp)

def SameOrder (row : TopUp) : Prop := row = { order with completeTime := row.completeTime, status := row.status }

def Known (row : TopUp) : Prop := row.tradeNo = order.tradeNo → SameOrder order row

def Pays (credit : Credit) : Prop := credit.order = order.tradeNo → credit.userId = order.userId

def Orderly : Write → Prop
  | .saveTopUp row => Known order row
  | .credit credit => Pays order credit
  | .expirePending _ => False
  | .saveSubscriptionOrder _ => True

/-! What a request knows: its writes on the order, and whether it has marked the order and not credited the user yet. -/

structure Call where
  pending : List Write
  owing : Bool

def idle : Call := ⟨[], false⟩

/-- What may reach the tables together, by whether the request owes the credit before and after. -/
inductive Lands : Bool → List Write → Bool → Prop
  | nothing (owing : Bool) : Lands owing [] owing
  | saved (row : TopUp) (mine : row.tradeNo = order.tradeNo) (other : row.status ≠ .success) :
      Lands false [.saveTopUp row] false
  | marked (row : TopUp) (mine : row.tradeNo = order.tradeNo) (paid : row.status = .success) :
      Lands false [.saveTopUp row] true
  | credited (credit : Credit) (mine : credit.order = order.tradeNo) : Lands true [.credit credit] false
  | completed (row : TopUp) (credit : Credit) (mine : row.tradeNo = order.tradeNo) (paid : row.status = .success)
      (for_order : credit.order = order.tradeNo) : Lands false [.saveTopUp row, .credit credit] false

def allowed (acct : Call) : Statement schema → Prop
  | .write _ (.saveTopUp row) => Known order row ∧ (row.tradeNo = order.tradeNo → acct = idle)
  | .write .global (.credit credit) => Pays order credit ∧ (credit.order = order.tradeNo → acct = ⟨[], true⟩)
  | .write .own (.credit credit) => Pays order credit ∧ (credit.order = order.tradeNo →
      ∃ row : TopUp, row.tradeNo = order.tradeNo ∧ row.status = .success ∧ acct = ⟨[.saveTopUp row], false⟩)
  | .write .own (.expirePending _) => False
  | .commit => Lands order acct.owing acct.pending acct.owing
  | _ => True

def answered : (stmt : Statement schema) → Answer stmt → Prop
  | .read _ (.topUp _), answer => ∀ row, answer = .ok (some row) → Known order row
  | .write .global (.credit credit), answer => credit.order = order.tradeNo → answer = .ok ()
  | _, _ => True

def track (acct : Call) : (stmt : Statement schema) → Answer stmt → Call
  | .write .global (.saveTopUp row), .ok _ =>
    if row.tradeNo = order.tradeNo ∧ row.status = .success then { acct with owing := true } else acct
  | .write .global (.credit credit), .ok _ =>
    if credit.order = order.tradeNo then { acct with owing := false } else acct
  | .write .own write, .ok _ =>
    { acct with pending := acct.pending ++ [write].filter (concerns order.tradeNo) }
  | .commit, _ => { acct with pending := [] }
  | .rollback, _ => { acct with pending := [] }
  | _, _ => acct

def discipline : Discipline (@Answer schema) Call := ⟨allowed order, fun _ => answered order, track order⟩

/-- Nobody was credited and the order is not paid; the order is marked and one request owes the credit; the user was
credited and the order is paid. -/
inductive Phase (shared : Shared schema) (owing : Nat → Bool) : Prop
  | unpaid (free : ∀ pid, owing pid = false) (nothing : credits order.tradeNo shared.history = [])
      (unpaid : ¬Paid order.tradeNo shared.db)
  | owed (pid : Nat) (mine : owing pid = true) (others : ∀ other, other ≠ pid → owing other = false)
      (nothing : credits order.tradeNo shared.history = []) (paid : Paid order.tradeNo shared.db)
  | credited (credit : Credit) (free : ∀ pid, owing pid = false)
      (once : credits order.tradeNo shared.history = [credit]) (paid : Paid order.tradeNo shared.db)

def Sound (db : Store) : Prop := ∀ row, db.topUps.lookup order.tradeNo = some row → SameOrder order row

structure Held (start : Store) (count : Nat) (shared : Shared schema) (accts : Nat → Call) : Prop where
  pending : ∀ pid, (shared.pending pid).filter (concerns order.tradeNo) = (accts pid).pending
  orderly : ∀ pid, ∀ write ∈ shared.pending pid, Orderly order write
  sound : Sound order shared.db
  absent : ∀ pid, count ≤ pid → (accts pid).owing = false
  phase : Phase order shared fun pid => (accts pid).owing
  owner : ∀ credit ∈ credits order.tradeNo shared.history, credit.userId = order.userId
  balance : ∀ userId, shared.db.users.column User.quota userId =
    start.users.column User.quota userId + received userId (allCredits shared.history)

end Order

/-! What reaches the tables. -/

theorem allCredits_wrote (pid : Nat) (writes : List Write) (history : List (Event schema)) :
    allCredits ((writes.map (Event.wrote pid)).reverse ++ history) = (creditsOf writes).reverse ++ allCredits history := by
  simp [allCredits, creditsOf, filterMap_reverse, filterMap_map]

theorem credits_concern (tradeNo : String) (writes : List Write) :
    (creditsOf writes).filter (fun credit => decide (credit.order = tradeNo)) =
      creditsOf (writes.filter (concerns tradeNo)) := by
  induction writes with
  | nil => rfl
  | cons write rest tail =>
    cases write <;> simp_all [creditsOf, concerns, filter_cons]
    all_goals split <;> simp_all

variable {write : Write} {writes : List Write}

variable {order : TopUp} {db db' : Store}

theorem lookup_apply (tradeNo : String) (orderly : Orderly order write)
    (same : db.topUps.lookup tradeNo = db'.topUps.lookup tradeNo) :
    (apply write db).topUps.lookup tradeNo = (apply write db').topUps.lookup tradeNo := by
  cases write with
  | saveTopUp row => simp only [apply, lookup_save, same]
  | credit credit => exact same
  | expirePending cutoff => exact orderly.elim
  | saveSubscriptionOrder row => exact same

theorem lookup_unconcerned {tradeNo : String} (orderly : Orderly order write)
    (other : concerns tradeNo write = false) : (apply write db).topUps.lookup tradeNo = db.topUps.lookup tradeNo := by
  cases write with
  | saveTopUp row => exact lookup_save_of_ne (Ne.symm (of_decide_eq_false other)) _
  | credit credit => rfl
  | expirePending cutoff => exact orderly.elim
  | saveSubscriptionOrder row => rfl

theorem lookup_effective (tradeNo : String) (orderly : ∀ write ∈ writes, Orderly order write)
    (same : db.topUps.lookup tradeNo = db'.topUps.lookup tradeNo) : (@applyAll schema writes db).topUps.lookup tradeNo =
      (@applyAll schema (writes.filter (concerns tradeNo)) db').topUps.lookup tradeNo := by
  induction writes generalizing db db' with
  | nil => exact same
  | cons write rest tail =>
    have first := orderly write mem_cons_self
    have others : ∀ other ∈ rest, Orderly order other := fun other mem => orderly other (mem_cons_of_mem _ mem)
    by_cases mine : concerns tradeNo write = true
    · rw [filter_cons_of_pos mine]
      exact tail others (lookup_apply tradeNo first same)
    · rw [filter_cons_of_neg mine]
      exact tail others ((lookup_unconcerned first (Bool.not_eq_true _ ▸ mine)).trans same)

theorem sound_apply (orderly : Orderly order write) (sound : Sound order db) : Sound order (apply write db) := by
  intro row found
  cases write with
  | saveTopUp saved =>
    change (db.topUps.save saved).lookup order.tradeNo = some row at found
    rw [lookup_save] at found
    split at found
    next mine =>
      cases found
      exact orderly mine.symm
    · exact sound row found
  | credit credit => exact sound row found
  | expirePending cutoff => exact orderly.elim
  | saveSubscriptionOrder saved => exact sound row found

theorem sound_applyAll (orderly : ∀ write ∈ writes, Orderly order write) (sound : Sound order db) :
    Sound order (@applyAll schema writes db) := by
  induction writes generalizing db with
  | nil => exact sound
  | cons write rest tail =>
    exact tail (fun other mem => orderly other (mem_cons_of_mem _ mem))
      (sound_apply (orderly write mem_cons_self) sound)

theorem funded_apply {other : Write} (funded : Funded db write) : Funded (apply other db) write := by
  cases write with
  | credit credit =>
    cases other with
    | credit earlier =>
      refine Eq.trans ?_ funded
      exact isSome_lookup_update earlier.change (fun _ => rfl) db.users earlier.userId credit.userId
    | _ => exact funded
  | _ => trivial

theorem column_applyAll (funded : ∀ write ∈ writes, Funded db write) (userId : Int) :
    (@applyAll schema writes db).users.column User.quota userId =
      db.users.column User.quota userId + received userId (creditsOf writes) := by
  induction writes generalizing db with
  | nil => exact (Int.add_zero _).symm
  | cons write rest tail =>
    have first := funded write mem_cons_self
    have others : ∀ other ∈ rest, Funded (apply write db) other := fun other mem =>
      funded_apply (funded other (mem_cons_of_mem _ mem))
    refine (tail others).trans ?_
    cases write with
    | credit credit =>
      change (db.users.update credit.userId credit.change).column User.quota userId + received userId (creditsOf rest) = _
      rw [column_update credit.change (fun _ => rfl) (fun _ => rfl) first]
      simp only [received, creditsOf, filterMap_cons, map_cons, sum_cons, Int.add_assoc]
    | _ => rfl

theorem received_reverse_append (userId : Int) (writes earlier : List Credit) :
    received userId (writes.reverse ++ earlier) = received userId earlier + received userId writes := by
  simp [received, sum_append, Int.add_comm]

variable {next : Call} {row : TopUp}

section Steps

variable {start : Store} {count : Nat} {shared after : Shared schema} {accts : Nat → Call} {pid : Nat}
  {owing : Nat → Bool}

theorem Phase.clear (phase : Phase order shared owing) (unpaid : ¬Paid order.tradeNo shared.db) :
    (∀ pid, owing pid = false) ∧ credits order.tradeNo shared.history = [] := by
  cases phase with
  | unpaid free nothing _ => exact ⟨free, nothing⟩
  | owed _ _ _ _ paid => exact absurd paid unpaid
  | credited _ _ _ paid => exact absurd paid unpaid

theorem Phase.due (phase : Phase order shared owing) (mine : owing pid = true) :
    (∀ other, other ≠ pid → owing other = false) ∧ credits order.tradeNo shared.history = [] ∧
      Paid order.tradeNo shared.db := by
  cases phase with
  | unpaid free =>
    rw [free pid] at mine
    cases mine
  | owed owner _ others nothing paid =>
    by_cases same : pid = owner
    · rw [same]
      exact ⟨others, nothing, paid⟩
    · rw [others pid same] at mine
      cases mine
  | credited _ free =>
    rw [free pid] at mine
    cases mine

theorem Phase.same (phase : Phase order shared owing) (status : Paid order.tradeNo after.db ↔ Paid order.tradeNo shared.db)
    (unchanged : credits order.tradeNo after.history = credits order.tradeNo shared.history) : Phase order after owing := by
  cases phase with
  | unpaid free nothing unpaid => exact .unpaid free (unchanged.trans nothing) fun paid => unpaid (status.mp paid)
  | owed pid mine others nothing paid => exact .owed pid mine others (unchanged.trans nothing) (status.mpr paid)
  | credited credit free once paid => exact .credited credit free (unchanged.trans once) (status.mpr paid)

theorem Phase.lands (phase : Phase order shared owing) {effective : List Write} {next : Bool}
    (lands : Lands order (owing pid) effective next)
    (clear : owing pid = false → effective ≠ [] → ¬Paid order.tradeNo shared.db)
    (table : after.db.topUps.lookup order.tradeNo = (@applyAll schema effective shared.db).topUps.lookup order.tradeNo)
    (credited : credits order.tradeNo after.history =
      (creditsOf effective).reverse ++ credits order.tradeNo shared.history) :
    Phase order after (update owing pid next) := by
  have status : Paid order.tradeNo after.db ↔ Paid order.tradeNo (@applyAll schema effective shared.db) := by
    rw [Paid, Paid, table]
  have freed : (∀ other, other ≠ pid → owing other = false) → ∀ other, update owing pid false other = false :=
    fun others => (forall_update_iff owing fun _ owes => owes = false).mpr ⟨rfl, others⟩
  generalize before : owing pid = mine at lands clear
  cases lands with
  | nothing =>
    rw [← before, update_eq_self]
    exact phase.same status credited
  | saved row known other =>
    obtain ⟨free, nothing⟩ := phase.clear (clear rfl (cons_ne_nil _ _))
    rw [nothing] at credited
    exact .unpaid (freed fun other _ => free other) credited fun paid => other ((paid_saveTopUp known _).mp (status.mp paid))
  | marked row known paid =>
    obtain ⟨free, nothing⟩ := phase.clear (clear rfl (cons_ne_nil _ _))
    rw [nothing] at credited
    refine .owed pid (update_self ..) (fun other ne => ?_) credited
      (status.mpr ((paid_saveTopUp known _).mpr paid))
    rw [update_of_ne ne]
    exact free other
  | credited credit =>
    obtain ⟨others, nothing, paid⟩ := phase.due before
    rw [nothing] at credited
    exact .credited credit (freed others) credited (status.mpr paid)
  | completed row credit known paid =>
    obtain ⟨free, nothing⟩ := phase.clear (clear rfl (cons_ne_nil _ _))
    rw [nothing] at credited
    exact .credited credit (freed fun other _ => free other) credited (status.mpr ((paid_saveTopUp known _).mpr paid))

section

variable (held : Held order start count shared accts) (inside : pid < count)
include held inside

section

variable {rest : List Write} (pending : after.pending = update shared.pending pid rest)
  (kept : rest.filter (concerns order.tradeNo) = next.pending) (orderlyRest : ∀ write ∈ rest, Orderly order write)
include pending kept orderlyRest

theorem Held.take (table : after.db = @applyAll schema writes shared.db)
    (history : allCredits after.history = (creditsOf writes).reverse ++ allCredits shared.history)
    (orderly : ∀ write ∈ writes, Orderly order write) (funded : ∀ write ∈ writes, Funded shared.db write)
    (lands : Lands order (accts pid).owing (writes.filter (concerns order.tradeNo)) next.owing)
    (clear : (accts pid).owing = false → writes.filter (concerns order.tradeNo) ≠ [] → ¬Paid order.tradeNo shared.db) :
    Held order start count after (update accts pid next) := by
  have credited : credits order.tradeNo after.history =
      (creditsOf (writes.filter (concerns order.tradeNo))).reverse ++ credits order.tradeNo shared.history := by
    rw [← credits_concern, ← filter_reverse, credits, history, filter_append]
    rfl
  exact {
    pending := by
      rw [pending, forall_update_iff accts fun other acct =>
        (update shared.pending pid rest other).filter (concerns order.tradeNo) = acct.pending]
      refine ⟨by rw [update_self]; exact kept, fun other ne => ?_⟩
      rw [update_of_ne ne]
      exact held.pending other
    orderly := by
      rw [pending, forall_update_iff shared.pending fun _ writes => ∀ write ∈ writes, Orderly order write]
      exact ⟨orderlyRest, fun other _ => held.orderly other⟩
    sound := by
      rw [table]
      exact sound_applyAll orderly held.sound
    absent := by
      rw [forall_update_iff accts fun other acct => count ≤ other → acct.owing = false]
      exact ⟨fun outside => absurd inside (Nat.not_lt.mpr outside), fun other _ => held.absent other⟩
    phase := by
      have moved : Phase order after (update (fun pid => (accts pid).owing) pid next.owing) :=
        held.phase.lands lands clear (by rw [table]; exact lookup_effective _ orderly rfl) credited
      convert moved using 2 with other
      by_cases same : other = pid
      · rw [same, update_self, update_self]
      · rw [update_of_ne same, update_of_ne same]
    owner := by
      intro credit mem
      rw [credited] at mem
      rcases mem_append.mp mem with new | old
      · rw [mem_reverse, ← credits_concern, List.mem_filter] at new
        obtain ⟨write, written, same⟩ := mem_filterMap.mp new.1
        cases write with
        | credit paid =>
          cases same
          exact orderly _ written (of_decide_eq_true new.2)
        | _ => cases same
      · exact held.owner credit old
    balance := by
      intro userId
      rw [table, history, column_applyAll funded, received_reverse_append, held.balance userId, Int.add_assoc] }

theorem Held.still (table : after.db = shared.db) (history : allCredits after.history = allCredits shared.history)
    (owing : next.owing = (accts pid).owing) : Held order start count after (update accts pid next) := by
  have lands : Lands order (accts pid).owing (filter (concerns order.tradeNo) []) next.owing := by
    rw [owing]
    exact .nothing _
  have nothing : after.db = @applyAll schema [] shared.db := table
  exact held.take inside pending kept orderlyRest nothing history (fun _ mem => by cases mem)
    (fun _ mem => by cases mem) lands fun _ something => absurd rfl something

end

theorem Held.same (table : after.db = shared.db) (history : allCredits after.history = allCredits shared.history)
    (pending : after.pending = shared.pending) (unchanged : next = accts pid) :
    Held order start count after (update accts pid next) := by
  have unmoved : after.pending = update shared.pending pid (shared.pending pid) := by
    rw [pending, update_eq_self]
  refine held.still inside unmoved ?_ (held.orderly pid) table history (by rw [unchanged])
  rw [unchanged]
  exact held.pending pid

end

theorem expireRow_same {cutoff : Int} (same : SameOrder order row) : SameOrder order (expireRow cutoff row) := by
  unfold expireRow
  split
  · rw [SameOrder] at same ⊢
    rw [same]
  · exact same

variable (held : Held order start count shared accts)

include held

theorem Held.expire (cutoff : Int) :
    Held order start count (shared.answered.take pid [.expirePending cutoff]) accts := by
  have found : (shared.answered.take pid [.expirePending cutoff]).db.topUps.lookup order.tradeNo =
      (shared.db.topUps.lookup order.tradeNo).map (expireRow cutoff) := lookup_modify (expireRow_tradeNo cutoff) ..
  exact {
    pending := held.pending
    orderly := held.orderly
    sound := by
      intro row stored
      rw [found] at stored
      obtain ⟨before, present, rfl⟩ := map_eq_some_iff.mp stored
      exact expireRow_same (held.sound before present)
    absent := held.absent
    phase := held.phase.same (paid_expirePending order.tradeNo cutoff shared.db) rfl
    owner := held.owner
    balance := held.balance }

theorem Held.view (handle : Handle) : Sound order (shared.view pid handle) := by
  cases handle with
  | own => exact sound_applyAll (held.orderly pid) held.sound
  | global => exact held.sound

omit held

theorem known_of_sound {db : Store} (sound : Sound order db) {tradeNo : String}
    (found : db.topUps.lookup tradeNo = some row) : Known order row := by
  intro mine
  refine sound row ?_
  rw [← mine, (lookup_some found).2]
  exact found

section

variable (held : Held order start count shared accts) (inside : pid < count)
include held inside

theorem Held.now
    (orderly : Orderly order write) (funded : Funded shared.db write) (pending : next.pending = (accts pid).pending)
    (lands : Lands order (accts pid).owing ([write].filter (concerns order.tradeNo)) next.owing)
    (clear : (accts pid).owing = false → concerns order.tradeNo write = true → ¬Paid order.tradeNo shared.db) :
    Held order start count (shared.answered.take pid [write]) (update accts pid next) := by
  have unmoved : shared.pending = update shared.pending pid (shared.pending pid) := by rw [update_eq_self]
  refine held.take inside unmoved ((held.pending pid).trans pending.symm) (held.orderly pid) rfl
    (allCredits_wrote pid [write] shared.history) ?_ ?_ lands fun free something => clear free ?_
  · intro other mem
    rw [mem_singleton.mp mem]
    exact orderly
  · intro other mem
    rw [mem_singleton.mp mem]
    exact funded
  · by_contra other
    exact something (filter_cons_of_neg other)

theorem Held.save (row : TopUp) (kept : allowed order (accts pid) (.write .global (.saveTopUp row)))
    (clear : row.tradeNo = order.tradeNo → ¬Paid order.tradeNo shared.db) :
    Held order start count (shared.answered.take pid [.saveTopUp row])
      (update accts pid (track order (accts pid) (.write .global (.saveTopUp row)) (.ok ()))) := by
  have concerned : concerns order.tradeNo (.saveTopUp row) = true ↔ row.tradeNo = order.tradeNo := decide_eq_true_iff
  simp only [track]
  refine held.now inside kept.1 trivial (by split <;> rfl) ?_ fun _ mine => clear (concerned.mp mine)
  by_cases mine : row.tradeNo = order.tradeNo
  · rw [filter_cons_of_pos (concerned.mpr mine), kept.2 mine]
    by_cases paid : row.status = .success
    · rw [if_pos ⟨mine, paid⟩]
      exact .marked row mine paid
    · rw [if_neg fun both => paid both.2]
      exact .saved row mine paid
  · rw [filter_cons_of_neg (mt concerned.mp mine), if_neg fun both => mine both.1]
    exact .nothing _

theorem Held.credit (credit : Credit)
    (kept : allowed order (accts pid) (.write .global (.credit credit))) (funded : Funded shared.db (.credit credit)) :
    Held order start count (shared.answered.take pid [.credit credit])
      (update accts pid (track order (accts pid) (.write .global (.credit credit)) (.ok ()))) := by
  have concerned : concerns order.tradeNo (.credit credit) = true ↔ credit.order = order.tradeNo := decide_eq_true_iff
  simp only [track]
  refine held.now inside kept.1 funded (by split <;> rfl) ?_ fun free mine => ?_
  · by_cases mine : credit.order = order.tradeNo
    · rw [filter_cons_of_pos (concerned.mpr mine), kept.2 mine, if_pos mine]
      exact .credited credit mine
    · rw [filter_cons_of_neg (mt concerned.mp mine), if_neg mine]
      exact .nothing _
  · rw [kept.2 (concerned.mp mine)] at free
    cases free

theorem Held.commit (kept : allowed order (accts pid) .commit) (careful : Careful order.tradeNo shared pid .commit) :
    Held order start count ((shared.answered.take pid (shared.pending pid)).close pid)
      (update accts pid { accts pid with pending := [] }) := by
  refine held.take inside rfl rfl (fun _ mem => by cases mem) rfl
    (allCredits_wrote pid (shared.pending pid) shared.history) (held.orderly pid) careful.2 ?_ ?_
  · rw [held.pending pid]
    exact kept
  · intro _ something
    refine careful.1 ?_
    obtain ⟨write, mem⟩ := exists_mem_of_ne_nil _ something
    exact any_eq_true.mpr ⟨write, List.mem_filter.mp mem⟩

end

theorem orderly_of_allowed {acct : Call} (kept : allowed order acct (.write .own write)) : Orderly order write := by
  cases write with
  | saveTopUp | credit => exact kept.1
  | expirePending cutoff => exact kept
  | saveSubscriptionOrder row => trivial

include held

theorem Held.stage (inside : pid < count) (write : Write)
    (orderly : Orderly order write) : Held order start count (shared.answered.stage pid write) (update accts pid
      { accts pid with pending := (accts pid).pending ++ [write].filter (concerns order.tradeNo) }) := by
  refine held.still inside rfl ?_ (fun other mem => ?_) rfl rfl rfl
  · exact (filter_append _ _).trans (congrArg (· ++ _) (held.pending pid))
  rcases mem_append.mp mem with before | last
  · exact held.orderly pid other before
  · cases mem_singleton.mp last
    exact orderly

theorem Held.abandon (inside : pid < count) (db : after.db = shared.db)
    (pending : after.pending = update shared.pending pid [])
    (history : allCredits after.history = allCredits shared.history) :
    Held order start count after (update accts pid { accts pid with pending := [] }) :=
  held.still inside pending rfl (fun _ mem => by cases mem) db history rfl

omit held

theorem held_preserved (order : TopUp) (start : Store) (count : Nat) :
    Preserved exec (fun _ => discipline order) (Held order start count) (Careful order.tradeNo) count := by
  intro pid shared accts stmt answer after inside held kept careful ran
  cases exec_effect ran with
  | unread handle query e =>
    refine ⟨?_, held.same inside rfl rfl rfl rfl⟩
    cases query with
    | topUp => exact nofun
    | _ => trivial
  | read handle query =>
    refine ⟨?_, held.same inside rfl rfl rfl rfl⟩
    cases query with
    | topUp tradeNo => exact fun row same => known_of_sound (held.view handle) (Except.ok.inj same)
    | _ => trivial
  | unwritten handle write e faulty =>
    have tracked : track order (accts pid) (.write handle write) (.error e) = accts pid := by
      cases handle <;> cases write <;> rfl
    refine ⟨?_, held.same inside rfl rfl rfl tracked⟩
    cases handle with
    | own => cases write <;> trivial
    | global =>
      cases write with
      | credit credit => exact fun mine => absurd (careful.1 mine) (not_accepts faulty)
      | _ => trivial
  | staged write =>
    have tracked : track order (accts pid) (.write .own write) (.ok ()) =
        { accts pid with pending := (accts pid).pending ++ [write].filter (concerns order.tradeNo) } := by
      cases write <;> rfl
    refine ⟨by cases write <;> trivial, ?_⟩
    change Held order start count _ (update accts pid (track order (accts pid) (.write .own write) (.ok ())))
    rw [tracked]
    exact held.stage inside write (orderly_of_allowed kept)
  | taken write =>
    cases write with
    | saveTopUp row => exact ⟨trivial, held.save inside row kept careful⟩
    | credit credit => exact ⟨fun _ => rfl, held.credit inside credit kept careful.2⟩
    | expirePending cutoff =>
      refine ⟨trivial, ?_⟩
      change Held order start count _ (update accts pid (accts pid))
      rw [update_eq_self]
      exact held.expire cutoff
    | saveSubscriptionOrder row =>
      have landless : concerns order.tradeNo (.saveSubscriptionOrder row) ≠ true := by simp [concerns]
      exact ⟨trivial, held.now inside trivial trivial rfl (.nothing _) fun _ mine => absurd mine landless⟩
  | refused e => exact ⟨trivial, held.abandon inside rfl rfl rfl⟩
  | committed => exact ⟨trivial, held.commit inside kept careful⟩
  | rolledBack => exact ⟨trivial, held.abandon inside rfl rfl rfl⟩
  | locked | unlocked => exact ⟨trivial, held.same inside rfl rfl rfl rfl⟩

end Steps

/-! Every request keeps to the discipline. -/

section Requests

variable {α : Type}

def Rests (acct : Call) (_ : Except String α) : Prop := acct = idle

def Closes (order : TopUp) (acct : Call) : Except String α → Prop
  | .ok _ => acct.owing = false ∧ Lands order false acct.pending false
  | .error _ => acct.owing = false

abbrev Resting (order : TopUp) (body : Action schema α) : Prop := Obeys (discipline order) idle body Rests

abbrev Closing (order : TopUp) (body : Action schema α) : Prop := Obeys (discipline order) idle body (Closes order)

theorem Known.with (known : Known order row) (completeTime : Int) (status : Plans.OrderStatus) :
    Known order { row with completeTime, status } := by
  intro mine
  have same : SameOrder order row := known mine
  rw [SameOrder] at same ⊢
  rw [same]

theorem Known.fields (known : Known order row) (mine : row.tradeNo = order.tradeNo) :
    row.userId = order.userId ∧ row.amount = order.amount ∧ row.money = order.money := by
  have same : row = { order with completeTime := row.completeTime, status := row.status } := known mine
  rw [same]
  exact ⟨rfl, rfl, rfl⟩

theorem obeys_find (acct : Call) (handle : Handle) (tradeNo : String) :
    Obeys (discipline order) acct (find handle (.topUp tradeNo)) fun after res =>
      after = acct ∧ ∀ row, res = .ok (some row) → Known order row :=
  obeys_query trivial fun _ known => ⟨rfl, known⟩

theorem obeys_getTopUpByTradeNo (tradeNo : String) :
    Obeys (discipline order) idle (getTopUpByTradeNo tradeNo) fun acct res =>
      acct = idle ∧ ∃ found, res = .ok found ∧ ∀ row, found = some row → Known order row := by
  refine obeys_attempt (obeys_find idle .global tradeNo) fun acct res reached => ?_
  rw [reached.1]
  cases res with
  | ok found => exact obeys_pure ⟨rfl, found, rfl, fun row same => reached.2 row (congrArg _ same)⟩
  | error e => exact obeys_pure ⟨rfl, none, rfl, nofun⟩

variable {tradeNo : String} {body : Action schema α}

theorem obeys_found {rest : Option TopUp → Action schema α} (missing : Resting order (rest none))
    (present : ∀ row, Known order row → Resting order (rest (some row))) :
    Resting order (getTopUpByTradeNo tradeNo >>= rest) := by
  refine obeys_bind (obeys_getTopUpByTradeNo tradeNo) (fun acct found reached => ?_) fun _ _ reached => reached.1
  obtain ⟨rfl, val, same, known⟩ := reached
  cases same
  cases found with
  | none => exact missing
  | some row => exact present row (known row rfl)

theorem obeys_locked {name : String} (inside : Resting order body) : Resting order (withLock name body) :=
  obeys_withLock trivial (obeys_mono inside fun _ _ rests => ⟨trivial, rests⟩)

theorem obeys_either {β : Type} {body : Action schema β} {rest : Except String β → Action schema α}
    (first : Resting order body) (continues : ∀ res, Resting order (rest res)) :
    Resting order (attempt body >>= rest) := by
  refine obeys_attempt first fun acct res rests => ?_
  rw [(rests : acct = idle)]
  exact continues res

theorem obeys_saveNow (known : Known order row) (other : row.status ≠ .success) :
    Resting order (run .global (.saveTopUp row)) := by
  refine obeys_execute ⟨known, fun _ => rfl⟩ fun answer _ => ?_
  cases answer with
  | error => rfl
  | ok => exact if_neg fun both => other both.2

variable {topUp : TopUp} {customerEmail : String} {now : Int}

theorem obeys_settle_other (other : topUp.tradeNo ≠ order.tradeNo) (quotaToAdd : Int) :
    Resting order (settle topUp quotaToAdd) := by
  refine obeys_execute_then ⟨fun mine => absurd mine other, fun mine => absurd mine other⟩ (fun _ => ?_) fun _ _ => rfl
  have rests : (discipline order).track idle (.write .global (.saveTopUp { topUp with status := .success })) (.ok ()) = idle :=
    if_neg fun both => other both.1
  rw [rests]
  refine obeys_guard rfl fun _ => ?_
  refine obeys_execute ⟨fun mine => absurd mine other, fun mine => absurd mine other⟩ fun answer _ => ?_
  cases answer with
  | error => rfl
  | ok => exact if_neg other

theorem obeys_settle_mine (known : Known order topUp) (mine : topUp.tradeNo = order.tradeNo) {quotaToAdd : Int}
    (nonneg : 0 ≤ quotaToAdd) : Resting order (settle topUp quotaToAdd) := by
  refine obeys_execute_then ⟨known.with topUp.completeTime .success, fun _ => rfl⟩ (fun _ => ?_) fun _ _ => rfl
  have marked : (discipline order).track idle (.write .global (.saveTopUp { topUp with status := .success })) (.ok ()) =
      ⟨[], true⟩ := if_pos ⟨mine, rfl⟩
  rw [marked]
  refine obeys_ite (fun negative => absurd nonneg (Int.not_le.mpr negative)) fun _ => ?_
  refine obeys_execute ⟨fun _ => (known.fields mine).1, fun _ => rfl⟩ fun answer accepted => ?_
  cases accepted mine
  exact if_pos mine

theorem obeys_settle (known : Known order topUp) {quotaToAdd : Int}
    (nonneg : topUp.tradeNo = order.tradeNo → 0 ≤ quotaToAdd) : Resting order (settle topUp quotaToAdd) := by
  by_cases mine : topUp.tradeNo = order.tradeNo
  · exact obeys_settle_mine known mine (nonneg mine)
  · exact obeys_settle_other mine quotaToAdd

/-! Transactions. -/

theorem obeys_committed (inside : Closing order body) : Resting order (transaction body) := by
  refine obeys_transaction (obeys_mono inside fun acct res closes => ?_)
  have ends : acct.owing = false → ({ acct with pending := [] } : Call) = idle := fun free => by rw [free]; rfl
  cases res with
  | error e => exact ⟨trivial, fun _ => ends closes⟩
  | ok val =>
    refine ⟨?_, fun _ _ => ends closes.1⟩
    change Lands order acct.owing acct.pending acct.owing
    rw [closes.1]
    exact closes.2

theorem obeys_lockedTopUp {rest : TopUp → Action schema α} (present : ∀ row, Known order row → Closing order (rest row)) :
    Closing order (lockedTopUp tradeNo >>= rest) := by
  have reads : Obeys (discipline order) idle (lockedTopUp tradeNo) fun acct res =>
      acct = idle ∧ ∀ row, res = .ok row → Known order row := by
    refine obeys_attempt_option (obeys_find idle .own tradeNo) (fun acct row reached => obeys_pure ⟨reached.1, ?_⟩)
      (fun _ reached => obeys_throw ⟨reached.1, nofun⟩)
      fun _ _ reached => obeys_throw ⟨reached.1, nofun⟩
    intro found same
    cases same
    exact reached.2 row rfl
  refine obeys_bind reads (fun acct row reached => ?_) fun acct e reached => ?_
  · rw [reached.1]
    exact present row (reached.2 row rfl)
  · change acct.owing = false
    rw [reached.1]
    rfl

def holding (order : TopUp) (row : TopUp) : Call := ⟨[.saveTopUp row].filter (concerns order.tradeNo), false⟩

theorem obeys_hold (known : Known order row) : Obeys (discipline order) idle (run .own (.saveTopUp row))
      (orFails (fun acct _ => acct = holding order row) fun acct => acct.owing = false) := by
  refine obeys_execute ⟨known, fun _ => rfl⟩ fun answer _ => ?_
  cases answer <;> rfl

theorem filter_save (mine : row.tradeNo = order.tradeNo) :
    [Write.saveTopUp row].filter (concerns order.tradeNo) = [.saveTopUp row] :=
  filter_cons_of_pos (by simp [concerns, mine])

theorem filter_save_other (other : row.tradeNo ≠ order.tradeNo) :
    [Write.saveTopUp row].filter (concerns order.tradeNo) = [] :=
  filter_cons_of_neg (by simp [concerns, other])

theorem obeys_save (known : Known order row) (other : row.status ≠ .success) :
    Closing order (run .own (.saveTopUp row)) := by
  refine obeys_mono (obeys_hold known) fun acct res reached => ?_
  cases res with
  | error => exact reached
  | ok =>
    rw [(reached : acct = holding order row)]
    refine ⟨rfl, ?_⟩
    by_cases mine : row.tradeNo = order.tradeNo
    · rw [holding, filter_save mine]
      exact .saved row mine other
    · rw [holding, filter_save_other mine]
      exact .nothing _

theorem obeys_credit (known : Known order row) (paid : row.status = .success) {credit : Credit}
    (forOrder : credit.order = row.tradeNo) (forUser : credit.userId = row.userId) :
    Obeys (discipline order) (holding order row) (run .own (.credit credit)) (Closes order) := by
  have pays : Pays order credit := fun mine => forUser.trans (known.fields (forOrder.symm.trans mine)).1
  refine obeys_execute ⟨pays, fun same => ⟨row, forOrder.symm.trans same, paid, ?_⟩⟩ fun answer _ => ?_
  · rw [holding, filter_save (forOrder.symm.trans same)]
  cases answer with
  | error => rfl
  | ok =>
    refine ⟨rfl, ?_⟩
    change Lands order false ([.saveTopUp row].filter (concerns order.tradeNo) ++
      [.credit credit].filter (concerns order.tradeNo)) false
    by_cases mine : row.tradeNo = order.tradeNo
    · rw [filter_save mine, filter_cons_of_pos (by simp [concerns, forOrder, mine])]
      exact .completed row credit mine paid (forOrder.trans mine)
    · rw [filter_save_other mine, filter_cons_of_neg (by simp [concerns, forOrder, mine])]
      exact .nothing _

theorem obeys_completeTx (known : Known order topUp) {amount : Int} {stripeCustomer email : Option String} :
    Closing order (completeTx now topUp amount stripeCustomer email) := by
  have marked := known.with now .success
  refine obeys_bind (obeys_hold marked) (fun acct _ holds => ?_) fun _ _ failed => failed
  rw [(holds : acct = holding order _)]
  exact obeys_credit marked rfl rfl rfl

theorem obeys_emailToSet {acct : Call} {userId : Int} :
    Obeys (discipline order) acct (emailToSet userId customerEmail) fun after _ => after = acct := by
  have asked : Obeys (discipline order) acct (find .own (.user userId)) fun after _ => after = acct :=
    obeys_query trivial fun _ _ => rfl
  refine obeys_skip rfl fun _ => obeys_bind asked (fun after found same => ?_) fun _ _ same => same
  cases found with
  | none => exact obeys_throw same
  | some user => exact obeys_pure same

theorem obeys_rechargeCreemTx : Closing order (rechargeCreemTx now tradeNo customerEmail) := by
  refine obeys_lockedTopUp fun row known => obeys_guard rfl fun _ => ?_
  have marked := known.with now .success
  refine obeys_bind (obeys_hold marked) (fun acct _ holds => ?_) fun _ _ failed => failed
  rw [(holds : acct = holding order _)]
  refine obeys_bind obeys_emailToSet (fun acct email same => ?_) fun acct _ same => ?_
  · rw [same]
    exact obeys_credit marked rfl rfl rfl
  · rw [same]
    rfl

theorem obeys_expireSubscriptionOrder : Resting order (expireSubscriptionOrder now tradeNo) := by
  have asked : Resting order (find .own (.subscriptionOrder tradeNo)) :=
    obeys_query trivial fun _ _ => rfl
  have nothing : Closes order idle (.ok ()) := ⟨rfl, .nothing _⟩
  have failed : ∀ acct, acct = idle → Closes order acct (.error subscriptionOrderNotFound : Except String Unit) :=
    fun acct rests => by rw [rests]; rfl
  refine obeys_guard rfl fun _ => obeys_committed (obeys_attempt_option asked
    (fun acct found rests => ?_) (fun acct rests => obeys_throw (failed acct rests))
    fun acct _ rests => obeys_throw (failed acct rests))
  rw [(rests : acct = idle)]
  refine obeys_skip nothing fun _ => obeys_execute trivial fun answer _ => ?_
  cases answer with
  | error => rfl
  | ok => exact nothing

variable {cfg : Settings}

structure Worth (cfg : Settings) (order : TopUp) : Prop where
  unit : 0 ≤ cfg.quotaPerUnit
  amount : 0 ≤ order.amount
  money : 0 ≤ order.money

theorem Worth.unitQuota (worth : Worth cfg order) (known : Known order row)
    (mine : row.tradeNo = order.tradeNo) : 0 ≤ unitQuota cfg row :=
  unitQuota_nonneg worth.unit (by rw [(known.fields mine).2.1]; exact worth.amount)

theorem Worth.cnyQuota (worth : Worth cfg order) (known : Known order row)
    (mine : row.tradeNo = order.tradeNo) : 0 ≤ cnyQuota cfg row :=
  cnyQuota_nonneg worth.unit (by rw [(known.fields mine).2.2]; exact worth.money)

theorem resting_rules (worth : Worth cfg order) :
    Handling.Rules cfg (fun _ => True) (fun _ => Known order) (Resting order) (Closing order) where
  ends := obeys_pure rfl
  fails := obeys_throw rfl
  stops := obeys_pure ⟨rfl, .nothing _⟩
  aborts := obeys_throw rfl
  follows first continues := by
    refine obeys_bind first (fun acct val rests => ?_) fun _ _ rests => rests
    rw [(rests : acct = idle)]
    exact continues val
  catches := obeys_either
  locks := obeys_locked
  commits := obeys_committed
  reads := obeys_found
  looks := obeys_lockedTopUp
  saves known other := ⟨obeys_saveNow (known.with _ _) other, obeys_save (known.with _ _) other⟩
  settles _ known := ⟨obeys_settle known (worth.unitQuota known), obeys_settle known (worth.cnyQuota known)⟩
  completes _ known := obeys_completeTx known
  creem _ := obeys_rechargeCreemTx
  expires := obeys_expireSubscriptionOrder
  sweeps := obeys_execute trivial fun answer _ => by cases answer <;> rfl

end Requests

/-- The order is credited at most once, and to its user; when all requests have been served, it is paid iff it was
credited; and the users have got what was credited. -/
structure CreditedOnce (order : TopUp) (start : Store) (server : Server) : Prop where
  once : (credits order.tradeNo server.shared.history).length ≤ 1
  owner : ∀ credit ∈ credits order.tradeNo server.shared.history, credit.userId = order.userId
  truthful : (∀ script ∈ server.processes, ∃ res, script = .done res) →
    (Paid order.tradeNo server.shared.db ↔ credits order.tradeNo server.shared.history ≠ [])
  balance : ∀ userId, server.shared.db.users.column User.quota userId =
    start.users.column User.quota userId + received userId (allCredits server.shared.history)

theorem Held.creditedOnce {order : TopUp} {start : Store} {server : Server} {accts : Nat → Call}
    (held : Held order start server.processes.length server.shared accts)
    (ends : ∀ pid res, server.processes[pid]? = some (.done res) → Rests (accts pid) res) :
    CreditedOnce order start server where
  once := by
    cases held.phase with
    | unpaid _ nothing | owed _ _ _ nothing => rw [nothing]; exact Nat.zero_le 1
    | credited _ _ once => rw [once]; exact Nat.le_refl 1
  owner := held.owner
  truthful served := by
    cases held.phase with
    | unpaid _ nothing unpaid => simp [nothing, unpaid]
    | credited credit _ once paid => simp [once, paid]
    | owed pid mine =>
      -- a req that owes the credit is still being served
      have inside : pid < server.processes.length := by
        by_contra outside
        rw [held.absent pid (Nat.not_lt.mp outside)] at mine
        cases mine
      obtain ⟨res, done⟩ := served _ (getElem_mem inside)
      have rests : accts pid = idle := ends pid res (by rw [getElem?_eq_getElem inside, done])
      rw [rests] at mine
      cases mine
  balance := held.balance

theorem order_credited_once {gateways : Gateways} {cfg : Settings} {order : TopUp} {store : Store}
    (stored : store.topUps.lookup order.tradeNo = some order) (unpaid : order.status ≠ .success)
    (worth : Worth cfg order) {faults : List (Option String)} {requests : List (Int × Request)} {schedule : List Nat}
    {server : Server} (careful : Runs.Guarded (step exec) (whenPerforming (Careful order.tradeNo))
      (serve gateways cfg store faults requests) schedule)
    (run : Runs.exec (step exec) (serve gateways cfg store faults requests) schedule = some server) :
    CreditedOnce order store server := by
  have due : ¬Paid order.tradeNo store := by
    rw [Paid, stored]
    exact fun paid => unpaid (some_inj.mp paid)
  have begins : ∀ count, Held order store count { quiet store with faults := faults } fun _ => idle := fun count => {
    pending := fun _ => rfl
    orderly := fun _ _ mem => by cases mem
    sound := fun row found => by cases stored.symm.trans found; rfl
    absent := fun _ _ => rfl
    phase := .unpaid (fun _ => rfl) rfl due
    owner := fun _ mem => by cases mem
    balance := fun _ => (Int.add_zero _).symm }
  have obeys : ∀ program ∈ requests.map fun req => req.2.script gateways cfg req.1,
      Resting order program := by
    intro program mem
    obtain ⟨req, _, rfl⟩ := mem_map.mp mem
    exact (resting_rules worth).script req.2 fun _ _ => trivial
  obtain ⟨length, accts, held, meets⟩ :=
    coherent_run (held_preserved order store _) (launch_coherent (begins _) obeys) careful run
  rw [← length] at held
  exact held.creditedOnce fun pid res found => meets pid _ found

/-- A payment that is notified, and a cancellation that comes too late. -/
theorem order_paid_then_cancelled : ∃ server, Runs.exec (step exec) (serve openGateways usualSettings orderStore []
      [(1100, .epay (some [("out_trade_no", "order")])), (1100, .cancelZS "order" 7)]) [0, 0, 0, 0, 0, 1, 1] = some server ∧
    CreditedOnce pendingOrder orderStore server := by
  have worth : Worth usualSettings pendingOrder := ⟨by decide +kernel, by decide, by decide +kernel⟩
  refine exists_end_of (by decide +kernel) fun server run => ?_
  exact order_credited_once (by decide +kernel) (by decide) worth (by decide +kernel) run

/-- Two notifications of one payment read the order before either saves it: the user is credited twice. And if the increase
is refused after the status was saved, the order is paid and nobody was credited. -/
theorem order_status_untrue : (∃ server, Runs.exec (step exec) (serve openGateways usualSettings orderStore []
        [(1100, .stripe "order" ""), (1100, .stripe "order" "")]) [0, 1, 0, 0, 0, 1, 1, 1] = some server ∧
      (credits "order" server.shared.history).length = 2 ∧ server.shared.db.users.column User.quota 7 = 10000000) ∧
    ∃ server, Runs.exec (step exec) (serve openGateways usualSettings orderStore [none, none, some "connection lost"]
        [(1100, .epay (some [("out_trade_no", "order")]))]) [0, 0, 0, 0, 0] = some server ∧
      Paid "order" server.shared.db ∧ credits "order" server.shared.history = [] :=
  ⟨exists_end (by decide +kernel), exists_end (by decide +kernel)⟩

end Tokengine.Payments.CreditOnce
