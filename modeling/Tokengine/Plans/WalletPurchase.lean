import Tokengine.Lib.Faults
import Tokengine.Plans.Store

/-! The purchase of a plan from the wallet, whatever statements the driver refuses. The deduction, the change of
the group and the insert of the subscription are separate statements; when one fails the price is added back, by a
statement that may fail too, and the group is left as it is. With batch updates the wallet's part is collected in
memory. -/

namespace Tokengine.Plans.WalletPurchase
open Transactions Interleaving Option Table

def Compensated (shared : Shared schema) : Statement schema → Prop
  | .write .global (.group userId _) =>
    (shared.db.users.lookup userId).isSome → accepts shared → accepts shared.answered
  | .write .global (.addQuota userId amount) => 0 < amount → (shared.db.users.lookup userId).isSome → accepts shared
  | _ => True

structure Unchanged (db after : Store) : Prop where
  users : after.users = db.users
  subs : after.subs = db.subs

structure Bought (price userId planId : Int) (db after : Store) (collected : Int) : Prop where
  paid : ∀ id, after.users.column Member.quota id + (if id = userId then collected else 0) =
    db.users.column Member.quota id - if id = userId then price else 0
  subscribed : ∃ sub : Subscription, sub.userId = userId ∧ sub.planId = planId ∧ after.subs.rows = db.subs.rows ++ [sub]

/-- The price of the plan in whole units, without rounding. -/
def exactPrice (quotaPerUnit : Int) (plan : Plan) : Int := (plan.priceAmount * unitQuota quotaPerUnit).floor

/-- The wallet is the row of the user and what is collected for it. -/
def AllOrNothing (quotaPerUnit userId planId : Int) (db after : Store) : Except String Unit → Int → Prop
  | .ok _, collected => ∃ plan, db.plans.lookup planId = some plan ∧
      Bought (exactPrice quotaPerUnit plan) userId planId db after collected
  | .error _, collected => Unchanged db after ∧ collected = 0

theorem Unchanged.refl (db : Store) : Unchanged db db := ⟨rfl, rfl⟩

variable {pid : Nat} {shared after : Shared schema} {clock : Clock} {userId : Int} {plan : Plan} {tradeNo : String}

/-- The program changes nothing and breaks no guard, and a value it returns is as `told` says. -/
def Reads {α : Type} (pid : Nat) (shared : Shared schema) (body : Action schema α) (told : α → Prop) : Prop :=
  ∃ res after, Ending Compensated pid shared body res after True ∧ after.db = shared.db ∧
    ∀ val, res = .ok val → told val

section Reading

variable {α β : Type} {told : α → Prop} {said : β → Prop} {body : Action schema β} {rest : β → Action schema α}

theorem reads_pure {val : α} (holds : told val) : Reads pid shared (pure val) told := by
  refine ⟨_, _, ending_pure val, rfl, ?_⟩
  rintro _ ⟨⟩
  exact holds

theorem reads_throw (e : String) : Reads pid shared (throw e) told := ⟨_, _, ending_throw e, rfl, nofun⟩

theorem reads_computed (res : Except String α) : Reads pid shared (computed res) fun _ => True :=
  ⟨_, _, ending_computed res, rfl, fun _ _ => trivial⟩

theorem reads_find (query : Query) : Reads pid shared (find .global query) (· = answer query shared.db) := by
  obtain ⟨e, ending⟩ | ending := @ending_query schema Compensated pid shared .global query
  · exact ⟨_, _, ending, rfl, nofun⟩
  · refine ⟨_, _, ending, rfl, ?_⟩
    rintro _ ⟨⟩
    rfl

theorem reads_after {val : β} {middle : Shared schema} (begins : Ending Compensated pid shared body (.ok val) middle True)
    (same : middle.db = shared.db) (reads : Reads pid middle (rest val) told) : Reads pid shared (body >>= rest) told := by
  obtain ⟨last, after, ending, unchanged, tells⟩ := reads
  exact ⟨last, after, ending_safe (ending_bind begins ending) and_self_iff, unchanged.trans same, tells⟩

theorem reads_bind (first : Reads pid shared body said)
    (continues : ∀ val middle, middle.db = shared.db → said val → Reads pid middle (rest val) told) :
    Reads pid shared (body >>= rest) told := by
  obtain ⟨res, middle, begins, same, holds⟩ := first
  cases res with
  | error e => exact ⟨_, _, ending_fails begins, same, nofun⟩
  | ok val => exact reads_after begins same (continues val middle same (holds val rfl))

end Reading

theorem limit_reads : Reads pid shared (do
    let count ← find .global (.subCount userId plan.id)
    if plan.maxPurchasePerUser ≤ count then throw limitReached else pure ()) fun _ => True := by
  refine reads_bind (reads_find _) fun count middle _ _ => ?_
  split
  · exact reads_throw _
  · exact reads_pure trivial

theorem checkPurchaseLimit_reads : Reads pid shared (checkPurchaseLimit .global userId plan) fun _ => True := by
  unfold checkPurchaseLimit
  split
  · exact limit_reads
  · exact reads_pure trivial

/-- What becomes of the group: no change, or a change that is taken. -/
inductive Upgraded (pid : Nat) (shared : Shared schema) (body : Action schema String) (userId : Int) (upgradeGroup : String) :
    Prop
  | kept (reads : Reads pid shared body fun _ => True)
  | moved (prevGroup : String) (after : Shared schema)
      (ending : Ending Compensated pid shared body (.ok prevGroup) after
        ((shared.db.users.lookup userId).isSome → accepts after))
      (other : ((shared.db.users.lookup userId).map Member.group).getD "" ≠ upgradeGroup)
      (taken : after.db = apply (.group userId upgradeGroup) shared.db)

theorem upgraded_run {upgradeGroup : String}
    (other : ((shared.db.users.lookup userId).map Member.group).getD "" ≠ upgradeGroup) (currentGroup : String) :
    Upgraded pid shared (run .global (.group userId upgradeGroup) >>= fun _ => pure currentGroup) userId upgradeGroup := by
  obtain ⟨refuses, e, refused⟩ | ⟨takes, taken⟩ :=
    @ending_execute schema Compensated pid shared (.group userId upgradeGroup)
  · refine .kept ⟨_, _, ending_safe (ending_fails refused) ?_, rfl, nofun⟩
    simp [Compensated, refuses]
  · refine .moved currentGroup _ (ending_safe (ending_bind taken (ending_pure _)) ?_) other rfl
    rw [and_true]
    change (_ → accepts shared = true → accepts shared.answered = true) ↔ _
    rw [takes]
    simp only [forall_const]
    exact Iff.rfl

theorem upgradeUserGroup_upgraded (pid : Nat) (shared : Shared schema) (userId : Int) (upgradeGroup : String) :
    Upgraded pid shared (upgradeUserGroup .global userId upgradeGroup) userId upgradeGroup := by
  have reads : Reads pid shared (getUserGroupByIdTx .global userId) (· = answer (.group userId) shared.db) := by
    unfold getUserGroupByIdTx
    split
    · exact reads_throw _
    · exact reads_find _
  unfold upgradeUserGroup
  split
  · exact .kept (reads_pure trivial)
  obtain ⟨res, middle, begins, same, cur⟩ := reads
  cases res with
  | error e => exact .kept ⟨_, _, ending_fails begins, same, nofun⟩
  | ok currentGroup =>
    have continues : Upgraded pid middle (if currentGroup = upgradeGroup then pure "" else
        run .global (.group userId upgradeGroup) >>= fun _ => pure currentGroup) userId upgradeGroup := by
      split
      · exact .kept (reads_pure trivial)
      next other =>
        refine upgraded_run (fun hit => other ?_) currentGroup
        rw [cur currentGroup rfl, ← hit, same]
        rfl
    cases continues with
    | kept reads => exact .kept (reads_after begins same reads)
    | moved prevGroup after ending other taken =>
      rw [same] at ending other taken
      exact .moved prevGroup after (ending_safe (ending_bind begins ending) (true_and _).to_iff) other taken

/-- What becomes of the creation: a subscription, an error that leaves no trace, or an error after the group was changed. -/
inductive Created (pid : Nat) (shared : Shared schema) (body : Action schema Unit) (userId planId : Int) : Prop
  | made (after : Shared schema) (sub : Subscription) (ending : Ending Compensated pid shared body (.ok ()) after True)
      (quota : ∀ id, after.db.users.column Member.quota id = shared.db.users.column Member.quota id)
      (mine : sub.userId = userId) (named : sub.planId = planId)
      (added : after.db.subs = shared.db.subs.save { sub with id := shared.db.nextSubId })
  | kept (e : String) (after : Shared schema) (ending : Ending Compensated pid shared body (.error e) after True)
      (unchanged : Unchanged shared.db after.db)
  | stranded (e : String) (after : Shared schema) (ending : Ending Compensated pid shared body (.error e) after False)
      (row : Member) (found : shared.db.users.lookup userId = some row) (group : String) (other : row.group ≠ group)
      (users : after.db.users = shared.db.users.update userId fun user => { user with group := group })

theorem quota_group (db : Store) (userId : Int) (group : String) (id : Int) :
    (apply (.group userId group) db).users.column Member.quota id = db.users.column Member.quota id := by
  have same := @map_lookup_update_same _ _ _ _ (fun user : Member => { user with group := group }) (fun _ => rfl) _
    Member.quota (fun _ => rfl) db.users userId id
  exact congrArg (getD · 0) same

section Creating

variable {planId : Int} {row : Subscription}

theorem created_throw (e : String) : Created pid shared (throw e) userId planId := .kept e _ (ending_throw e) (.refl _)

theorem created_insert : Created pid shared (run .global (.createSub row)) row.userId row.planId := by
  obtain ⟨_, e, refused⟩ | ⟨_, taken⟩ := @ending_execute schema Compensated pid shared (.createSub row)
  · exact .kept e _ refused (.refl _)
  · exact .made _ row taken (fun _ => rfl) rfl rfl rfl

/-- A first part that changes nothing. -/
theorem created_bind {β : Type} {body : Action schema β} {rest : β → Action schema Unit} {told : β → Prop}
    (reads : Reads pid shared body told) (continues : ∀ val middle, Created pid middle (rest val) userId planId) :
    Created pid shared (body >>= rest) userId planId := by
  obtain ⟨res, middle, begins, same, _⟩ := reads
  cases res with
  | error e =>
    refine .kept e middle (ending_fails begins) ?_
    rw [same]
    exact .refl _
  | ok val =>
    have created := continues val middle
    cases created with
    | made after sub ending quota mine named added =>
      rw [same] at quota added
      exact .made after sub (ending_safe (ending_bind begins ending) and_self_iff) quota mine named added
    | kept e after ending unchanged =>
      rw [same] at unchanged
      exact .kept e after (ending_safe (ending_bind begins ending) and_self_iff) unchanged
    | stranded e after ending row found group other users =>
      rw [same] at found users
      exact .stranded e after (ending_safe (ending_bind begins ending) (true_and _).to_iff) row found group other users

theorem created_moved {body : Action schema String} {rows : String → Subscription} {prevGroup group : String}
    (begins : Ending Compensated pid shared body (.ok prevGroup) after
      ((shared.db.users.lookup userId).isSome → accepts after))
    (other : ((shared.db.users.lookup userId).map Member.group).getD "" ≠ group)
    (moved : after.db = apply (.group userId group) shared.db) (mine : (rows prevGroup).userId = userId)
    (named : (rows prevGroup).planId = planId) :
    Created pid shared (body >>= fun prevGroup => run .global (.createSub (rows prevGroup))) userId planId := by
  obtain ⟨refuses, e, refused⟩ | ⟨takes, taken⟩ :=
    @ending_execute schema Compensated pid after (.createSub (rows prevGroup))
  · have ending : Ending Compensated pid shared (body >>= fun prevGroup => run .global (.createSub (rows prevGroup))) _ _ _ :=
      ending_bind begins refused
    rw [refuses] at ending
    cases found : shared.db.users.lookup userId with
    | none =>
      refine .kept e _ (ending_safe ending (by simp [found, Compensated])) ?_
      change Unchanged shared.db after.db
      rw [moved]
      exact ⟨update_of_none found _, rfl⟩
    | some user =>
      rw [found] at other
      exact .stranded e _ (ending_safe ending (by simp [found])) user found group other (congrArg Store.users moved)
  · refine .made _ _ (ending_safe (ending_bind begins taken) (by simp [takes, Compensated])) (fun id => ?_) mine named ?_
    · change (apply (.createSub (rows prevGroup)) after.db).users.column Member.quota id = _
      rw [moved]
      exact quota_group shared.db userId group id
    · change (apply (.createSub (rows prevGroup)) after.db).subs = _
      rw [moved]
      rfl

end Creating

theorem create_ending (pid : Nat) (shared : Shared schema) (clock : Clock) (userId : Int) (tradeNo : String) (plan : Plan) :
    Created pid shared (createUserSubscriptionFromPlanTx .global clock userId tradeNo plan .wallet) userId plan.id := by
  unfold createUserSubscriptionFromPlanTx
  split
  · exact created_throw _
  split
  · exact created_throw _
  refine created_bind checkPurchaseLimit_reads fun _ limited => created_bind (reads_computed _) fun endUnix limited => ?_
  cases upgradeUserGroup_upgraded pid limited userId (Text.trimSpace plan.upgradeGroup) with
  | kept reads => exact created_bind reads fun prevGroup _ => created_insert
  | moved prevGroup after ending other taken => exact created_moved ending other taken rfl rfl

/-! ### The wallet -/

def addQuota (amount : Int) (user : Member) : Member := { user with quota := user.quota + amount }

def setGroup (group : String) (user : Member) : Member := { user with group := group }

variable {users : Table Member.id} {price : Int}

theorem update_addQuota_zero (users : Table Member.id) (userId : Int) : users.update userId (addQuota 0) = users := by
  have idle : addQuota 0 = id := by
    funext user
    simp [addQuota]
  rw [idle, update_id]

theorem refunded (users : Table Member.id) (userId price : Int) :
    (users.update userId (addQuota (-price))).update userId (addQuota price) = users := by
  have undoes : addQuota price ∘ addQuota (-price) = id := by
    funext user
    simp [addQuota]
  rw [update_update (addQuota (-price)) (fun _ => rfl) users userId (addQuota price) (fun _ => rfl), undoes,
    update_id]

theorem unpaid_iff (nonneg : 0 ≤ price) : users.update userId (addQuota (-price)) = users ↔
    ¬(0 < price ∧ (users.lookup userId).isSome) := by
  cases found : users.lookup userId with
  | none => simp [update_of_none found]
  | some user =>
    have after := lookup_update (addQuota (-price)) (fun _ => rfl) users userId userId
    rw [if_pos rfl, found] at after
    constructor
    · rintro same ⟨pos, _⟩
      rw [same, found, map_some, Option.some.injEq] at after
      have quota := congrArg Member.quota after
      simp only [addQuota] at quota
      omega
    · intro free
      have zero : price = 0 := by
        simp only [isSome_some, and_true] at free
        omega
      rw [zero, Int.neg_zero, update_addQuota_zero]

theorem quota_added (amount : Int) (known : amount ≠ 0 → (users.lookup userId).isSome) (id : Int) :
    (users.update userId (addQuota amount)).column Member.quota id =
      users.column Member.quota id + if id = userId then amount else 0 := by
  by_cases idle : amount = 0
  · rw [idle, update_addQuota_zero]
    simp
  · exact column_update (addQuota amount) (fun _ => rfl) (fun _ => rfl) (known idle) id

theorem group_shows {row : Member} (found : users.lookup userId = some row) {group : String} (other : row.group ≠ group)
    (taken back : Int) :
    ((users.update userId (addQuota taken)).update userId (setGroup group)).update userId (addQuota back) ≠ users := by
  intro same
  have after := lookup_update (addQuota back) (fun _ => rfl)
    ((users.update userId (addQuota taken)).update userId (setGroup group)) userId userId
  rw [same, if_pos rfl, lookup_update (setGroup group) (fun _ => rfl), if_pos rfl,
    lookup_update (addQuota taken) (fun _ => rfl), if_pos rfl, found] at after
  exact other (congrArg Member.group (Option.some.inj after))

/-! ### The payment -/

/-- What a change by `amount` writes to the row. -/
def written (batch : Bool) (amount : Int) : Int := if batch then 0 else amount

def collected (batch : Bool) (amount : Int) : Int := if batch then amount else 0

theorem written_add_collected (batch : Bool) (amount : Int) : written batch amount + collected batch amount = amount := by
  cases batch <;> simp [written, collected]

/-- What becomes of a change of the wallet: it is refused, or made in the row or in memory. -/
inductive Moved (batch : Bool) (pid : Nat) (shared : Shared schema) (body : Action schema Int) (userId amount : Int) : Prop
  | refused (e : String) (after : Shared schema) (ending : Ending Compensated pid shared body (.error e) after
        ¬(0 < amount ∧ (shared.db.users.lookup userId).isSome)) (direct : batch = false) (same : after.db = shared.db)
  | made (after : Shared schema) (ending : Ending Compensated pid shared body (.ok (collected batch amount)) after True)
      (users : after.db.users = shared.db.users.update userId (addQuota (written batch amount)))
      (subs : after.db.subs = shared.db.subs) (next : after.db.nextSubId = shared.db.nextSubId)

theorem changeUserQuota_moved (pid : Nat) (shared : Shared schema) (batch : Bool) (userId : Int) (nonneg : 0 ≤ price)
    (amount : Int) :
    Moved batch pid shared (changeUserQuota batch userId price amount) userId amount := by
  unfold changeUserQuota
  rw [if_neg (by omega)]
  cases batch with
  | true => exact .made _ (ending_pure _) (update_addQuota_zero _ _).symm rfl rfl
  | false =>
    obtain ⟨refuses, e, refused⟩ | ⟨takes, taken⟩ := @ending_execute schema Compensated pid shared (.addQuota userId amount)
    · refine .refused e _ (ending_safe (ending_fails refused) ?_) rfl rfl
      simp [Compensated, refuses]
    · exact .made _ (ending_safe (ending_bind taken (ending_pure 0)) (by simp [Compensated, takes])) rfl rfl rfl

/-- `AllOrNothing` for a known price. -/
def Settled (price userId planId : Int) (db after : Store) : Except String Unit → Int → Prop
  | .ok _, collected => Bought price userId planId db after collected
  | .error _, collected => Unchanged db after ∧ collected = 0

theorem failOrder_ending (pid : Nat) (shared : Shared schema) (order : SubscriptionOrder) {α : Type} (val : α) :
    ∃ after, Ending Compensated pid shared (failOrder order >>= fun _ => pure val) (.ok val) after True ∧
      Unchanged shared.db after.db := by
  have fails : ∃ after, Ending Compensated pid shared (failOrder order) (.ok ()) after True ∧
      Unchanged shared.db after.db := by
    obtain ⟨_, e, refused⟩ | ⟨_, taken⟩ :=
      @ending_execute schema Compensated pid shared (.saveOrder { order with status := .failed })
    · exact ⟨_, ending_safe (ending_attempt refused (ending_pure ())) and_self_iff, ⟨rfl, rfl⟩⟩
    · exact ⟨_, ending_safe (ending_attempt taken (ending_pure ())) and_self_iff, ⟨rfl, rfl⟩⟩
  obtain ⟨after, ending, unchanged⟩ := fails
  exact ⟨after, ending_safe (ending_bind ending (ending_pure val)) and_self_iff, unchanged⟩

/-- After a failed creation the wallet is as before the deduction, or the refund was refused. -/
theorem compensation_ending (pid : Nat) (shared : Shared schema) (batch : Bool) (userId : Int) (nonneg : 0 ≤ price)
    (order : SubscriptionOrder) (message : String) :
    ∃ after total back safe, Ending Compensated pid shared (do
        let back ← attempt (increaseUserQuota batch userId price)
        failOrder order
        pure ((.error message : Except String Unit), collected batch (-price) + back.toOption.getD 0))
        (.ok (.error message, total)) after safe ∧
      after.db.subs = shared.db.subs ∧ after.db.users = shared.db.users.update userId (addQuota back) ∧
      ∀ users, shared.db.users = users.update userId (addQuota (written batch (-price))) →
        (safe ↔ after.db.users = users ∧ total = 0) := by
  cases changeUserQuota_moved pid shared batch userId nonneg price with
  | refused e middle ending direct same =>
    obtain ⟨after, fails, unchanged⟩ := failOrder_ending pid middle order
      ((.error message : Except String Unit), collected batch (-price) + 0)
    refine ⟨after, _, 0, _, ending_attempt ending fails, ?_, ?_, fun users charged => ?_⟩
    · rw [unchanged.subs, same]
    · rw [unchanged.users, same, update_addQuota_zero]
    subst direct
    rw [unchanged.users, same, charged, isSome_lookup_update (addQuota _) fun _ => rfl]
    change (¬(0 < price ∧ _) ∧ True) ↔ users.update userId (addQuota (-price)) = users ∧ (0 : Int) + 0 = 0
    rw [unpaid_iff nonneg]
    simp
  | made middle ending moved subs next =>
    obtain ⟨after, fails, unchanged⟩ := failOrder_ending pid middle order
      ((.error message : Except String Unit), collected batch (-price) + collected batch price)
    refine ⟨after, _, written batch price, _, ending_attempt ending fails, unchanged.subs.trans subs,
      unchanged.users.trans moved, fun users charged => ?_⟩
    rw [unchanged.users, moved, charged]
    cases batch with
    | true => simp [written, collected, update_addQuota_zero]
    | false => simp [written, collected, refunded]

/-- A user who can pay a positive price has a row. -/
theorem paying (enough : price ≤ users.column Member.quota userId) (nonneg : 0 ≤ price) (charged : price ≠ 0) :
    (users.lookup userId).isSome := by
  cases found : users.lookup userId with
  | some user => rfl
  | none =>
    have zero : users.column Member.quota userId = 0 := by simp [column, found]
    omega

theorem appended {subs : Table fun sub : Subscription => sub.id} {row : Subscription}
    (fresh : ∀ sub ∈ subs.rows, sub.id < row.id) : (subs.save row).rows = subs.rows ++ [row] := by
  refine if_neg fun present => ?_
  obtain ⟨sub, listed, same⟩ := List.mem_map.mp present
  exact absurd same (fresh sub listed).ne

theorem payFromWallet_ending (pid : Nat) (shared : Shared schema) (clock : Clock) (batch : Bool) (plan : Plan)
    (tradeNo : String) (fresh : ∀ sub ∈ shared.db.subs.rows, sub.id < shared.db.nextSubId) (nonneg : 0 ≤ price)
    (enough : price ≤ shared.db.users.column Member.quota userId) :
    ∃ answer collected after safe,
      Ending Compensated pid shared (payFromWallet clock batch userId price plan tradeNo) (.ok (answer, collected)) after safe ∧
      (safe ↔ Settled price userId plan.id shared.db after.db answer collected) := by
  let order : SubscriptionOrder :=
    ⟨tradeNo, userId, plan.id, plan.priceAmount, "wallet", .success, clock.now, clock.now, ""⟩
  obtain ⟨_, e, refused⟩ | ⟨_, ordered⟩ := @ending_execute schema Compensated pid shared (.saveOrder order)
  · exact ⟨.error "创建订单失败", 0, _, _, ending_attempt refused (ending_pure _),
      ⟨fun _ => ⟨.refl _, rfl⟩, fun _ => ⟨trivial, trivial⟩⟩⟩
  let stored : Shared schema := shared.answered.take pid [.saveOrder order]
  cases changeUserQuota_moved pid stored batch userId nonneg (-price) with
  | refused e middle deduction _ same =>
    obtain ⟨after, fails, unchanged⟩ := failOrder_ending pid middle order ((.error "扣款失败" : Except String Unit), (0 : Int))
    refine ⟨_, _, after, _, ending_attempt ordered (ending_attempt deduction fails), ?_⟩
    have users : after.db.users = shared.db.users := by rw [unchanged.users, same]; rfl
    have subs : after.db.subs = shared.db.subs := by rw [unchanged.subs, same]; rfl
    exact ⟨fun _ => ⟨⟨users, subs⟩, rfl⟩, fun _ => ⟨trivial, fun charges => by omega, trivial⟩⟩
  | made charged deduction users subs next =>
  replace users : charged.db.users = shared.db.users.update userId (addQuota (written batch (-price))) := users
  cases create_ending pid charged clock userId tradeNo plan with
  | made after sub creation quota mine named added =>
    refine ⟨_, _, after, _, ending_attempt ordered (ending_attempt deduction (ending_attempt creation (ending_pure _))), ?_⟩
    let row : Subscription := { sub with id := shared.db.nextSubId }
    refine ⟨fun _ => ⟨fun id => ?_, row, mine, named, ?_⟩, fun _ => ⟨trivial, trivial, trivial, trivial⟩⟩
    · rw [quota, users, quota_added _ fun moves => paying enough nonneg (by grind [written])]
      have whole := written_add_collected batch (-price)
      split <;> omega
    · rw [added, subs, next]
      exact @appended shared.db.subs row fresh
  | kept e after creation unchanged =>
    obtain ⟨last, total, back, safe, compensates, kept, _, exactly⟩ :=
      compensation_ending pid after batch userId nonneg order ("创建订阅失败: " ++ e)
    refine ⟨_, total, last, _, ending_attempt ordered (ending_attempt deduction (ending_attempt creation compensates)), ?_⟩
    have restored := exactly shared.db.users (unchanged.users.trans users)
    have lists : last.db.subs = shared.db.subs := kept.trans (unchanged.subs.trans subs)
    exact ⟨fun all => ⟨⟨(restored.mp all.2.2.2).1, lists⟩, (restored.mp all.2.2.2).2⟩,
      fun same => ⟨trivial, trivial, trivial, restored.mpr ⟨same.1.users, same.2⟩⟩⟩
  | stranded e after creation row found group other moved =>
    rw [users, lookup_update (addQuota _) (fun _ => rfl), if_pos rfl] at found
    obtain ⟨before, present, rfl⟩ := map_eq_some_iff.mp found
    obtain ⟨last, total, back, safe, compensates, _, restored, _⟩ :=
      compensation_ending pid after batch userId nonneg order ("创建订阅失败: " ++ e)
    rw [moved, users] at restored
    refine ⟨_, total, last, _, ending_attempt ordered (ending_attempt deduction (ending_attempt creation compensates)), ?_⟩
    exact ⟨fun all => all.2.2.1.elim,
      fun same => absurd (restored.symm.trans same.1.users) (group_shows present other _ back)⟩

/-! ### The request -/

theorem checkWalletLimit_reads : Reads pid shared (checkWalletLimit userId plan) fun _ => True := by
  unfold checkWalletLimit
  split
  · split
    · exact reads_throw _
    · exact limit_reads
  · exact reads_pure trivial

theorem plan_reads {planId : Int} : Reads pid shared (getSubscriptionPlanByIdTx .global planId) fun plan =>
    shared.db.plans.lookup planId = some plan := by
  unfold getSubscriptionPlanByIdTx
  split
  · exact reads_throw _
  refine reads_bind (reads_find _) fun found _ _ stored => ?_
  cases found with
  | none => exact reads_throw _
  | some plan => exact reads_pure stored.symm

/-- What the checks before the payment have seen. -/
structure Affordable (quotaPerUnit userId planId : Int) (db : Store) (plan : Plan) : Prop where
  stored : db.plans.lookup planId = some plan
  priced : 1 / 100 ≤ plan.priceAmount
  covered : requiredQuota quotaPerUnit plan ≤ db.users.column Member.quota userId

variable {quotaPerUnit planId : Int}

theorem walletPlan_reads (pid : Nat) (shared : Shared schema) (quotaPerUnit userId planId : Int) : Reads pid shared (walletPlan quotaPerUnit userId planId)
    (Affordable quotaPerUnit userId planId shared.db) := by
  unfold walletPlan
  split
  · exact reads_throw _
  refine reads_bind plan_reads fun plan read sameRead stored => ?_
  split
  · exact reads_throw _
  split
  · exact reads_throw _
  next priced =>
  refine reads_bind checkWalletLimit_reads fun _ limited sameLimited _ => reads_bind (reads_find _) fun quota _ _ told => ?_
  split
  · exact reads_throw _
  next enough =>
  refine reads_pure ⟨stored, not_lt.mp priced, ?_⟩
  rw [← sameRead, ← sameLimited]
  rw [told] at enough
  exact not_lt.mp enough

theorem exactPrice_nonneg (quotaPerUnit : Int) (priced : 1 / 100 ≤ plan.priceAmount) : 0 ≤ exactPrice quotaPerUnit plan := by
  unfold exactPrice unitQuota
  rw [Rat.le_floor_iff]
  have price : (0 : Rat) ≤ plan.priceAmount := by linarith
  apply mul_nonneg price
  split
  · norm_num
  · have pos : 0 < quotaPerUnit := by omega
    exact_mod_cast pos.le

theorem settled_iff {db after : Store} {answer : Except String Unit} {collected : Int}
    (stored : db.plans.lookup planId = some plan) :
    Settled (exactPrice quotaPerUnit plan) userId planId db after answer collected ↔
      AllOrNothing quotaPerUnit userId planId db after answer collected := by
  cases answer with
  | error e => exact Iff.rfl
  | ok val =>
    refine ⟨fun bought => ⟨plan, stored, bought⟩, ?_⟩
    rintro ⟨other, found, bought⟩
    cases stored.symm.trans found
    exact bought

theorem walletPay_ending (pid : Nat) (shared : Shared schema) (clock : Clock) (batch : Bool) (userId : Int) (tradeNo : String)
    (fresh : ∀ sub ∈ shared.db.subs.rows, sub.id < shared.db.nextSubId)
    (whole : ∀ plan, shared.db.plans.lookup planId = some plan → requiredQuota quotaPerUnit plan = exactPrice quotaPerUnit plan) :
    ∃ answer collected after safe, Ending Compensated pid shared
        (subscriptionRequestWalletPay clock batch quotaPerUnit userId planId tradeNo) (.ok (answer, collected)) after safe ∧
      (safe ↔ AllOrNothing quotaPerUnit userId planId shared.db after.db answer collected) := by
  obtain ⟨res, checked, checks, same, tells⟩ := walletPlan_reads pid shared quotaPerUnit userId planId
  cases res with
  | error e =>
    refine ⟨.error e, 0, checked, _, ending_attempt checks (ending_pure _), ?_⟩
    rw [same]
    exact ⟨fun _ => ⟨.refl _, rfl⟩, fun _ => ⟨trivial, trivial⟩⟩
  | ok plan =>
    have affordable := tells plan rfl
    have planKey : plan.id = planId := (lookup_some affordable.stored).2
    have price := whole plan affordable.stored
    obtain ⟨answer, collected, after, safe, pays, exactly⟩ := payFromWallet_ending pid checked clock batch plan tradeNo
      (same ▸ fresh) (exactPrice_nonneg quotaPerUnit affordable.priced) (same ▸ price ▸ affordable.covered)
    rw [← price] at pays
    refine ⟨answer, collected, after, _, ending_attempt checks pays, ?_⟩
    rw [planKey, same] at exactly
    exact (and_iff_right trivial).trans (exactly.trans (settled_iff affordable.stored))

/-- A store at rest whose driver will refuse the statements that `faults` names. -/
def unreliable (db : Store) (faults : List (Option String)) : Shared schema := { quiet db with faults := faults }

def vipShop : Store :=
  { emptyStore with
    users := Table.empty.save ⟨7, "default", 100⟩
    plans := Table.empty.save { monthlyPlan with upgradeGroup := "vip" } }

/-- A plan of 2.01 with 500000 units to the currency unit. -/
def centShop : Store :=
  { emptyStore with
    users := Table.empty.save ⟨7, "default", 2000000⟩
    plans := Table.empty.save { monthlyPlan with priceAmount := 201 / 100 } }

theorem ends_with {shared : Shared schema} {body : Action schema (Except String Unit × Int)}
    {answer : Except String Unit} {collected : Int} {row : Option Member} (outcome : (Script.alone exec 0 body shared).map (fun outcome =>
      (outcome.1, outcome.2.db.users.lookup 7)) = some (.ok (answer, collected), row)) :
    ∃ after, Script.alone exec 0 body shared = some (.ok (answer, collected), after) ∧ after.db.users.lookup 7 = row := by
  obtain ⟨⟨res, after⟩, ran, shown⟩ := map_eq_some_iff.mp outcome
  obtain ⟨rfl, found⟩ := Prod.mk.inj shown
  exact ⟨after, ran, found⟩

end Tokengine.Plans.WalletPurchase
