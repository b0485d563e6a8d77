import Tokengine.Plans.Alone

/-! The group of a user over the life of the subscriptions that upgrade it. As long as upgrading
subscriptions do not overlap, the user is in the group of the active one, and back in the original group
when it has ended. -/

namespace Tokengine.Plans.GroupRestoration
open Transactions Interleaving Model Database Groups Alone List Option Runs

structure Happening where
  elapsed : Nat
  operation : Operation

structure System where
  store : Store
  now : Int

def happen (utcOffset : Int) (system : System) (happening : Happening) : Option System :=
  let now := system.now + happening.elapsed
  (Interleaving.Script.alone exec 0 (happening.operation.script ⟨now, utcOffset⟩) (quiet system.store)).map
    fun (_, after) => ⟨after.db, now⟩

/-- An upgrading subscription comes into being while no other one of the user is active, and one that is not over
is not ended in another's place. -/
def Orderly (user : Int) (clock : Clock) (db : Store) : Operation → Prop
  | .bindGift userId planId | .adminBind userId planId | .walletPay _ _ userId planId _ => userId = user →
      ∀ plan, db.plans.lookup planId = some plan → Clear user clock plan (Text.trimSpace plan.upgradeGroup) db
  | .redeem key userId => ∀ code plan, db.redemptions.lookup key = some code → userId = user →
      db.plans.lookup code.planId = some plan → Clear user clock plan plan.upgradeGroup db
  | .invalidate id | .delete id => ∀ row, Live user db row → row.id ≠ id → clock.now < row.endTime
  | .expire _ => True

section Operations

variable {orig : String} {user userId : Int} {db after : Store} {clock : Clock} {plan : Plan} {source : Source}
  {tradeNo : String}

def Settled (orig : String) (user now : Int) (acct : Local schema) : Prop :=
  acct.pending = [] ∧ Restorable orig user now acct.db

abbrev Settles (orig : String) (user : Int) (clock : Clock) (db : Store) {α : Type} (body : Action schema α) : Prop :=
  Does ⟨db, []⟩ body fun acct _ => Settled orig user clock.now acct

/-- What the payment leaves before and after the creation. -/
def Untouched (user : Int) (db : Store) (acct : Local schema) : Prop := ∃ after, acct = ⟨after, []⟩ ∧ Alike user db after

theorem Untouched.settled {acct : Local schema} (untouched : Untouched user db acct)
    (restorable : Restorable orig user clock.now db) : Settled orig user clock.now acct := by
  obtain ⟨after, rfl, alike⟩ := untouched
  exact ⟨rfl, restorable.alike alike⟩

theorem does_failOrder {acct : Local schema} {order : SubscriptionOrder} (untouched : Untouched user db acct) :
    Does acct (failOrder order) fun acct _ => Untouched user db acct := by
  obtain ⟨after, rfl, alike⟩ := untouched
  exact does_attempt_run (obeys_pure ⟨_, rfl, alike.trans (alike_saveOrder user _ _)⟩)

theorem does_changeUserQuota {acct : Local schema} {batch : Bool} {quota amount : Int} (untouched : Untouched user db acct) :
    Does acct (changeUserQuota batch userId quota amount) fun acct _ => Untouched user db acct := by
  refine obeys_guard untouched fun _ => obeys_skip untouched fun _ => ?_
  obtain ⟨after, rfl, alike⟩ := untouched
  exact does_run_then (obeys_pure ⟨_, rfl, alike.trans (alike_addQuota user userId amount _)⟩)

theorem redeemedUntil_now {redemption : Redemption} {endUnix now : Int} (ends : now ≤ endUnix)
    (valid : ¬(redemption.expiredTime ≠ 0 ∧ redemption.expiredTime < now)) : now ≤ redeemedUntil redemption endUnix := by
  unfold redeemedUntil
  split
  · omega
  · exact ends

variable (restorable : Restorable orig user clock.now db) (named : Named orig) (pos : 0 < clock.now)
  {planId : Int}

section Creating

include restorable named pos

theorem does_createTx (bought : source ≠ .redemption)
    (clear : userId = user → Clear user clock plan (Text.trimSpace plan.upgradeGroup) db) :
    Settles orig user clock db (transaction (createUserSubscriptionFromPlanTx .own clock userId tradeNo plan source)) := by
  refine does_transaction_from restorable (does_create (fun _ => ⟨rfl, nofun⟩) ?_)
  intro endUnix acct ends made
  refine ⟨made.own rfl, fun _ => ?_⟩
  rw [made.settled]
  exact restorable_created restorable named pos bought ends clear tradeNo

theorem does_bindGift (orderly : Orderly user clock db (.bindGift userId planId)) :
    Settles orig user clock db (bindGiftSubscription clock userId planId) := by
  refine obeys_guard ⟨rfl, restorable⟩ fun _ => ?_
  refine does_plan (fun _ => ⟨rfl, restorable⟩) fun plan found => ?_
  refine obeys_ite (fun _ => ?_) fun _ => obeys_throw ⟨rfl, restorable⟩
  exact does_createTx restorable named pos nofun fun mine => orderly mine plan found

theorem does_adminBind (orderly : Orderly user clock db (.adminBind userId planId)) :
    Settles orig user clock db (adminBindSubscription clock userId planId) := by
  refine obeys_guard ⟨rfl, restorable⟩ fun _ => ?_
  refine does_plan (fun _ => ⟨rfl, restorable⟩) fun plan found => ?_
  exact does_createTx restorable named pos nofun fun mine => orderly mine plan found

theorem does_payFromWallet {batch : Bool} {price : Int}
    (clear : userId = user → Clear user clock plan (Text.trimSpace plan.upgradeGroup) db) :
    Settles orig user clock db (payFromWallet clock batch userId price plan tradeNo) := by
  refine does_attempt_run (obeys_attempt (does_changeUserQuota ⟨_, rfl, alike_saveOrder user _ db⟩) fun acct res paid => ?_)
  have fails : ∀ {acct} order val, Untouched user db acct → Does acct (failOrder order >>= fun _ => pure val)
      fun acct (_ : Except String (Except String Unit × Int)) => Settled orig user clock.now acct := fun order val untouched =>
    obeys_bind (does_failOrder untouched) (fun _ _ ends => obeys_pure (ends.settled restorable))
      fun _ _ ends => ends.settled restorable
  cases res with
  | error => exact fails _ _ paid
  | ok taken =>
    obtain ⟨after, rfl, alike⟩ := paid
    have creation : Does ⟨after, []⟩ (createUserSubscriptionFromPlanTx .global clock userId tradeNo plan .wallet)
        (orFails (fun acct _ => Settled orig user clock.now acct) fun acct => acct = ⟨after, []⟩) := by
      refine does_create (fun _ => rfl) fun endUnix acct ends made => ⟨made.global rfl, ?_⟩
      have settled := made.settled
      rw [Local.settled, made.global rfl] at settled
      rw [show acct.db = _ from settled]
      exact restorable_created (restorable.alike alike) named pos (fun other => by cases other) ends
        (fun mine => alike.clear (clear mine)) tradeNo
    refine obeys_attempt creation fun acct res reached => ?_
    cases res with
    | ok => exact obeys_pure reached
    | error e =>
      rw [(reached : acct = ⟨after, []⟩)]
      exact obeys_attempt (does_changeUserQuota ⟨_, rfl, alike⟩) fun _ _ untouched => fails _ _ untouched

theorem does_walletPay {batch : Bool} {quotaPerUnit : Int}
    (orderly : Orderly user clock db (.walletPay batch quotaPerUnit userId planId tradeNo)) :
    Settles orig user clock db (subscriptionRequestWalletPay clock batch quotaPerUnit userId planId tradeNo) := by
  have known : Does ⟨db, []⟩ (walletPlan quotaPerUnit userId planId) fun acct res =>
      acct = ⟨db, []⟩ ∧ ∀ plan, res = .ok plan → db.plans.lookup planId = some plan := by
    have failed : ∀ e : String, (⟨db, []⟩ : Local schema) = ⟨db, []⟩ ∧
        ∀ plan, (.error e : Except String Plan) = .ok plan → db.plans.lookup planId = some plan :=
      fun _ => ⟨rfl, fun _ same => by cases same⟩
    refine obeys_guard (failed _) fun _ => does_plan failed fun plan found => ?_
    refine obeys_guard (failed _) fun _ => obeys_guard (failed _) fun _ => ?_
    have checked : Does ⟨db, []⟩ (checkWalletLimit userId plan) fun acct _ => acct = ⟨db, []⟩ := by
      refine obeys_ite (fun _ => obeys_guard rfl fun _ => does_find ?_) fun _ => obeys_pure rfl
      exact obeys_guard rfl fun _ => obeys_pure rfl
    refine does_known (obeys_mono checked fun _ _ same => ⟨same, fun _ _ => trivial⟩) failed fun _ _ => ?_
    refine does_find (obeys_guard (failed _) fun _ => obeys_pure ⟨rfl, fun _ same => ?_⟩)
    cases same
    exact found
  refine obeys_attempt known fun acct res reached => ?_
  obtain ⟨rfl, found⟩ := reached
  cases res with
  | error e => exact obeys_pure ⟨rfl, restorable⟩
  | ok plan => exact does_payFromWallet restorable named pos fun mine => orderly mine plan (found plan rfl)

end Creating

section

variable {key : String} (orderly : Orderly user clock db (.redeem key userId))
include restorable pos orderly

theorem does_redeemTx : Does ⟨db, []⟩ (redeemTx clock key userId) fun acct res =>
      Restorable orig user clock.now acct.db ∧ (res.isOk = true → Restorable orig user clock.now acct.settled) := by
  have failed : ∀ e : String, Restorable orig user clock.now (⟨db, []⟩ : Local schema).db ∧
      ((Except.error e : Except String Redemption).isOk = true → Restorable orig user clock.now
        (⟨db, []⟩ : Local schema).settled) := fun _ => ⟨restorable, nofun⟩
  have seen : answer (.redemption key) (Local.view (⟨db, []⟩ : Local schema) .own) = db.redemptions.lookup key := rfl
  refine does_attempt_find ?_
  rw [seen]
  cases found : db.redemptions.lookup key with
  | none => exact obeys_throw (failed _)
  | some code =>
    refine obeys_guard (failed _) fun _ => obeys_guard (failed _) fun valid => ?_
    refine obeys_ite (fun _ => ?_) fun _ => does_run_then (does_run_then (obeys_pure ⟨restorable, fun _ => ?_⟩))
    · have looked : Does ⟨db, []⟩ (getSubscriptionPlanByIdTx .own code.planId) fun acct res =>
          acct = ⟨db, []⟩ ∧ ∀ plan, res = .ok plan → db.plans.lookup code.planId = some plan := does_getPlan
      refine obeys_attempt looked fun acct res reached => ?_
      obtain ⟨rfl, plans⟩ := reached
      cases res with
      | error => exact obeys_throw (failed _)
      | ok plan =>
        refine obeys_guard (failed _) fun _ => obeys_computed failed fun endUnix ends => ?_
        have clear : userId = user → Clear user clock plan plan.upgradeGroup db := fun mine =>
          orderly code plan found mine (plans plan rfl)
        have made := restorable_redeemed restorable pos
          (fun mine names => redeemedUntil_now ((clear mine names).2 endUnix ends) valid) fun mine names => (clear mine names).1
        refine does_run_then (does_run_then (obeys_pure ⟨made, fun _ => ?_⟩))
        exact made.alike (alike_saveRedemption user _ _)
    · exact restorable.alike ((alike_addQuota user userId code.quota db).trans (alike_saveRedemption user _ _))

theorem does_redeem : Settles orig user clock db (redeem clock key userId) := by
  have unchanged : Settled orig user clock.now ⟨db, []⟩ := ⟨rfl, restorable⟩
  refine obeys_guard unchanged fun _ => obeys_guard unchanged fun _ => ?_
  have redeemed : Settles orig user clock db (transaction (redeemTx clock key userId)) := by
    refine does_transaction (obeys_mono (does_redeemTx restorable pos orderly) fun acct res reached => ?_)
    cases res with
    | error => exact ⟨rfl, reached.1⟩
    | ok => exact ⟨rfl, reached.2 rfl⟩
  refine obeys_attempt redeemed fun acct res reached => ?_
  cases res with
  | error => exact obeys_throw reached
  | ok redemption =>
    refine obeys_ite (fun _ => ?_) fun _ => obeys_pure reached
    have looked : Does acct (getSubscriptionPlanByIdTx .global redemption.planId) fun after res =>
        after = acct ∧ ∀ plan, res = .ok plan → acct.db.plans.lookup redemption.planId = some plan := does_getPlan
    refine obeys_attempt looked fun after res same => ?_
    rw [same.1]
    cases res <;> exact obeys_pure reached

end

section Ending

variable {id : Int}
include restorable named

theorem does_invalidate (orderly : Orderly user clock db (.invalidate id)) :
    Settles orig user clock db (adminInvalidateUserSubscription clock.now id) := by
  refine obeys_guard ⟨rfl, restorable⟩ fun _ => does_transaction_from restorable ?_
  refine does_findSubscription (fun _ => ⟨rfl, nofun⟩) fun sub mine found => does_run_then ?_
  refine does_downgrade (fun _ => ⟨rfl, nofun⟩) fun after kept moved => ⟨kept, fun _ => ?_⟩
  rw [moved, settled_write]
  exact restorable_invalidated restorable named found fun _ row live other => orderly row live (mine ▸ other)

theorem does_delete (orderly : Orderly user clock db (.delete id)) :
    Settles orig user clock db (adminDeleteUserSubscription clock.now id) := by
  refine obeys_guard ⟨rfl, restorable⟩ fun _ => does_transaction_from restorable ?_
  refine does_findSubscription (fun _ => ⟨rfl, nofun⟩) fun sub mine found => ?_
  have back : Does ⟨db, []⟩ (downgradeUserGroupForSubscriptionTx sub clock.now) fun acct res => acct.db = db ∧
      (res = .ok () → acct.settled = regroup sub.userId (downgraded sub clock.now db) db) :=
    does_downgrade (fun _ => ⟨rfl, nofun⟩) fun after kept moved => ⟨kept, fun _ => moved⟩
  refine obeys_bind back (fun acct _ reached => does_run ⟨reached.1, fun _ => ?_⟩) fun _ _ reached => ⟨reached.1, ?_⟩
  · rw [settled_write, reached.2 rfl, ← mine]
    exact restorable_deleted restorable named found fun _ row live other => orderly row live (mine ▸ other)
  · intro same
    cases same

theorem does_expire {limit : Int} : Settles orig user clock db (expireDueSubscriptions clock.now limit) := by
  refine does_find (obeys_loop (fun userId _ acct _ settled => ?_) ⟨rfl, restorable⟩)
  obtain ⟨store, pending⟩ := acct
  obtain ⟨(rfl : pending = []), before⟩ := settled
  refine does_transaction_from before (obeys_mono does_expireUser fun acct res reached => ⟨reached.1, fun ok => ?_⟩)
  rw [reached.2 ok]
  exact restorable_expired before named userId

end Ending

include restorable named pos in
theorem does_operation {operation : Operation} (orderly : Orderly user clock db operation) :
    Settles orig user clock db (operation.script clock) := by
  cases operation with
  | bindGift => exact does_bindGift restorable named pos orderly
  | adminBind => exact does_adminBind restorable named pos orderly
  | walletPay =>
    exact obeys_bind (does_walletPay restorable named pos orderly) (fun _ _ settled => obeys_pure settled) fun _ _ settled => settled
  | redeem =>
    exact obeys_bind (does_redeem restorable pos orderly) (fun _ _ settled => obeys_pure settled) fun _ _ settled => settled
  | invalidate => exact does_invalidate restorable named orderly
  | delete => exact does_delete restorable named orderly
  | expire => exact does_expire restorable named

end Operations

def OrderlyAt (user utcOffset : Int) (system : System) (happening : Happening) : Prop :=
  Orderly user ⟨system.now + happening.elapsed, utcOffset⟩ system.store happening.operation

variable {orig : String}

theorem restorable_happen {user utcOffset : Int} {before after : System} {happening : Happening}
    (named : Named orig) (restorable : Restorable orig user before.now before.store) (pos : 0 < before.now)
    (orderly : OrderlyAt user utcOffset before happening) (taken : happen utcOffset before happening = some after) :
    0 < after.now ∧ Restorable orig user after.now after.store := by
  obtain ⟨⟨res, reached⟩, ran, rfl⟩ := map_eq_some_iff.mp taken
  have later : 0 < before.now + happening.elapsed := by omega
  obtain ⟨acct, same, _, holds⟩ := alone_does (does_operation (restorable.later happening.elapsed) named later orderly) ran
  refine ⟨later, ?_⟩
  dsimp only
  rw [same]
  exact holds

structure Begins (orig : String) (user : Int) (start : System) : Prop where
  started : 0 < start.now
  present : (start.store.users.lookup user).isSome
  group : userGroup user start.store = orig
  fresh : ∀ sub ∈ start.store.subs.rows, sub.id < start.store.nextSubId
  plain : ∀ sub ∈ start.store.subs.rows, ¬Upgrades user sub

theorem Begins.restorable {user : Int} {start : System} (begins : Begins orig user start) :
    Restorable orig user start.now start.store := by
  have none : ∀ sub, ¬Live user start.store sub := fun sub live => begins.plain sub live.member live.upgrades
  have ended : ∀ sub, ¬Ended user start.store sub := fun sub lapsed => begins.plain sub lapsed.member lapsed.upgrades
  exact {
    tidy := {
      fresh := begins.fresh
      remembers := fun sub member upgrades => absurd upgrades (begins.plain sub member)
      single := fun first _ live => absurd live (none first)
      started := fun sub live => absurd live (none sub)
      past := fun sub lapsed => absurd lapsed (ended sub)
      ordered := fun sub _ lapsed => absurd lapsed (ended sub) }
    present := begins.present
    held := fun sub live => absurd live (none sub)
    restored := fun _ => begins.group }

/-- The user is in the group of an active upgrading subscription that was bought, and in the original group when
there is no active upgrading one. -/
structure Restored (orig : String) (user : Int) (db : Store) : Prop where
  held : ∀ sub, Live user db sub → sub.source ≠ .redemption → ∃ other, Live user db other ∧ userGroup user db = other.upgradeGroup
  restored : (∀ sub, ¬Live user db sub) → userGroup user db = orig

theorem user_group_restored {user utcOffset : Int} {start final : System} {happenings : List Happening}
    (named : Named orig) (begins : Begins orig user start)
    (orderly : Runs.Guarded (happen utcOffset) (OrderlyAt user utcOffset) start happenings)
    (run : Runs.exec (happen utcOffset) start happenings = some final) : Restored orig user final.store := by
  have keeps := exec_invariant (fun _ _ _ before orderly taken => restorable_happen named before.2 before.1 orderly taken)
    ⟨begins.started, begins.restorable⟩ orderly run
  exact ⟨fun sub live bought => ⟨sub, live, ((keeps.2.held sub live).bought bought).1⟩, keeps.2.restored⟩

def vipPlan : Plan := { monthlyPlan with upgradeGroup := "vip" }

def startSystem : System where
  store := { emptyStore with
    users := emptyStore.users.save ⟨1, "default", 0⟩
    plans := emptyStore.plans.save vipPlan }
  now := 100

theorem begins_startSystem : Begins "default" 1 startSystem where
  started := by decide
  present := by decide
  group := by decide
  fresh := forall_mem_nil _
  plain := forall_mem_nil _

/-- The plan is bound to the user, who goes back to the default group when it is cancelled. -/
theorem cancelled_binding_restored : ∃ final,
    Runs.exec (happen 0) startSystem [⟨0, .adminBind 1 1⟩, ⟨10, .invalidate 1⟩] = some final ∧
      Restored "default" 1 final.store := by
  refine exists_end_of (by decide +kernel) fun final run => ?_
  refine user_group_restored ⟨by decide, by decide⟩ begins_startSystem ?_ run
  refine ⟨?_, fun middle taken => ⟨?_, fun _ _ => trivial⟩⟩
  · intro _ plan found
    have same : startSystem.store.plans.lookup 1 = some vipPlan := by decide
    cases same.symm.trans found
    refine fun _ => ⟨fun sub live => not_mem_nil live.member, fun endUnix ends => ?_⟩
    have due : calcPlanEndTime ⟨100, 0⟩ vipPlan = .ok 2592100 := by decide
    cases due.symm.trans ends
    decide
  · intro row live other
    have only : (happen 0 startSystem ⟨0, .adminBind 1 1⟩).map (fun system => system.store.subs.rows.map fun sub => sub.id) =
        some [1] := by decide +kernel
    rw [taken, map_some, Option.some.injEq] at only
    have member := mem_map_of_mem (f := fun sub : Subscription => sub.id) live.member
    rw [only] at member
    exact absurd (mem_singleton.mp member) other

/-- Two subscriptions for the same group: the second one remembers no group, so that the user stays in it when both are
cancelled. -/
theorem overlap_keeps_group : ∃ final, Runs.exec (happen 0) startSystem
      [⟨0, .adminBind 1 1⟩, ⟨0, .adminBind 1 1⟩, ⟨10, .invalidate 1⟩, ⟨10, .invalidate 2⟩] = some final ∧
    userGroup 1 startSystem.store = "default" ∧ (∀ sub, ¬Live 1 final.store sub) ∧ userGroup 1 final.store = "vip" := by
  have evaluated : (Runs.exec (happen 0) startSystem
      [⟨0, .adminBind 1 1⟩, ⟨0, .adminBind 1 1⟩, ⟨10, .invalidate 1⟩, ⟨10, .invalidate 2⟩]).map
        (fun system => (userGroup 1 system.store, system.store.subs.rows.map fun sub => sub.status)) =
      some ("vip", [.cancelled, .cancelled]) := by decide +kernel
  obtain ⟨final, run, same⟩ := map_eq_some_iff.mp evaluated
  obtain ⟨group, statuses⟩ := Prod.mk.inj same
  refine ⟨final, run, by decide, fun sub live => ?_, group⟩
  have member := mem_map_of_mem (f := fun sub : Subscription => sub.status) live.member
  rw [statuses, live.active] at member
  revert member
  decide

end Tokengine.Plans.GroupRestoration
